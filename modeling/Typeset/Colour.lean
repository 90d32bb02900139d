import Typeset.Text.Blank
import Typeset.Error

/-! The seventeen colours of text: their names, the character that stands for each after a section
sign, the values a screen shows for each, and how a colour is read from what a person wrote. -/
namespace Typeset

inductive Colour where
  | black | darkBlue | darkGreen | darkAqua | darkRed | darkPurple | gold | gray | darkGray
  | blue | green | aqua | red | lightPurple | yellow | white | minecoinGold
  deriving DecidableEq, Repr

namespace Colour

def all : List Colour :=
  [.black, .darkBlue, .darkGreen, .darkAqua, .darkRed, .darkPurple, .gold, .gray, .darkGray,
   .blue, .green, .aqua, .red, .lightPurple, .yellow, .white, .minecoinGold]

theorem mem_all (colour : Colour) : colour ∈ all := by cases colour <;> decide

/-- The character that stands for a colour after a section sign. -/
def codeChar : Colour → Char
  | .black => '0'
  | .darkBlue => '1'
  | .darkGreen => '2'
  | .darkAqua => '3'
  | .darkRed => '4'
  | .darkPurple => '5'
  | .gold => '6'
  | .gray => '7'
  | .darkGray => '8'
  | .blue => '9'
  | .green => 'a'
  | .aqua => 'b'
  | .red => 'c'
  | .lightPurple => 'd'
  | .yellow => 'e'
  | .white => 'f'
  | .minecoinGold => 'g'

/-- An amount of red, green and blue, each from 0 to 255. -/
structure Rgb where
  red : Nat
  green : Nat
  blue : Nat
  deriving DecidableEq, Repr

/-- What a screen shows for a colour. -/
def rgb : Colour → Rgb
  | .black => ⟨0, 0, 0⟩
  | .darkBlue => ⟨0, 0, 170⟩
  | .darkGreen => ⟨0, 170, 0⟩
  | .darkAqua => ⟨0, 170, 170⟩
  | .darkRed => ⟨170, 0, 0⟩
  | .darkPurple => ⟨170, 0, 170⟩
  | .gold => ⟨255, 170, 0⟩
  | .gray => ⟨198, 198, 198⟩
  | .darkGray => ⟨85, 85, 85⟩
  | .blue => ⟨85, 85, 255⟩
  | .green => ⟨85, 255, 85⟩
  | .aqua => ⟨85, 255, 255⟩
  | .red => ⟨255, 85, 85⟩
  | .lightPurple => ⟨255, 85, 255⟩
  | .yellow => ⟨255, 255, 85⟩
  | .white => ⟨255, 255, 255⟩
  | .minecoinGold => ⟨221, 214, 5⟩

/-- The name of a colour, its words joined by underscores. -/
def name : Colour → String
  | .black => "black"
  | .darkBlue => "dark_blue"
  | .darkGreen => "dark_green"
  | .darkAqua => "dark_aqua"
  | .darkRed => "dark_red"
  | .darkPurple => "dark_purple"
  | .gold => "gold"
  | .gray => "gray"
  | .darkGray => "dark_gray"
  | .blue => "blue"
  | .green => "green"
  | .aqua => "aqua"
  | .red => "red"
  | .lightPurple => "light_purple"
  | .yellow => "yellow"
  | .white => "white"
  | .minecoinGold => "minecoin_gold"

/-- The name of a colour in one word, each part of it capitalised. -/
def title (colour : Colour) : String :=
  String.join ((colour.name.splitOn "_").map String.capitalize)

/-- The colour that has exactly this name. -/
def ofName? (name : String) : Option Colour := all.find? fun colour => colour.name == name

/-- A written name in the form in which names are compared: without blanks around it, in lower
case (of ASCII), with underscores for hyphens and spaces. -/
def normalise (written : String) : String :=
  String.ofList <| (Text.trimBlanks written.toList).map fun c =>
    if c = '-' || c = ' ' then '_' else c.toLower

/-- The colour that a person means by a name or by a code character. -/
def parse (written : String) : Except Error Colour :=
  let wanted := normalise written
  match all.find? fun colour => colour.name == wanted || colour.codeChar.toString == wanted with
  | some colour => .ok colour
  | none => .error (.unknownColour written)

end Colour
end Typeset
