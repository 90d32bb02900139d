import Typeset.Code

/-! How a medium spells style codes inside a text. Each code has one spelling, and a run of codes is
spelt code after code. -/
namespace Typeset

structure Escape where
  /-- The spelling of one code. -/
  spell : Code → String

namespace Escape

/-- A run of codes, spelt in order. -/
def spellAll (escape : Escape) (codes : List Code) : String :=
  codes.foldl (fun text code => text ++ escape.spell code) ""

/-- The sign that announces a code character. -/
def sectionMark : Char := '§'

/-- The character that stands for a code after a section sign. -/
def codeChar : Code → Char
  | .colour colour => colour.codeChar
  | .effect .bold => 'l'
  | .effect .strikethrough => 'm'
  | .effect .underline => 'n'
  | .effect .italic => 'o'
  | .effect .obfuscated => 'k'
  | .reset => 'r'

/-- A section sign and a code character. -/
def sectionSign : Escape where
  spell code := String.ofList [sectionMark, codeChar code]

/-- The parameters of the terminal sequence for a code. Colours are given by their red, green and
blue; text that should be unreadable blinks. -/
def ansiParameters : Code → String
  | .colour colour =>
    "38;2;" ++ colour.rgb.red.repr ++ ";" ++ colour.rgb.green.repr ++ ";" ++ colour.rgb.blue.repr
  | .effect .bold => "1"
  | .effect .italic => "3"
  | .effect .underline => "4"
  | .effect .obfuscated => "5"
  | .effect .strikethrough => "9"
  | .reset => "0"

/-- The escape sequences of terminals. -/
def ansi : Escape where
  spell code := "\x1b[" ++ ansiParameters code ++ "m"

def bare : Escape where
  spell _ := ""

end Escape
end Typeset
