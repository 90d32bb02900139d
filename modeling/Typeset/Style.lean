import Typeset.Colour

/-! Styles of text. A style is the complete set of what is in effect at a point of the output; a
change sets a single part of it. -/
namespace Typeset

/-- An effect on text other than its colour, either on or off. -/
inductive Effect where
  | bold | strikethrough | underline | italic | obfuscated
  deriving DecidableEq, Repr

namespace Effect

/-- All effects, in the order in which they are turned on. -/
def all : List Effect := [.bold, .strikethrough, .underline, .italic, .obfuscated]

def name : Effect → String
  | .bold => "bold"
  | .strikethrough => "strikethrough"
  | .underline => "underline"
  | .italic => "italic"
  | .obfuscated => "obfuscated"

/-- The effect that has exactly this name. -/
def ofName? (name : String) : Option Effect := all.find? fun effect => effect.name == name

end Effect

/-- Everything that is in effect at some point of the output. Without a colour, text has the colour
of the medium. -/
structure Style where
  colour : Option Colour := none
  bold : Bool := false
  strikethrough : Bool := false
  underline : Bool := false
  italic : Bool := false
  obfuscated : Bool := false
  deriving DecidableEq, Repr, Inhabited

/-- The setting of a single part of a style. -/
inductive Change where
  /-- Set a colour, or go back to the colour of the medium. -/
  | colour (colour : Option Colour)
  | turn (effect : Effect) (on : Bool)
  deriving DecidableEq, Repr

namespace Style

/-- No colour and no effects. -/
def plain : Style := {}

def isPlain (style : Style) : Bool := style == plain

def has (style : Style) : Effect → Bool
  | .bold => style.bold
  | .strikethrough => style.strikethrough
  | .underline => style.underline
  | .italic => style.italic
  | .obfuscated => style.obfuscated

/-- A style with one effect turned on or off. -/
def turn (style : Style) (effect : Effect) (on : Bool) : Style :=
  match effect with
  | .bold => { style with bold := on }
  | .strikethrough => { style with strikethrough := on }
  | .underline => { style with underline := on }
  | .italic => { style with italic := on }
  | .obfuscated => { style with obfuscated := on }

def apply (style : Style) : Change → Style
  | .colour colour => { style with colour }
  | .turn effect on => style.turn effect on

end Style
end Typeset
