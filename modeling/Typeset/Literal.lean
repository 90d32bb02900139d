import Typeset.Text.Width
import Typeset.Error

/-! Pieces of text that go on one line, each with the columns it takes. The width is kept beside the
text because a layout asks for it again and again; that it is the width of the text is part of the
type. A piece of text should not hold a newline, since its width would then mean nothing:
`Literal.of?` refuses one, and `Literal.IsOneLine` says that there is none. -/
namespace Typeset

/-- A text and the columns it takes. -/
structure Literal where
  text : String
  width : Nat := Text.displayWidth text
  width_eq : width = Text.displayWidth text := by rfl
  deriving DecidableEq

namespace Literal

/-- A text with its width, whatever it holds. -/
def ofString (text : String) : Literal := { text }

/-- Whether a piece of text holds no newline. -/
def isOneLine (literal : Literal) : Bool := !literal.text.toList.contains '\n'

/-- A piece of text holds no newline. -/
def IsOneLine (literal : Literal) : Prop := literal.isOneLine = true

/-- A text with its width, if the text goes on one line. -/
def of? (text : String) : Except Error Literal :=
  let literal := ofString text
  if literal.isOneLine then .ok literal else .error (.newlineInText text)

@[simp] theorem text_ofString (text : String) : (ofString text).text = text := rfl

@[simp] theorem width_ofString (text : String) :
    (ofString text).width = Text.displayWidth text := rfl

end Literal
end Typeset
