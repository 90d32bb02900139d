import Typeset.Literal
import Typeset.Code

/-! Tokens: what is left of a document once every choice of layout is made. -/
namespace Typeset

/-- One piece of a layout. -/
inductive Token where
  | text (piece : Literal)
  | line (indent : Nat)
  | format (codes : List Code)
  /-- The document has no layout; nothing comes after this. -/
  | fail
  deriving DecidableEq

namespace Token

def isFormat : Token → Bool
  | format _ => true
  | _ => false

def isLine : Token → Bool
  | line _ => true
  | _ => false

/-- The piece of text in a token that should not hold a newline and does. -/
def illegal? : Token → Option Literal
  | text piece => if piece.isOneLine then none else some piece
  | _ => none

end Token
end Typeset
