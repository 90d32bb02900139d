import Typeset.Token
import Typeset.Escape

/-! A rendered document: tokens in the order of the output. It is written out with some spelling of
its style codes, and only if it holds no failure. -/
namespace Typeset

/-- A document with every choice of layout made. -/
structure Rendered where
  tokens : List Token
  deriving DecidableEq

namespace Rendered

/-- Whether the document had a layout. A failure can only come last. -/
def isFeasible (rendered : Rendered) : Bool := rendered.tokens.getLast? != some .fail

/-- The style codes, in the groups in which they are written. -/
def codeRuns (rendered : Rendered) : List (List Code) :=
  rendered.tokens.filterMap fun
    | .format codes => some codes
    | _ => none

/-- Tokens written out after the text before them. -/
def writeAfter (escape : Escape) (before : String) : List Token → Except Error String
  | [] => .ok before
  | .text piece :: rest => writeAfter escape (before ++ piece.text) rest
  | .line indent :: rest => writeAfter escape ((before.push '\n').pushn ' ' indent) rest
  | .format codes :: rest => writeAfter escape (before ++ escape.spellAll codes) rest
  | .fail :: _ => .error .infeasible

/-- The document as text, if it had a layout. -/
def write? (escape : Escape) (rendered : Rendered) : Except Error String :=
  writeAfter escape "" rendered.tokens

end Rendered
end Typeset
