import Typeset.Text.Quoted

/-! What can go wrong when a document is built, a name is read, or a layout is written out. Each
error is a cause; `Error.message` holds the wording. -/
namespace Typeset

/-- The reasons for which the library refuses. -/
inductive Error where
  /-- A failed alternative reached the output. -/
  | infeasible
  /-- No colour has this name. -/
  | unknownColour (name : String)
  /-- No way of rendering has this name. -/
  | unknownMode (name : String)
  /-- A piece of text holds a newline, so that its width means nothing. -/
  | newlineInText (text : String)
  deriving DecidableEq, Repr

def Error.message : Error → String
  | .infeasible => "Document has no feasible layout: a failed alternative reached the output."
  | .unknownColour name => "Unknown colour '" ++ name ++ "'."
  | .unknownMode name =>
    "Unknown render mode '" ++ name ++ "': expected 'pretty', 'smart', or 'compact'."
  | .newlineInText text =>
    "Text in a document must not contain a newline: " ++ Text.quoted text

end Typeset
