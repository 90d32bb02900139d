import Typeset.Inspect.Arguments
import Typeset.Inspect.Document
import Typeset.Json.Source

/-! Printing JSON with styles, fitted to a page: what the command line answers to its arguments and
its input. -/
namespace Typeset.Inspect

/-- What the command line answers: an exit code, and the text on its standard output. -/
structure Answer where
  exitCode : Nat
  output : String
  deriving DecidableEq, Repr

def Arguments.options (arguments : Arguments) : Options where
  width := arguments.width
  ribbonFraction := arguments.ribbon
  mode := arguments.mode
  styled := arguments.codes != .bare

/-- A JSON value printed as arguments ask for. -/
def print? (writer : Json.Writer) (arguments : Arguments) (value : Json) : Except Error String := do
  let rendered ← arguments.options.render? (value.doc writer)
  rendered.write? arguments.codes.escape

/-- The answer when the arguments are not well formed. -/
def usageAnswer : Answer := ⟨2, ""⟩

/-- The answer to well-formed arguments and an input, which is none if it cannot be read. -/
def answer (arguments : Arguments) (input : Option String) : Answer :=
  match input.bind Json.parse? with
  | none => ⟨1, ""⟩
  | some value =>
    match print? .compact arguments value with
    | .ok text => ⟨0, text.push '\n'⟩
    | .error _ => ⟨1, ""⟩

end Typeset.Inspect
