import Typeset.Inspect.Answer

/-! The command line: prints the JSON of a file, or of the standard input, with styles and fitted to
a page. -/
namespace Typeset

/-- The text of a file, or of the standard input; none if it cannot be read. -/
def readInput (file : Option String) : IO (Option String) := do
  try
    match file with
    | some name => return some (← IO.FS.readFile name)
    | none => return some (← (← IO.getStdin).readToEnd)
  catch _ => return none

end Typeset

def main (arguments : List String) : IO UInt32 := do
  let answer ← match Typeset.Inspect.Arguments.parse? arguments with
    | none => pure Typeset.Inspect.usageAnswer
    | some arguments => do
      let input ← Typeset.readInput arguments.file
      pure (Typeset.Inspect.answer arguments input)
  IO.print answer.output
  return answer.exitCode.toUInt32
