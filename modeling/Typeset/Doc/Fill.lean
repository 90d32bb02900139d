import Typeset.Doc.Build

/-! Documents that are padded to a width. The width is the one on the line on which the document
ends, and is known only in a layout. -/
namespace Typeset.Doc

/-- A document, followed by what a function gives for the number of columns from where it started
to where it ends; none if it ends to the left of its start. -/
def width (doc : Doc) (after : Nat → Doc) : Doc :=
  column fun start => doc + column fun stop => after (stop - start)

/-- A document padded with spaces to a width. -/
def fill (target : Nat) (doc : Doc) : Doc :=
  width doc fun taken => if taken ≥ target then empty else spaces (target - taken)

/-- A document padded with spaces to a width; if it is wider, what follows goes on a new line,
indented by the width. -/
def fillBreak (target : Nat) (doc : Doc) : Doc :=
  width doc fun taken => if taken > target then nest target linebreak else spaces (target - taken)

end Typeset.Doc
