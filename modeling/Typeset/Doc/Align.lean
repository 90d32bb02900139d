import Typeset.Doc.Build

/-! Documents whose lines start below each other, wherever the first of them starts. -/
namespace Typeset.Doc

/-- A document whose newlines are indented to the column at which it starts. -/
def align (doc : Doc) : Doc :=
  column fun start => nesting fun level => nest (start - level) doc

/-- A document whose newlines are indented by an amount from the column at which it starts. -/
def hang (amount : Int) (doc : Doc) : Doc := align (nest amount doc)

/-- A document all of whose lines, the first one too, are indented from the column at which it
starts. -/
def indent (amount : Nat) (doc : Doc) : Doc := hang amount (spaces amount + doc)

/-- What is aligned stays aligned on one line. -/
@[simp] theorem flatten_align (doc : Doc) : flatten (align doc) = align doc.flatten := by
  simp [align]

end Typeset.Doc
