import Typeset.Proofs.FlatChoices
import Typeset.Proofs.Passages

/-! What a function is given for the width of a document. It is the number of columns from where the
document starts to where it ends in the layout that was taken. For a document on one line that is what it
takes there. For a document with newlines it is what the document takes on its last line only if that line
is indented to the column at which the document starts, as it is in an aligned one. -/
namespace Typeset

section
variable (cursor : Cursor) {tokens : List Token}

theorem Unbroken.column_readAll (unbroken : Unbroken tokens) :
    (cursor.readAll tokens).column = cursor.column + textWidth tokens := by
  have line := (cursor.readAll_firstLine tokens).1
  rwa [unbroken.firstLine_eq] at line

/-- After a newline the column is that of what stands on the last line. -/
theorem Unbroken.column_readAll_line (unbroken : Unbroken tokens) (above : List Token)
    (indent : Nat) :
    (cursor.readAll (above ++ .line indent :: tokens)).column = indent + textWidth tokens := by
  rw [Cursor.readAll_append]
  exact unbroken.column_readAll ((cursor.readAll above).read (.line indent))

end

/-- A layout that comes to a document with a width comes to what is given for the width, unless the
document fails. -/
theorem Doc.ComesTo.width {page : Page} {whole doc : Doc} {after : Nat → Doc} {before : List Token}
    {level : Int64} {rest : Cursor → List Token}
    (comes : whole.ComesTo page before (doc.width after) level rest) {own : List Token}
    (passes : doc.passage page level
      ((Doc.column fun stop => after (stop - (pointAfter before).column)).layoutThen page level rest)
      (pointAfter before) = own)
    (unfailing : .fail ∉ own) :
    whole.ComesTo page (before ++ own)
      (after ((pointAfter (before ++ own)).column - (pointAfter before).column)) level rest := by
  subst passes
  exact (comes.column.right unfailing).column

/-- Wherever the layout of a document comes to one with a width, its function is given the number of
columns from where that document starts to where it ends in the layout taken, and none if it ends to the
left of its start. Without newlines this is the number of columns that the document takes. With newlines
it is the number of those that it takes on its last line exactly if that line is indented to the column
at which the document starts, or if the line is empty and ends to the left of it. -/
theorem width_is_measured_from_the_start {page : Page} {whole doc : Doc} {after : Nat → Doc}
    {before : List Token} {level : Int64} {rest : Cursor → List Token}
    (comes : whole.ComesTo page before (doc.width after) level rest)
    (feasible : (whole.render page).isFeasible = true) :
    let start := (pointAfter before).column
    let own := doc.passage page level
      ((Doc.column fun stop => after (stop - start)).layoutThen page level rest) (pointAfter before)
    let stop := (pointAfter (before ++ own)).column
    whole.ComesTo page (before ++ own) (after (stop - start)) level rest ∧
      (whole.render page).tokens = before ++ own ++
        (after (stop - start)).layoutThen page level rest (pointAfter (before ++ own)) ∧
      (Unbroken own → stop - start = textWidth own) ∧
      ∀ above indent lastLine, own = above ++ .line indent :: lastLine → Unbroken lastLine →
        stop = indent + textWidth lastLine ∧
          (stop - start = textWidth lastLine ↔
            indent = start ∨ indent < start ∧ textWidth lastLine = 0) := by
  intro start own stop
  have unfailing : .fail ∉ own := comes.column.left.unfailing feasible
  have comesAfter := comes.width rfl unfailing
  refine ⟨comesAfter, comesAfter.tokens_render, ?_, ?_⟩
  · intro unbroken
    have ends : stop = start + textWidth own := by
      rw [← unbroken.column_readAll, ← pointAfter_append]
    rw [ends, Nat.add_sub_cancel_left]
  · intro above indent lastLine passes unbroken
    have ends : stop = indent + textWidth lastLine := by
      rw [← unbroken.column_readAll_line (pointAfter before) above indent, ← passes,
        ← pointAfter_append]
    refine ⟨ends, ?_⟩
    -- A subtraction that would go below zero gives none, so that an empty line is right by chance.
    omega

/-- A document with the number that its width is measured to be after it. -/
def Doc.tally (doc : Doc) : Doc := doc.width fun taken => .literal (.ofString taken.repr)

/-- A line and another one below it. -/
def twoLines : Doc :=
  .cat (.literal (.ofString "aa")) (.cat .newline (.literal (.ofString "bbb")))

/-- Two aligned lines are measured on the last of them, wherever they start. -/
theorem aligned_lines_are_three_wide :
    let page : Page := ⟨80, 80, .smart⟩
    let whole : Doc := .cat (.literal (.ofString "x")) twoLines.align.tally
    whole.ComesTo page [.text (.ofString "x")] twoLines.align.tally 0 (fun _ => []) ∧
      (whole.render page).isFeasible = true ∧
      (whole.render page).tokens = [.text (.ofString "x"), .text (.ofString "aa"), .line 1,
        .text (.ofString "bbb"), .text (.ofString "3")] := by
  intro page whole
  have comes : whole.ComesTo page [.text (.ofString "x")] twoLines.align.tally 0 (fun _ => []) :=
    Doc.ComesTo.whole.right (by decide)
  have feasible : (whole.render page).isFeasible = true := by
    rw [Rendered.isFeasible, Doc.tokens_render]
    decide
  obtain ⟨-, tokens, -, measured⟩ := width_is_measured_from_the_start comes feasible
  have onLine : Unbroken [.text (.ofString "bbb")] := by simp [Unbroken, Token.isLine]
  have taken := (measured [.text (.ofString "aa")] 1 _ (by decide) onLine).2.mpr (.inl (by decide))
  rw [taken] at tokens
  exact ⟨comes, feasible, tokens.trans (by decide)⟩

/-- Lines that are not aligned are measured from a column that is not theirs: of the three columns that
the last one takes, those that are left of where the document starts are missing. -/
theorem unaligned_lines_are_two_wide :
    let page : Page := ⟨80, 80, .smart⟩
    let whole : Doc := .cat (.literal (.ofString "x")) twoLines.tally
    whole.ComesTo page [.text (.ofString "x")] twoLines.tally 0 (fun _ => []) ∧
      (whole.render page).isFeasible = true ∧
      (whole.render page).tokens = [.text (.ofString "x"), .text (.ofString "aa"), .line 0,
        .text (.ofString "bbb"), .text (.ofString "2")] ∧
      textWidth [.text (.ofString "bbb")] = 3 := by
  refine ⟨Doc.ComesTo.whole.right (by decide), ?_, ?_, by decide⟩
  · rw [Rendered.isFeasible, Doc.tokens_render]
    decide
  · rw [Doc.tokens_render]
    decide

end Typeset
