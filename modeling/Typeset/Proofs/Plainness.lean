import Typeset.Doc.Plain
import Typeset.Proofs.Flatness

/-! What is left of a document without its styling. No node changes a style or returns to one, also in
what functions give, so that there is nothing left to take out. Flattening replaces nodes that have no
part in the styling, and the styling is taken out of the sides that it discards, descends into or uses
as they stand: it makes no difference which of the two comes first. -/
namespace Typeset

namespace Doc

/-- The kinds of nodes that are there for the styling. -/
def Kind.styling : List Kind := [.styled, .restore]

theorem plain_without_styling (doc : Doc) : doc.plain.Without Kind.styling := by
  induction doc with
  | fail | empty | literal piece | newline | restore style =>
    simp [Without, Every, kind, Kind.styling]
  | flatAlt first second ihFirst ihSecond | cat first second ihFirst ihSecond
  | union first second ihFirst ihSecond =>
    simpa [Without, Every, kind, Kind.styling] using And.intro ihFirst ihSecond
  | nest amount body ih | column body ih | columns body ih | nesting body ih =>
    simpa [Without, Every, kind, Kind.styling] using ih
  | styled change body ih =>
    rw [plain_styled]
    exact ih

/-- A document without styling is what is left of it without its styling. -/
theorem plain_eq_self {doc : Doc} (unstyled : doc.Without Kind.styling) : doc.plain = doc := by
  induction doc with
  | fail => exact plain_fail
  | empty => exact plain_empty
  | literal piece => exact plain_literal piece
  | newline => exact plain_newline
  | flatAlt broken flat ihBroken ihFlat =>
    rw [plain_flatAlt, ihBroken unstyled.2.1, ihFlat unstyled.2.2]
  | cat left right ihLeft ihRight => rw [plain_cat, ihLeft unstyled.2.1, ihRight unstyled.2.2]
  | nest amount body ih => rw [plain_nest, ih unstyled.2]
  | union flat broken ihFlat ihBroken =>
    rw [plain_union, ihFlat unstyled.2.1, ihBroken unstyled.2.2]
  | column body ih => rw [plain_column, funext fun start => ih start (unstyled.2 start)]
  | columns body ih => rw [plain_columns, funext fun width => ih width (unstyled.2 width)]
  | nesting body ih => rw [plain_nesting, funext fun level => ih level (unstyled.2 level)]
  | styled change body ih => exact absurd (by decide : Kind.styled ∈ Kind.styling) unstyled.1
  | restore style => exact absurd (by decide : Kind.restore ∈ Kind.styling) unstyled

/-- Taking out the styling and flattening commute: whatever one of them does with a node, the other
leaves for it to do. -/
theorem plain_flatten (doc : Doc) : doc.flatten.plain = doc.plain.flatten := by
  induction doc with
  | fail => simp only [flatten_fail, plain_fail]
  | empty => simp only [flatten_empty, plain_empty]
  | literal piece => simp only [flatten_literal, plain_literal]
  | newline => simp only [flatten_newline, plain_newline, plain_fail]
  | flatAlt broken flat ihBroken ihFlat => simp only [plain_flatAlt, flatten_flatAlt]
  | cat left right ihLeft ihRight => simp only [flatten_cat, plain_cat, ihLeft, ihRight]
  | nest amount body ih => simp only [flatten_nest, plain_nest, ih]
  | union flat broken ihFlat ihBroken => simp only [flatten_union, plain_union, ihFlat]
  | column body ih => simp only [flatten_column, plain_column, ih]
  | columns body ih => simp only [flatten_columns, plain_columns, ih]
  | nesting body ih => simp only [flatten_nesting, plain_nesting, ih]
  | styled change body ih => simp only [flatten_styled, plain_styled, ih]
  | restore style => simp only [flatten_restore, plain_restore, flatten_empty]

theorem plain_group (doc : Doc) : doc.group.plain = doc.plain.group := by
  rw [group, plain_union, plain_flatten, group]

end Doc

/-- Taking out the styling commutes with flattening and with groups. It leaves no styling anywhere in
the document, nor in what its functions give, and so it need not be done twice. -/
theorem unstyling_commutes_with_flattening (doc : Doc) :
    doc.flatten.plain = doc.plain.flatten ∧ doc.group.plain = doc.plain.group ∧
    doc.plain.plain = doc.plain ∧ doc.plain.Without [.styled, .restore] := by
  have unstyled := doc.plain_without_styling
  exact ⟨doc.plain_flatten, doc.plain_group, Doc.plain_eq_self unstyled, unstyled⟩

end Typeset
