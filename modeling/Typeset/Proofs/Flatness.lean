import Typeset.Doc.Flatten
import Typeset.Proofs.Hereditary

/-! What flattening leaves of a document. It replaces newlines, alternatives and choices, and keeps
every other node over flattened parts; only the flat side of an alternative is taken as it stands. So
whatever those sides are without, among the three, the flat document is without altogether, and what is
without all three is flat already. -/
namespace Typeset.Doc

/-- The kinds of nodes that flattening replaces. -/
def Kind.replaced : List Kind := [.newline, .flatAlt, .union]

/-- A condition on every node of a document gives one on every node of the flat document, if it does so
for flat sides and for the nodes that are kept over other parts. -/
theorem Every.flatten {p q : Doc → Prop} {doc : Doc} (every : doc.Every p) (fails : q .fail)
    (flatSide : ∀ broken flat, p (.flatAlt broken flat) → flat.Every p → flat.Every q)
    (kept : ∀ kind ∉ Kind.replaced, ∀ {node new : Doc}, p node → node.kind = kind →
      new.kind = kind → q new) :
    doc.flatten.Every q := by
  induction doc with
  | fail =>
    rw [flatten_fail]
    exact fails
  | empty =>
    rw [flatten_empty]
    exact kept .empty (by decide) every rfl rfl
  | literal piece =>
    rw [flatten_literal]
    exact kept .literal (by decide) every rfl rfl
  | restore style =>
    rw [flatten_restore]
    exact kept .restore (by decide) every rfl rfl
  | newline =>
    rw [flatten_newline]
    exact fails
  | flatAlt broken flat ihBroken ihFlat =>
    rw [flatten_flatAlt]
    exact flatSide broken flat every.1 every.2.2
  | union flat broken ihFlat ihBroken =>
    rw [flatten_union]
    exact ihFlat every.2.1
  | cat left right ihLeft ihRight =>
    rw [flatten_cat]
    exact ⟨kept .cat (by decide) every.1 rfl rfl, ihLeft every.2.1, ihRight every.2.2⟩
  | nest amount body ih =>
    rw [flatten_nest]
    exact ⟨kept .nest (by decide) every.1 rfl rfl, ih every.2⟩
  | styled change body ih =>
    rw [flatten_styled]
    exact ⟨kept .styled (by decide) every.1 rfl rfl, ih every.2⟩
  | column body ih =>
    rw [flatten_column]
    exact ⟨kept .column (by decide) every.1 rfl rfl, fun start => ih start (every.2 start)⟩
  | columns body ih =>
    rw [flatten_columns]
    exact ⟨kept .columns (by decide) every.1 rfl rfl, fun width => ih width (every.2 width)⟩
  | nesting body ih =>
    rw [flatten_nesting]
    exact ⟨kept .nesting (by decide) every.1 rfl rfl, fun level => ih level (every.2 level)⟩

variable {kinds : List Kind} {doc : Doc}

theorem Without.flatten (without : doc.Without kinds) (fails : .fail ∉ kinds) :
    doc.flatten.Without kinds := by
  refine Every.flatten without fails (fun broken flat _ side => side) ?_
  rintro kind _ node new absent rfl same
  rwa [same]

/-- Nodes that flattening replaces are left over in flat sides only. -/
theorem FlatSidesWithout.flatten (flatSides : doc.FlatSidesWithout kinds)
    (included : ∀ kind ∈ kinds, kind ∈ Kind.replaced) : doc.flatten.Without kinds := by
  have fails : Kind.fail ∉ kinds := fun member => absurd (included _ member) (by decide)
  refine Every.flatten flatSides fails (fun broken flat side _ => side broken flat rfl) ?_
  rintro kind kept node new _ _ rfl member
  exact kept (included _ member)

theorem FlatSidesWithout.flatten_sides (flatSides : doc.FlatSidesWithout kinds) :
    doc.flatten.FlatSidesWithout kinds := by
  refine Every.flatten flatSides (by simp) (fun broken flat _ sides => sides) ?_
  rintro kind kept node new _ _ same broken flat rfl
  have alternative : kind = .flatAlt := same.symm
  exact absurd (by decide) (alternative ▸ kept)

theorem FlatSidesWithout.group (flatSides : doc.FlatSidesWithout kinds) :
    doc.group.FlatSidesWithout kinds :=
  ⟨by simp, flatSides.flatten_sides, flatSides⟩

/-- A document in which there is nothing to replace is its own flat form. -/
theorem flatten_eq_self (flat : doc.Without Kind.replaced) : doc.flatten = doc := by
  induction doc with
  | fail => exact flatten_fail
  | empty => exact flatten_empty
  | literal piece => exact flatten_literal piece
  | restore style => exact flatten_restore style
  | newline => exact absurd (by decide : Kind.newline ∈ Kind.replaced) flat
  | flatAlt broken other ihBroken ihOther =>
    exact absurd (by decide : Kind.flatAlt ∈ Kind.replaced) flat.1
  | union other broken ihOther ihBroken =>
    exact absurd (by decide : Kind.union ∈ Kind.replaced) flat.1
  | cat left right ihLeft ihRight => rw [flatten_cat, ihLeft flat.2.1, ihRight flat.2.2]
  | nest amount body ih => rw [flatten_nest, ih flat.2]
  | styled change body ih => rw [flatten_styled, ih flat.2]
  | column body ih => rw [flatten_column, funext fun start => ih start (flat.2 start)]
  | columns body ih => rw [flatten_columns, funext fun width => ih width (flat.2 width)]
  | nesting body ih => rw [flatten_nesting, funext fun level => ih level (flat.2 level)]

end Typeset.Doc
