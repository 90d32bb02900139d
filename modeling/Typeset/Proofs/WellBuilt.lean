import Typeset.Doc.Align
import Typeset.Doc.Fill
import Typeset.Proofs.Compaction
import Typeset.Proofs.Feasibility
import Typeset.Proofs.Lineless

/-! Well-built documents always have a layout. Flattening puts a failure in the place of every newline
of a group, and a lookahead stops at the first newline that it sees; but a flat document has none, so
that a failure in it is seen before the flat document is taken. -/
namespace Typeset

namespace Doc

/-- There is no failure in a document, nor in what its functions give. -/
def Unfailing (doc : Doc) : Prop := doc.Every fun node => node ≠ .fail

/-- A document made of groups rather than choices, whose flat forms go on one line. -/
inductive WellBuilt : Doc → Prop where
  | empty : WellBuilt .empty
  | literal (piece : Literal) : WellBuilt (.literal piece)
  | newline : WellBuilt .newline
  | restore (style : Style) : WellBuilt (.restore style)
  | cat {left right : Doc} (builtLeft : WellBuilt left) (builtRight : WellBuilt right) :
    WellBuilt (.cat left right)
  | nest {body : Doc} (amount : Int) (built : WellBuilt body) : WellBuilt (.nest amount body)
  | styled {body : Doc} (change : Change) (built : WellBuilt body) : WellBuilt (.styled change body)
  | group {body : Doc} (built : WellBuilt body) : WellBuilt body.group
  | flatAlt {broken flat : Doc} (built : WellBuilt broken) (lineless : flat.Lineless)
    (unfailing : flat.Unfailing) : WellBuilt (.flatAlt broken flat)
  | column {body : Nat → Doc} (built : ∀ start, WellBuilt (body start)) : WellBuilt (.column body)
  | columns {body : Option Nat → Doc} (built : ∀ width, WellBuilt (body width)) :
    WellBuilt (.columns body)
  | nesting {body : Int → Doc} (built : ∀ level, WellBuilt (body level)) :
    WellBuilt (.nesting body)

/-- On one line a well-built document has no newline left. -/
theorem WellBuilt.lineless_flatten {doc : Doc} (built : doc.WellBuilt) : doc.flatten.Lineless := by
  induction built with
  | empty | literal piece | newline | restore style => simp [Lineless, Every]
  | cat builtLeft builtRight ihLeft ihRight =>
    rw [flatten_cat]
    exact ⟨by simp, ihLeft, ihRight⟩
  | nest amount built ih =>
    rw [flatten_nest]
    exact ⟨by simp, ih⟩
  | styled change built ih =>
    rw [flatten_styled]
    exact ⟨by simp, ih⟩
  | group built ih =>
    rw [Doc.group, flatten_union]
    exact ih.flatten
  | flatAlt built lineless unfailing ih =>
    rw [flatten_flatAlt]
    exact lineless
  | column built ih =>
    rw [flatten_column]
    exact ⟨by simp, ih⟩
  | columns built ih =>
    rw [flatten_columns]
    exact ⟨by simp, ih⟩
  | nesting built ih =>
    rw [flatten_nesting]
    exact ⟨by simp, ih⟩

/-- A well-built document is laid out without a failure, if all that may come after it is. -/
theorem WellBuilt.unfailing_layoutThen {doc : Doc} (built : doc.WellBuilt) (page : Page)
    (level : Int64) {rest : Cursor → List Token} (after : ∀ cursor, .fail ∉ rest cursor)
    (cursor : Cursor) : .fail ∉ doc.layoutThen page level rest cursor := by
  induction built generalizing level rest cursor with
  | empty => exact after cursor
  | literal piece => exact List.not_mem_cons_of_ne_of_not_mem (by simp) (after _)
  | newline => exact List.not_mem_cons_of_ne_of_not_mem (by simp) (after _)
  | restore style => exact List.not_mem_cons_of_ne_of_not_mem (by simp) (after _)
  | cat builtLeft builtRight ihLeft ihRight => exact ihLeft level (ihRight level after) cursor
  | nest amount built ih => exact ih (level + .ofInt amount) after cursor
  | styled change built ih =>
    refine List.not_mem_cons_of_ne_of_not_mem (by simp) (ih level ?_ _)
    intro stop
    exact List.not_mem_cons_of_ne_of_not_mem (by simp) (after _)
  | @group body built ih =>
    rw [Doc.group, layoutThen]
    split
    · rename_i fits
      have line := ((page.fits_iff_lines ..).mp fits).1
      have early : FailsEarly (body.flatten.layoutThen page level rest cursor) :=
        built.lineless_flatten.failsEarly_layoutThen page level
          (fun stop fails => absurd fails (after stop)) cursor
      exact line.unfailing early
    · exact ih level after cursor
  | flatAlt built lineless unfailing ih => exact ih level after cursor
  | column built ih => exact ih _ level after cursor
  | columns built ih => exact ih _ level after cursor
  | nesting built ih => exact ih _ level after cursor

/-- A well-built document has a layout on every page. -/
theorem WellBuilt.unfailing_render {doc : Doc} (built : doc.WellBuilt) (page : Page) :
    .fail ∉ (doc.render page).tokens := by
  rw [tokens_render]
  exact built.unfailing_layoutThen page 0 (fun _ => List.not_mem_nil) {}

/-- The compact rendering of a well-built document adds no failure. -/
theorem WellBuilt.unfailing_add {doc : Doc} (built : doc.WellBuilt) (state : Compaction)
    (before : .fail ∉ state.tokens.toList) : .fail ∉ (state.add doc).tokens.toList := by
  induction built generalizing state with
  | empty | restore style => simpa using before
  | literal piece | newline =>
    rw [Compaction.add]
    split
    · exact before
    · simpa using before
  | cat builtLeft builtRight ihLeft ihRight => simpa using ihRight _ (ihLeft state before)
  | nest amount built ih => simpa using ih state before
  | styled change built ih => simpa using ih state before
  | group built ih => simpa [Doc.group] using ih state before
  | flatAlt built lineless unfailing ih => simpa using ih state before
  | column built ih => simpa using ih _ state before
  | columns built ih => simpa using ih _ state before
  | nesting built ih => simpa using ih _ state before

namespace WellBuilt

theorem text (written : String) : (Doc.text written).WellBuilt := by
  rw [Doc.text]
  split
  · exact .empty
  · exact .literal _

theorem line : Doc.line.WellBuilt :=
  .flatAlt .newline (by simp [Doc.text, Lineless, Every]) (by simp [Doc.text, Unfailing, Every])

theorem linebreak : Doc.linebreak.WellBuilt :=
  .flatAlt .newline (by simp [Lineless, Every]) (by simp [Unfailing, Every])

theorem align {doc : Doc} (built : doc.WellBuilt) : doc.align.WellBuilt :=
  .column fun _ => .nesting fun _ => .nest _ built

theorem width {doc : Doc} (built : doc.WellBuilt) {after : Nat → Doc}
    (builtAfter : ∀ taken, (after taken).WellBuilt) : (doc.width after).WellBuilt :=
  .column fun start => .cat built (.column fun stop => builtAfter (stop - start))

end WellBuilt
end Doc

/-- Well-built documents always render: whatever the page, the ribbon and the strategy, a well-built
document has a layout without a failure, and so has its compact rendering. -/
theorem well_built_documents_render (doc : Doc) (built : doc.WellBuilt) :
    (∀ page : Page, .fail ∉ (doc.render page).tokens) ∧ .fail ∉ doc.compact.tokens := by
  constructor
  · exact built.unfailing_render
  · exact built.unfailing_add {} List.not_mem_nil

/-- A block that no page puts on one line, with a choice inside and another around it. -/
def block : Doc :=
  .group (.cat (.literal (.ofString "do")) (.nest 2 (.cat .newline
    (.group (.cat (.literal (.ofString "this")) (.column fun start =>
      .cat (.flatAlt .newline (.literal (.ofString " "))) (.nest start (.literal (.ofString "that")))))))))

theorem block_renders :
    block.WellBuilt ∧ .fail ∈ (block.flatten.render ⟨20, 20, .smart⟩).tokens ∧
      .fail ∉ (block.render ⟨20, 20, .smart⟩).tokens ∧ .fail ∉ block.compact.tokens := by
  have built : block.WellBuilt :=
    .group (.cat (.literal _) (.nest 2 (.cat .newline (.group (.cat (.literal _) (.column fun start =>
      .cat (.flatAlt .newline (by simp [Doc.Lineless, Doc.Every]) (by simp [Doc.Unfailing, Doc.Every]))
        (.nest start (.literal _))))))))
  have flatFails : .fail ∈ (block.flatten.render ⟨20, 20, .smart⟩).tokens := by
    simp [block, Doc.group, Doc.tokens_render, Doc.layoutThen, Token.andThen]
  obtain ⟨onPage, compact⟩ := well_built_documents_render block built
  exact ⟨built, flatFails, onPage _, compact⟩

end Typeset
