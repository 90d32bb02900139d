import Typeset.Doc.Align
import Typeset.Doc.Fill
import Typeset.Proofs.Backtracking
import Typeset.Proofs.Compaction

/-! The algebra of documents. Sequences are associative and the empty document is their unit;
indentation adds up, is shared by the parts of a sequence, and is nothing to a text or to what is
aligned. Two documents that differ by such laws, at any depth and also in what their functions give,
cannot be told apart by any layout, and flattening keeps it so. -/
namespace Typeset

namespace Doc

/-- The least congruence of documents that has these laws. Functions are congruent if what they give
is, place by place. -/
inductive Congruent : Doc → Doc → Prop where
  | refl (doc : Doc) : Congruent doc doc
  | symm {doc other : Doc} (same : Congruent doc other) : Congruent other doc
  | trans {doc middle other : Doc} (first : Congruent doc middle)
    (second : Congruent middle other) : Congruent doc other
  | flatAlt {broken flat otherBroken otherFlat : Doc} (sameBroken : Congruent broken otherBroken)
    (sameFlat : Congruent flat otherFlat) :
    Congruent (.flatAlt broken flat) (.flatAlt otherBroken otherFlat)
  | cat {left right otherLeft otherRight : Doc} (sameLeft : Congruent left otherLeft)
    (sameRight : Congruent right otherRight) :
    Congruent (.cat left right) (.cat otherLeft otherRight)
  | nest (amount : Int) {body other : Doc} (same : Congruent body other) :
    Congruent (.nest amount body) (.nest amount other)
  | union {flat broken otherFlat otherBroken : Doc} (sameFlat : Congruent flat otherFlat)
    (sameBroken : Congruent broken otherBroken) :
    Congruent (.union flat broken) (.union otherFlat otherBroken)
  | column {body other : Nat → Doc} (same : ∀ start, Congruent (body start) (other start)) :
    Congruent (.column body) (.column other)
  | columns {body other : Option Nat → Doc} (same : ∀ width, Congruent (body width) (other width)) :
    Congruent (.columns body) (.columns other)
  | nesting {body other : Int → Doc} (same : ∀ level, Congruent (body level) (other level)) :
    Congruent (.nesting body) (.nesting other)
  | styled (change : Change) {body other : Doc} (same : Congruent body other) :
    Congruent (.styled change body) (.styled change other)
  | assoc (first second third : Doc) :
    Congruent (.cat (.cat first second) third) (.cat first (.cat second third))
  | empty_cat (doc : Doc) : Congruent (.cat .empty doc) doc
  | cat_empty (doc : Doc) : Congruent (.cat doc .empty) doc
  | nest_nest (outer inner : Int) (doc : Doc) :
    Congruent (.nest outer (.nest inner doc)) (.nest (outer + inner) doc)
  | nest_zero (doc : Doc) : Congruent (.nest 0 doc) doc
  | nest_cat (amount : Int) (left right : Doc) :
    Congruent (.nest amount (.cat left right)) (.cat (.nest amount left) (.nest amount right))
  | nest_text (amount : Int) (content : String) :
    Congruent (.nest amount (.text content)) (.text content)
  | nest_align (amount : Int) (doc : Doc) : Congruent (.nest amount doc.align) doc.align
  | align_align (doc : Doc) : Congruent doc.align.align doc.align

namespace Congruent
variable {doc other : Doc}

/-- Flattening keeps documents congruent: every law holds of the flat documents too. -/
theorem flatten (same : doc.Congruent other) : doc.flatten.Congruent other.flatten := by
  induction same with
  | refl doc => exact .refl doc.flatten
  | symm same ih => exact .symm ih
  | trans first second ihFirst ihSecond => exact .trans ihFirst ihSecond
  | flatAlt sameBroken sameFlat ihBroken ihFlat =>
    rw [flatten_flatAlt, flatten_flatAlt]
    exact sameFlat
  | cat sameLeft sameRight ihLeft ihRight =>
    rw [flatten_cat, flatten_cat]
    exact .cat ihLeft ihRight
  | nest amount same ih =>
    rw [flatten_nest, flatten_nest]
    exact .nest amount ih
  | union sameFlat sameBroken ihFlat ihBroken =>
    rw [flatten_union, flatten_union]
    exact ihFlat
  | column same ih =>
    rw [flatten_column, flatten_column]
    exact .column ih
  | columns same ih =>
    rw [flatten_columns, flatten_columns]
    exact .columns ih
  | nesting same ih =>
    rw [flatten_nesting, flatten_nesting]
    exact .nesting ih
  | styled change same ih =>
    rw [flatten_styled, flatten_styled]
    exact .styled change ih
  | assoc first second third =>
    simp only [flatten_cat]
    exact .assoc _ _ _
  | empty_cat doc =>
    rw [flatten_cat, flatten_empty]
    exact .empty_cat _
  | cat_empty doc =>
    rw [flatten_cat, flatten_empty]
    exact .cat_empty _
  | nest_nest outer inner doc =>
    simp only [flatten_nest]
    exact .nest_nest outer inner _
  | nest_zero doc =>
    rw [flatten_nest]
    exact .nest_zero _
  | nest_cat amount left right =>
    simp only [flatten_nest, flatten_cat]
    exact .nest_cat amount _ _
  | nest_text amount content =>
    rw [flatten_nest, flatten_text]
    exact .nest_text amount content
  | nest_align amount doc =>
    rw [flatten_nest, flatten_align]
    exact .nest_align amount _
  | align_align doc =>
    simp only [flatten_align]
    exact .align_align _

theorem group (same : doc.Congruent other) : doc.group.Congruent other.group :=
  .union same.flatten same

theorem align (same : doc.Congruent other) : doc.align.Congruent other.align :=
  .column fun start => .nesting fun level => .nest (start - level) same

end Congruent

/-- A text is laid out alike at every level: it has no newline to indent. -/
theorem layoutThen_text_level (page : Page) (content : String) (level other : Int64) :
    (text content).layoutThen page level = (text content).layoutThen page other := by
  unfold text
  split <;> rfl

/-- A document is aligned by standing at the level of the column at which it starts. -/
theorem layoutThen_align (page : Page) (doc : Doc) (level : Int64) (rest : Cursor → List Token)
    (cursor : Cursor) : doc.align.layoutThen page level rest cursor =
      doc.layoutThen page (.ofNat cursor.column) rest cursor := by
  simp only [align, layoutThen, aligned_level]

/-- Congruent documents have the same layout at every place, whatever comes after them. -/
theorem Congruent.layoutThen_eq {doc other : Doc} (same : doc.Congruent other) (page : Page)
    (level : Int64) : doc.layoutThen page level = other.layoutThen page level := by
  induction same generalizing level with
  | refl doc => rfl
  | symm same ih => exact (ih level).symm
  | trans first second ihFirst ihSecond => exact (ihFirst level).trans (ihSecond level)
  | flatAlt sameBroken sameFlat ihBroken ihFlat => exact ihBroken level
  | cat sameLeft sameRight ihLeft ihRight =>
    funext rest
    simp only [layoutThen, ihLeft level, ihRight level]
  | nest amount same ih => exact ih (level + .ofInt amount)
  | union sameFlat sameBroken ihFlat ihBroken =>
    -- Both alternatives are laid out with the same things after them, so the same one is taken.
    funext rest cursor
    simp only [layoutThen, ihFlat level, ihBroken level]
  | column same ih =>
    funext rest cursor
    exact congrFun (congrFun (ih cursor.column level) rest) cursor
  | columns same ih => exact ih (some page.width.toNat) level
  | nesting same ih => exact ih level.toInt level
  | styled change same ih =>
    funext rest cursor
    simp only [layoutThen, ih level]
  | assoc first second third => rfl
  | empty_cat doc => rfl
  | cat_empty doc => rfl
  | nest_nest outer inner doc =>
    simp only [layoutThen, Int64.ofInt_add, Int64.add_assoc]
  | nest_zero doc =>
    have still : level + .ofInt 0 = level := Int64.add_zero level
    simp only [layoutThen, still]
  | nest_cat amount left right => rfl
  | nest_text amount content => exact layoutThen_text_level page content _ _
  | nest_align amount doc =>
    funext rest cursor
    rw [layoutThen, layoutThen_align, layoutThen_align]
  | align_align doc =>
    funext rest cursor
    simp only [layoutThen_align]

end Doc

namespace Compaction

theorem add_align (state : Compaction) (doc : Doc) : state.add doc.align = state.add doc := by
  simp [Doc.align]

/-- Congruent documents add the same to every compact rendering. -/
theorem add_congruent {doc other : Doc} (same : doc.Congruent other) (state : Compaction) :
    state.add doc = state.add other := by
  induction same generalizing state with
  | refl doc => rfl
  | symm same ih => exact (ih state).symm
  | trans first second ihFirst ihSecond => exact (ihFirst state).trans (ihSecond state)
  | flatAlt sameBroken sameFlat ihBroken ihFlat => simp [ihBroken]
  | cat sameLeft sameRight ihLeft ihRight => simp [ihLeft, ihRight]
  | nest amount same ih => simp [ih]
  | union sameFlat sameBroken ihFlat ihBroken => simp [ihBroken]
  | column same ih => simp [ih]
  | columns same ih => simp [ih]
  | nesting same ih => simp [ih]
  | styled change same ih => simp [ih]
  | assoc first second third => simp
  | empty_cat doc => simp
  | cat_empty doc => simp
  | nest_nest outer inner doc => simp
  | nest_zero doc => simp
  | nest_cat amount left right => simp
  | nest_text amount content => simp
  | nest_align amount doc => simp
  | align_align doc => simp only [add_align]

end Compaction

/-- The algebra of documents holds up to rendering. Documents that are congruent under its laws stay
congruent on one line and as groups, and they are rendered to the same tokens on every page, with both
strategies and every ribbon, and by the compact rendering. -/
theorem congruent_documents_render_alike {doc other : Doc} (same : doc.Congruent other) :
    doc.flatten.Congruent other.flatten ∧ doc.group.Congruent other.group ∧
    (∀ page : Page, (doc.render page).tokens = (other.render page).tokens) ∧
    doc.compact.tokens = other.compact.tokens := by
  refine ⟨same.flatten, same.group, fun page => ?_, ?_⟩
  · rw [Doc.tokens_render, Doc.tokens_render, same.layoutThen_eq]
  · rw [Doc.compact, Doc.compact, Compaction.add_congruent same]

/-- A padded entry between brackets, in a group and inside two indentations. -/
def entry : Doc :=
  .styled (.turn .bold true) (.column fun start => .group (.nest 1 (.nest 2
    (.cat (.cat (.text "[") (Doc.align (.cat (.fill start (.text "x")) (.cat .linebreak .empty))))
      (.text "]")))))

/-- The same entry without the indentations, which have no effect, and aligned twice. -/
def entryInParts : Doc :=
  .styled (.turn .bold true) (.column fun start => .group
    (.cat (.text "[") (.cat (Doc.align (Doc.align (.cat (.fill start (.text "x")) .linebreak)))
      (.text "]"))))

private theorem entry_congruent : entry.Congruent entryInParts := by
  refine .styled _ (.column fun start => .group ?_)
  refine .trans (.nest_nest 1 2 _) ?_
  refine .trans (.nest _ (.assoc _ _ _)) ?_
  refine .trans (.nest_cat _ _ _) (.cat (.nest_text _ _) ?_)
  refine .trans (.nest_cat _ _ _) (.cat ?_ (.nest_text _ _))
  refine .trans (.nest_align _ _) (.trans (.symm (.align_align _)) ?_)
  exact .align (.align (.cat (.refl _) (.cat_empty _)))

theorem entry_renders_alike :
    entry.Congruent entryInParts ∧ entry.group.Congruent entryInParts.group ∧
      (entry.render ⟨2, 2, .smart⟩).tokens = (entryInParts.render ⟨2, 2, .smart⟩).tokens ∧
      entry.compact.tokens = entryInParts.compact.tokens := by
  obtain ⟨_, grouped, onPage, compact⟩ := congruent_documents_render_alike entry_congruent
  exact ⟨entry_congruent, grouped, onPage _, compact⟩

end Typeset
