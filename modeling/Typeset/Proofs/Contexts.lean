import Typeset.Proofs.Algebra

/-! Documents with a hole. Whatever two documents have in common on one line and in every layout, the
documents around them have in common too: a group around a hole tries what is in it on one line, and lays
it out as it is if that does not fit. -/
namespace Typeset.Doc

/-- A document with a hole, in sequences, indentations, styles, groups and alignments. -/
inductive Context where
  | hole
  | catLeft (left : Context) (right : Doc)
  | catRight (left : Doc) (right : Context)
  | nest (amount : Int) (body : Context)
  | styled (change : Change) (body : Context)
  | group (body : Context)
  | align (body : Context)

namespace Context

/-- The document around a hole, with another one in the hole. -/
def fill : Context → Doc → Doc
  | hole, doc => doc
  | catLeft left right, doc => .cat (left.fill doc) right
  | catRight left right, doc => .cat left (right.fill doc)
  | nest amount body, doc => .nest amount (body.fill doc)
  | styled change body, doc => .styled change (body.fill doc)
  | group body, doc => (body.fill doc).group
  | align body, doc => (body.fill doc).align

/-- A condition on every document that stands beside the hole. -/
def Beside (p : Doc → Prop) : Context → Prop
  | hole => True
  | catLeft left right => left.Beside p ∧ p right
  | catRight left right => p left ∧ right.Beside p
  | nest _ body | styled _ body | group body | align body => body.Beside p

/-- A document with a hole, and the same one without some of the groups around the hole. -/
inductive Ungrouped : Context → Context → Prop where
  | hole : Ungrouped hole hole
  | catLeft {left fewer : Context} (without : Ungrouped left fewer) (right : Doc) :
    Ungrouped (catLeft left right) (catLeft fewer right)
  | catRight (left : Doc) {right fewer : Context} (without : Ungrouped right fewer) :
    Ungrouped (catRight left right) (catRight left fewer)
  | nest (amount : Int) {body fewer : Context} (without : Ungrouped body fewer) :
    Ungrouped (nest amount body) (nest amount fewer)
  | styled (change : Change) {body fewer : Context} (without : Ungrouped body fewer) :
    Ungrouped (styled change body) (styled change fewer)
  | group {body fewer : Context} (without : Ungrouped body fewer) :
    Ungrouped (group body) (group fewer)
  | align {body fewer : Context} (without : Ungrouped body fewer) :
    Ungrouped (align body) (align fewer)
  | removed {body fewer : Context} (without : Ungrouped body fewer) : Ungrouped (group body) fewer

theorem Ungrouped.refl (context : Context) : context.Ungrouped context := by
  induction context with
  | hole => exact .hole
  | catLeft left right ih => exact .catLeft ih right
  | catRight left right ih => exact .catRight left ih
  | nest amount body ih => exact .nest amount ih
  | styled change body ih => exact .styled change ih
  | group body ih => exact .group ih
  | align body ih => exact .align ih

theorem Ungrouped.beside {p : Doc → Prop} {context fewer : Context}
    (ungrouped : context.Ungrouped fewer) (beside : context.Beside p) : fewer.Beside p := by
  induction ungrouped with
  | hole => trivial
  | catLeft without right ih => exact ⟨ih beside.1, beside.2⟩
  | catRight left without ih => exact ⟨beside.1, ih beside.2⟩
  | nest amount without ih | styled change without ih | group without ih | align without ih
  | removed without ih => exact ih beside

end Context

/-- Two documents that come to the same on one line, and that no layout tells apart. -/
structure Interchangeable (doc other : Doc) : Prop where
  flat : doc.flatten = other.flatten
  layout : ∀ page, doc.layoutThen page = other.layoutThen page

theorem layoutThen_group_congr {doc other : Doc} {page : Page}
    (flat : doc.flatten.layoutThen page = other.flatten.layoutThen page)
    (layout : doc.layoutThen page = other.layoutThen page) :
    doc.group.layoutThen page = other.group.layoutThen page := by
  funext level rest cursor
  simp only [group, layoutThen, flat, layout]

theorem layoutThen_align_congr {doc other : Doc} {page : Page}
    (layout : doc.layoutThen page = other.layoutThen page) :
    doc.align.layoutThen page = other.align.layoutThen page := by
  funext level rest cursor
  rw [layoutThen_align, layoutThen_align, layout]

/-- Documents are interchangeable in every context if they are on their own. -/
theorem Interchangeable.fill {doc other : Doc} (same : doc.Interchangeable other)
    (context : Context) : (context.fill doc).Interchangeable (context.fill other) := by
  induction context with
  | hole => exact same
  | catLeft left right ih =>
    refine ⟨by simp only [Context.fill, flatten_cat, ih.flat], fun page => ?_⟩
    funext level rest
    simp only [Context.fill, layoutThen, ih.layout page]
  | catRight left right ih =>
    refine ⟨by simp only [Context.fill, flatten_cat, ih.flat], fun page => ?_⟩
    funext level rest
    simp only [Context.fill, layoutThen, ih.layout page]
  | nest amount body ih =>
    refine ⟨by simp only [Context.fill, flatten_nest, ih.flat], fun page => ?_⟩
    funext level
    exact congrFun (ih.layout page) (level + .ofInt amount)
  | styled change body ih =>
    refine ⟨by simp only [Context.fill, flatten_styled, ih.flat], fun page => ?_⟩
    funext level rest
    simp only [Context.fill, layoutThen, ih.layout page]
  | group body ih =>
    refine ⟨by simp only [Context.fill, Doc.group, flatten_union, ih.flat], fun page => ?_⟩
    exact layoutThen_group_congr (congrArg (layoutThen page) ih.flat) (ih.layout page)
  | align body ih =>
    refine ⟨by simp only [Context.fill, flatten_align, ih.flat], fun page => ?_⟩
    exact layoutThen_align_congr (ih.layout page)

theorem Interchangeable.render {doc other : Doc} (same : doc.Interchangeable other) (page : Page) :
    (doc.render page).tokens = (other.render page).tokens := by
  rw [tokens_render, tokens_render, same.layout]

end Typeset.Doc
