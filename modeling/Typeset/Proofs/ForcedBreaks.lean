import Typeset.Proofs.Contexts
import Typeset.Proofs.Lineless

/-! Newlines that force groups open. A newline that a document cannot do without turns into a failure
when the document is put on one line. What comes before it there has no newline either, so the failure
is met on the line that is tried, and every group around the newline is laid out as if it was none. -/
namespace Typeset

namespace Doc

/-- A document that has a newline whatever is chosen for it. -/
inductive MustBreak : Doc → Prop where
  | newline : MustBreak .newline
  | left {left : Doc} (breaks : MustBreak left) (right : Doc) : MustBreak (.cat left right)
  | right (left : Doc) {right : Doc} (breaks : MustBreak right) : MustBreak (.cat left right)
  | nest (amount : Int) {body : Doc} (breaks : MustBreak body) : MustBreak (.nest amount body)
  | styled (change : Change) {body : Doc} (breaks : MustBreak body) : MustBreak (.styled change body)
  | group {body : Doc} (breaks : MustBreak body) : MustBreak body.group
  | align {body : Doc} (breaks : MustBreak body) : MustBreak body.align

/-- A document that fails on the line on which it begins: there is no newline before the failure. -/
inductive FailsOnLine : Doc → Prop where
  | fail : FailsOnLine .fail
  | left {left : Doc} (fails : FailsOnLine left) (right : Doc) : FailsOnLine (.cat left right)
  | right {left right : Doc} (lineless : left.Lineless) (fails : FailsOnLine right) :
    FailsOnLine (.cat left right)
  | nest (amount : Int) {body : Doc} (fails : FailsOnLine body) : FailsOnLine (.nest amount body)
  | styled (change : Change) {body : Doc} (fails : FailsOnLine body) :
    FailsOnLine (.styled change body)
  | align {body : Doc} (fails : FailsOnLine body) : FailsOnLine body.align

theorem FailsOnLine.flatten {doc : Doc} (fails : doc.FailsOnLine) : doc.flatten.FailsOnLine := by
  induction fails with
  | fail =>
    rw [flatten_fail]
    exact .fail
  | left fails right ih =>
    rw [flatten_cat]
    exact .left ih right.flatten
  | right lineless fails ih =>
    rw [flatten_cat]
    exact .right lineless.flatten ih
  | nest amount fails ih =>
    rw [flatten_nest]
    exact .nest amount ih
  | styled change fails ih =>
    rw [flatten_styled]
    exact .styled change ih
  | align fails ih =>
    rw [flatten_align]
    exact .align ih

/-- No first line with such a document on it fits, whatever comes after. -/
theorem FailsOnLine.fail_mem_firstLine {doc : Doc} (fails : doc.FailsOnLine) (page : Page)
    (level : Int64) (rest : Cursor → List Token) (cursor : Cursor) :
    .fail ∈ firstLine (doc.layoutThen page level rest cursor) := by
  induction fails generalizing level rest cursor with
  | fail => exact List.mem_cons_self
  | left fails right ih => exact ih level (right.layoutThen page level rest) cursor
  | right lineless fails ih =>
    exact lineless.layoutThen_of_rest (P := fun tokens => .fail ∈ firstLine tokens) page level
      List.mem_cons_self fail_mem_firstLine_cons (ih level rest) cursor
  | nest amount fails ih => exact ih (level + .ofInt amount) rest cursor
  | styled change fails ih => exact fail_mem_firstLine_cons rfl (ih level _ _)
  | align fails ih =>
    rw [layoutThen_align]
    exact ih (.ofNat cursor.column) rest cursor

/-- A group is laid out as if it was none where its flat document fails on its line. -/
theorem FailsOnLine.layoutThen_group {doc : Doc} (fails : doc.flatten.FailsOnLine) (page : Page) :
    doc.group.layoutThen page = doc.layoutThen page := by
  funext level rest cursor
  have overflows : ¬ page.fits cursor (doc.flatten.layoutThen page level rest cursor) = true := by
    rw [Page.fits_iff_lines]
    rintro ⟨⟨unfailing, -⟩, -⟩
    exact unfailing (fails.fail_mem_firstLine page level rest cursor)
  exact if_neg overflows

namespace MustBreak
variable {doc : Doc}

/-- Without newlines in flat sides, the first newline that has to be there is where the flat document
fails: nothing that is flat comes to a newline before it. -/
theorem failsOnLine_flatten (breaks : doc.MustBreak) (flatSides : doc.FlatSidesWithout [.newline]) :
    doc.flatten.FailsOnLine := by
  induction breaks with
  | newline =>
    rw [flatten_newline]
    exact .fail
  | left breaks right ih =>
    rw [flatten_cat]
    exact .left (ih flatSides.2.1) right.flatten
  | right left breaks ih =>
    rw [flatten_cat]
    have lineless : left.flatten.Lineless :=
      FlatSidesWithout.lineless_flatten flatSides.2.1 List.mem_cons_self (by simp [Kind.replaced])
    exact .right lineless (ih flatSides.2.2)
  | nest amount breaks ih =>
    rw [flatten_nest]
    exact .nest amount (ih flatSides.2)
  | styled change breaks ih =>
    rw [flatten_styled]
    exact .styled change (ih flatSides.2)
  | group breaks ih =>
    -- The flat side of the inner group has failed already, and flattening keeps failures.
    rw [Doc.group, flatten_union]
    exact (ih flatSides.2.2).flatten
  | align breaks ih =>
    rw [flatten_align]
    exact .align (ih ((flatSides.2 0).2 0).2)

theorem layoutThen_group (breaks : doc.MustBreak) (flatSides : doc.FlatSidesWithout [.newline])
    (page : Page) : doc.group.layoutThen page = doc.layoutThen page :=
  (breaks.failsOnLine_flatten flatSides).layoutThen_group page

theorem fill (breaks : doc.MustBreak) (context : Context) : (context.fill doc).MustBreak := by
  induction context with
  | hole => exact breaks
  | catLeft left right ih => exact .left ih right
  | catRight left right ih => exact .right left ih
  | nest amount body ih => exact .nest amount ih
  | styled change body ih => exact .styled change ih
  | group body ih => exact .group ih
  | align body ih => exact .align ih

end MustBreak

namespace Context

theorem flatSidesWithout_fill {kinds : List Kind} {doc : Doc} {context : Context}
    (beside : context.Beside (FlatSidesWithout kinds)) (flatSides : doc.FlatSidesWithout kinds) :
    (context.fill doc).FlatSidesWithout kinds := by
  induction context with
  | hole => exact flatSides
  | catLeft left right ih => exact ⟨by simp, ih beside.1, beside.2⟩
  | catRight left right ih => exact ⟨by simp, beside.1, ih beside.2⟩
  | nest amount body ih | styled change body ih => exact ⟨by simp, ih beside⟩
  | group body ih => exact (ih beside).group
  | align body ih => exact ⟨by simp, fun start => ⟨by simp, fun level => ⟨by simp, ih beside⟩⟩⟩

/-- A group on the way to a newline that has to be there might as well be none. -/
theorem layoutThen_group_fill {doc : Doc} (breaks : doc.MustBreak)
    (flatSides : doc.FlatSidesWithout [.newline]) (body : Context)
    (beside : body.Beside (FlatSidesWithout [.newline])) (page : Page) :
    (body.group.fill doc).layoutThen page = (body.fill doc).layoutThen page :=
  (breaks.fill body).layoutThen_group (flatSidesWithout_fill beside flatSides) page

/-- Documents that have to break and are laid out alike stay so in a context, and also if some of the
groups around one of them are left out. -/
theorem Ungrouped.layoutThen_fill {context fewer : Context} (ungrouped : context.Ungrouped fewer)
    {doc other : Doc} (breaks : doc.MustBreak) (flatSides : doc.FlatSidesWithout [.newline])
    (otherBreaks : other.MustBreak) (otherFlatSides : other.FlatSidesWithout [.newline])
    (beside : context.Beside (FlatSidesWithout [.newline])) {page : Page}
    (same : doc.layoutThen page = other.layoutThen page) :
    (context.fill doc).layoutThen page = (fewer.fill other).layoutThen page := by
  induction ungrouped with
  | hole => exact same
  | catLeft without right ih =>
    funext level rest
    simp only [fill, layoutThen, ih beside.1]
  | catRight left without ih =>
    funext level rest
    simp only [fill, layoutThen, ih beside.2]
  | nest amount without ih =>
    funext level
    exact congrFun (ih beside) (level + .ofInt amount)
  | styled change without ih =>
    funext level rest
    simp only [fill, layoutThen, ih beside]
  | @group body fewer without ih =>
    calc (body.group.fill doc).layoutThen page
      _ = (body.fill doc).layoutThen page :=
        layoutThen_group_fill breaks flatSides body beside page
      _ = (fewer.fill other).layoutThen page := ih beside
      _ = (fewer.group.fill other).layoutThen page :=
        (layoutThen_group_fill otherBreaks otherFlatSides fewer (without.beside beside) page).symm
  | @removed body fewer without ih =>
    calc (body.group.fill doc).layoutThen page
      _ = (body.fill doc).layoutThen page :=
        layoutThen_group_fill breaks flatSides body beside page
      _ = (fewer.fill other).layoutThen page := ih beside
  | align without ih => exact layoutThen_align_congr (ih beside)

end Context

end Doc

/-- A newline opens every group around it. Let a document that has to have a newline stand in a context,
with no newlines in flat sides. It is rendered as it is in a group of its own, and as it is without any
of the groups around it. -/
theorem newlines_open_every_group (page : Page) (context : Doc.Context) (doc : Doc)
    (breaks : doc.MustBreak) (flatSides : doc.FlatSidesWithout [.newline])
    (beside : context.Beside (Doc.FlatSidesWithout [.newline])) :
    ((context.fill doc.group).render page).tokens = ((context.fill doc).render page).tokens ∧
    ∀ fewer, context.Ungrouped fewer →
      ((context.fill doc).render page).tokens = ((fewer.fill doc).render page).tokens ∧
      ((context.fill doc.group).render page).tokens =
        ((fewer.fill doc.group).render page).tokens := by
  have opens : doc.group.layoutThen page = doc.layoutThen page :=
    breaks.layoutThen_group flatSides page
  simp only [Doc.tokens_render]
  refine ⟨?_, fun fewer ungrouped => ⟨?_, ?_⟩⟩
  · rw [(Doc.Context.Ungrouped.refl context).layoutThen_fill breaks.group flatSides.group breaks
      flatSides beside opens]
  · rw [ungrouped.layoutThen_fill breaks flatSides breaks flatSides beside rfl]
  · rw [ungrouped.layoutThen_fill breaks.group flatSides.group breaks.group flatSides.group beside rfl]

/-- A remark at the end of a line: what comes after it has to go on the next one. -/
def remark (content : String) : Doc := .cat (.literal (.ofString content)) .newline

/-- An aligned call in a group, with a hole for its second parameter. -/
def callWithHole : Doc.Context :=
  .group (.catRight (.literal (.ofString "f(")) (.align (.catRight
    (.cat (.literal (.ofString "x,")) (.flatAlt .newline (.literal (.ofString " "))))
    (.group (.catLeft .hole (.literal (.ofString ")")))))))

/-- A remark in the call breaks it, in whatever groups: on a page where all would fit on one line, the
second parameter goes below the first. -/
theorem remark_opens_call :
    (remark "y //").MustBreak ∧ (remark "y //").FlatSidesWithout [.newline] ∧
      callWithHole.Beside (Doc.FlatSidesWithout [.newline]) ∧
      ((callWithHole.fill (remark "y //").group).render ⟨80, 80, .smart⟩).tokens =
        ((callWithHole.fill (remark "y //")).render ⟨80, 80, .smart⟩).tokens ∧
      ((callWithHole.fill (remark "y //")).render ⟨80, 80, .smart⟩).tokens =
        [.text (.ofString "f("), .text (.ofString "x,"), .line 2, .text (.ofString "y //"), .line 2,
          .text (.ofString ")")] := by
  have breaks : (remark "y //").MustBreak := .right _ .newline
  have flatSides : (remark "y //").FlatSidesWithout [.newline] := by
    simp [remark, Doc.FlatSidesWithout, Doc.Every]
  have beside : callWithHole.Beside (Doc.FlatSidesWithout [.newline]) := by
    simp [callWithHole, Doc.Context.Beside, Doc.FlatSidesWithout, Doc.Without, Doc.Every, Doc.kind]
  obtain ⟨grouped, ungrouped⟩ := newlines_open_every_group ⟨80, 80, .smart⟩ callWithHole
    (remark "y //") breaks flatSides beside
  refine ⟨breaks, flatSides, beside, grouped, ?_⟩
  -- Without the two groups there is nothing left to try.
  rw [(ungrouped _ (.removed (.catRight _ (.align (.catRight _
    (.removed (.catLeft .hole _))))))).1, Doc.tokens_render]
  rfl

end Typeset
