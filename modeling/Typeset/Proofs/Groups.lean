import Typeset.Doc.Build
import Typeset.Proofs.Strategies

/-! The group equation. The machine decides a group on tentative tokens, with whatever it has met so
far and an attempt for every choice on the way; yet the outcome can be read off one whole rendering.
A group is laid out flat if the first line of the document fits with the flat document in the place of
the group, and the rendering is then that one; otherwise it is as if there had been no group. -/
namespace Typeset

section
variable {page : Page} (small : page.width.toNat < UInt64.size / 2) (within : page.ribbon ≤ page.width)
include small within

/-- On a page whose width counts as itself, a line ends where the narrower of the page and the ribbon
does, the ribbon beginning at the indentation. -/
theorem Page.room_eq {cursor : Cursor} (past : cursor.lineIndent ≤ cursor.column) :
    page.room cursor =
      (min page.width.toNat (page.ribbon.toNat + cursor.lineIndent) : Nat) - cursor.column := by
  have narrower : page.ribbon.toNat ≤ page.width.toNat := UInt64.le_iff_toNat_le.mp within
  rw [room, roomAt, signed_eq (by omega), signed_eq (by omega)]
  omega

/-- At the start of a page there is room for the narrower of the page and the ribbon. -/
theorem Page.room_start : page.room {} = (min page.width.toNat page.ribbon.toNat : Nat) :=
  (room_eq small within (Nat.le_refl 0)).trans (Int.sub_zero _)

/-- Columns on a line are taken from the room there, whether or not there is any. -/
theorem Page.room_further {cursor : Cursor} (past : cursor.lineIndent ≤ cursor.column) (columns : Nat) :
    page.room { cursor with column := cursor.column + columns } = page.room cursor - columns := by
  have further : cursor.lineIndent ≤ cursor.column + columns := Nat.le_trans past (Nat.le_add_right _ _)
  rw [room_eq small within further, room_eq small within past]
  dsimp only
  omega

/-- A text takes its width from the room on the line: tokens fit after it exactly if they fit together
with it. -/
theorem Doc.layoutThen_text (content : String) {cursor : Cursor}
    (past : cursor.lineIndent ≤ cursor.column) :
    ∃ written stop,
      (∀ level rest, (text content).layoutThen page level rest cursor = written ++ rest stop) ∧
      ∀ tokens, LineFits (page.room cursor) (written ++ tokens) ↔
        LineFits (page.room stop) tokens := by
  unfold text
  split
  · exact ⟨[], cursor, fun _ _ => rfl, fun _ => Iff.rfl⟩
  · let token := Token.text (.ofString content)
    have left : page.room (cursor.read token) = page.room cursor - Text.displayWidth content :=
      Page.room_further small within past _
    refine ⟨[token], cursor.read token, fun _ _ => rfl, fun tokens => ?_⟩
    rw [List.singleton_append, lineFits_text, left, Literal.width_ofString]

end

/-- With the pretty strategy a group is flat where the rest of the line fits with the flat document. -/
theorem Doc.layoutThen_group (width ribbon : UInt64) (body : Doc) (level : Int64)
    (rest : Cursor → List Token) (cursor : Cursor) :
    let page : Page := ⟨width, ribbon, .pretty⟩
    let flat := body.flatten.layoutThen page level rest cursor
    (LineFits (page.room cursor) flat → body.group.layoutThen page level rest cursor = flat) ∧
    (¬ LineFits (page.room cursor) flat →
      body.group.layoutThen page level rest cursor = body.layoutThen page level rest cursor) := by
  intro page flat
  have verdict : page.fits cursor flat = true ↔ LineFits (page.room cursor) flat :=
    Page.fits_pretty_iff width ribbon cursor flat
  constructor
  · intro fits
    exact if_pos (verdict.mpr fits)
  · intro overflows
    exact if_neg (overflows ∘ verdict.mp)

/-- The group equation. Let a document be rendered with the flat body in the place of a group. If the
first line of that rendering holds no failure and fits the page and the ribbon, the document with the
group is rendered to the same tokens; otherwise it is rendered as with the body as it is. -/
theorem group_equation (width ribbon : UInt64) (small : width.toNat < UInt64.size / 2)
    (within : ribbon ≤ width) (lead : String) (body after : Doc) :
    let page : Page := ⟨width, ribbon, .pretty⟩
    let flat := ((.text lead + body.flatten + after : Doc).render page).tokens
    let grouped := ((.text lead + body.group + after : Doc).render page).tokens
    let fits := .fail ∉ firstLine flat ∧
      textWidth (firstLine flat) ≤ min width.toNat ribbon.toNat
    (fits → grouped = flat) ∧
    (¬ fits → grouped = ((.text lead + body + after : Doc).render page).tokens) := by
  intro page flat grouped fits
  have smallPage : page.width.toNat < UInt64.size / 2 := small
  have atStart : Cursor.lineIndent {} ≤ Cursor.column {} := Nat.le_refl 0
  obtain ⟨written, stop, split, room⟩ := Doc.layoutThen_text smallPage within lead atStart
  have rendered : ∀ middle : Doc, ((.text lead + middle + after : Doc).render page).tokens =
      written ++ middle.layoutThen page 0 (after.layoutThen page 0 fun _ => []) stop := by
    intro middle
    rw [Doc.tokens_render]
    exact split 0 _
  have start : page.room {} = (min width.toNat ribbon.toNat : Nat) := Page.room_start smallPage within
  -- The first line of the whole document fits exactly if the rest of it fits where the group stands.
  have sameLine : fits ↔ LineFits (page.room stop)
      (body.flatten.layoutThen page 0 (after.layoutThen page 0 fun _ => []) stop) := by
    rw [← room, ← rendered, start, LineFits, Int.ofNat_le]
  obtain ⟨takesFlat, takesBroken⟩ :=
    body.layoutThen_group width ribbon 0 (after.layoutThen page 0 fun _ => []) stop
  constructor
  · intro fit
    simp only [grouped, flat, rendered]
    exact congrArg _ (takesFlat (sameLine.mp fit))
  · intro overflow
    simp only [grouped, rendered]
    exact congrArg _ (takesBroken (overflow ∘ sameLine.mpr))

/-- The parameters of a call, on one line or two. -/
def parameters : Doc :=
  .cat (.literal (.ofString "x,"))
    (.cat (.flatAlt .newline (.literal (.ofString " "))) (.literal (.ofString "y")))

/-- The end of a call, whose bracket goes on a line of its own if it has to. -/
def callEnd : Doc :=
  .cat (.union (.literal (.ofString ")")) (.cat .newline (.literal (.ofString ")"))))
    (.literal (.ofString ";"))

private theorem parameters_flat (page : Page) :
    ((.text "f(" + parameters.flatten + callEnd : Doc).render page).tokens =
      (Doc.cat (.cat (.literal (.ofString "f(")) (.cat (.literal (.ofString "x,"))
        (.cat (.literal (.ofString " ")) (.literal (.ofString "y"))))) callEnd).layoutThen page 0
          (fun _ => []) {} := by
  rw [Doc.tokens_render]
  simp only [parameters, Doc.flatten_cat, Doc.flatten_flatAlt, Doc.flatten_literal]
  rfl

/-- On seven columns the parameters stay on one line because the end of the call then goes on a line of
its own; on five they do not. -/
theorem group_equation_in_call :
    ((.text "f(" + parameters.group + callEnd : Doc).render ⟨7, 7, .pretty⟩).tokens =
        [.text (.ofString "f("), .text (.ofString "x,"), .text (.ofString " "),
          .text (.ofString "y"), .line 0, .text (.ofString ")"), .text (.ofString ";")] ∧
      ((.text "f(" + parameters.group + callEnd : Doc).render ⟨5, 5, .pretty⟩).tokens =
        [.text (.ofString "f("), .text (.ofString "x,"), .line 0, .text (.ofString "y"),
          .text (.ofString ")"), .text (.ofString ";")] := by
  obtain ⟨onOneLine, _⟩ := group_equation 7 7 (by decide) (by decide) "f(" parameters callEnd
  obtain ⟨_, broken⟩ := group_equation 5 5 (by decide) (by decide) "f(" parameters callEnd
  rw [parameters_flat] at onOneLine broken
  constructor
  · rw [onOneLine (by decide)]
    decide
  · rw [broken (by decide), Doc.tokens_render]
    decide

end Typeset
