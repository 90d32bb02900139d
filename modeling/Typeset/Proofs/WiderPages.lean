import Typeset.Proofs.Groups
import Typeset.Proofs.OneLine

/-! Wider pages. What fits on one line of a page fits on one line of a wider page, although the choices
that are left in a flat document may fall out otherwise there: a choice that a wider page makes in favour
of its flat side is made because all that follows fits, and where both pages refuse the flat side they
go on alike. Widths count as signed words, so all of it is about pages of less than 2^63 columns. -/
namespace Typeset

/-- A page with more columns has more room at every point. -/
theorem Page.room_mono {page wider : Page} (width : page.width ≤ wider.width)
    (ribbon : page.ribbon ≤ wider.ribbon) (small : wider.width.toNat < UInt64.size / 2)
    (smallRibbon : wider.ribbon.toNat < UInt64.size / 2) {cursor : Cursor}
    (right : cursor.lineIndent ≤ cursor.column) : page.room cursor ≤ wider.room cursor := by
  have widthLe : page.width.toNat ≤ wider.width.toNat := UInt64.le_iff_toNat_le.mp width
  have ribbonLe : page.ribbon.toNat ≤ wider.ribbon.toNat := UInt64.le_iff_toNat_le.mp ribbon
  have room := page.room_le cursor
  have widerRoom : wider.room cursor = min (wider.width.toNat - cursor.column : Int)
      (wider.ribbon.toNat - cursor.column + cursor.lineIndent) := by
    rw [Page.room, roomAt, signed_eq (by omega), signed_eq (by omega)]
  omega

/-- A document without newlines that fits the rest of a line fits it on another page too, whatever is
chosen there, if all that may come after it does. -/
theorem Doc.Lineless.lineFits_wider {doc : Doc} (lineless : doc.Lineless)
    (pageless : doc.Without [.columns]) {page wider : Page}
    (more : ∀ cursor : Cursor, cursor.lineIndent ≤ cursor.column →
      page.room cursor ≤ wider.room cursor) (level : Int64)
    {rest widerRest : Cursor → List Token} (unbroken : ∀ cursor, Unbroken (widerRest cursor))
    (after : ∀ cursor : Cursor, cursor.lineIndent ≤ cursor.column →
      LineFits (page.room cursor) (rest cursor) → LineFits (wider.room cursor) (widerRest cursor))
    (cursor : Cursor) (right : cursor.lineIndent ≤ cursor.column)
    (fits : LineFits (page.room cursor) (doc.layoutThen page level rest cursor)) :
    LineFits (wider.room cursor) (doc.layoutThen wider level widerRest cursor) := by
  induction doc generalizing level rest widerRest cursor with
  | fail => simp [layoutThen] at fits
  | empty => exact after cursor right fits
  | literal piece =>
    simp only [layoutThen, Token.andThen, lineFits_text] at fits ⊢
    have left := fits.room_nonneg
    have some : 0 ≤ page.room cursor := by omega
    rw [← Page.room_text some] at fits
    rw [← Page.room_text (Int.le_trans some (more cursor right))]
    exact after _ (Nat.le_trans right (Nat.le_add_right _ _)) fits
  | newline => exact absurd rfl lineless
  | flatAlt broken flat ihBroken ihFlat =>
    exact ihBroken lineless.2.1 pageless.2.1 level unbroken after cursor right fits
  | cat left right ihLeft ihRight =>
    refine ihLeft lineless.2.1 pageless.2.1 level ?_ ?_ cursor right fits
    · exact Lineless.unbroken_layoutThen lineless.2.2 wider level unbroken
    · exact ihRight lineless.2.2 pageless.2.2 level unbroken after
  | nest amount body ih => exact ih lineless.2 pageless.2 _ unbroken after cursor right fits
  | union flat broken ihFlat ihBroken =>
    simp only [layoutThen] at fits ⊢
    have verdict := wider.fits_unbroken_iff cursor
      (Lineless.unbroken_layoutThen lineless.2.1 wider level unbroken cursor)
    by_cases widerFits : wider.fits cursor (flat.layoutThen wider level widerRest cursor) = true
    · rw [if_pos widerFits]
      exact verdict.mp widerFits
    · rw [if_neg widerFits]
      split at fits
      · -- What fits the rest of this line cannot have been refused on the other page.
        have flatFits := ihFlat lineless.2.1 pageless.2.1 level unbroken after cursor right fits
        exact absurd (verdict.mpr flatFits) widerFits
      · exact ihBroken lineless.2.2 pageless.2.2 level unbroken after cursor right fits
  | column body ih => exact ih _ (lineless.2 _) (pageless.2 _) level unbroken after cursor right fits
  | columns body ih => exact absurd List.mem_cons_self pageless.1
  | nesting body ih => exact ih _ (lineless.2 _) (pageless.2 _) level unbroken after cursor right fits
  | styled change body ih =>
    simp only [layoutThen, Token.andThen, lineFits_format] at fits ⊢
    refine ih lineless.2 pageless.2 level ?_ ?_ _ right fits
    · intro stop
      exact (unbroken _).cons rfl
    · intro stop right fits
      simp only [Token.andThen, lineFits_format] at fits ⊢
      exact after _ right fits
  | restore style =>
    simp only [layoutThen, Token.andThen, lineFits_format] at fits ⊢
    exact after _ right fits

section

variable {doc : Doc} (strategy : Strategy) {width wider : UInt64}

/-- A document without newlines fits the first line of a page if it does not fail and has no more text
than the page has columns. -/
theorem Doc.Lineless.fits_start_iff (lineless : doc.Lineless)
    (small : width.toNat < UInt64.size / 2) :
    let page : Page := ⟨width, width, strategy⟩
    LineFits (page.room {}) (doc.render page).tokens ↔
      .fail ∉ (doc.render page).tokens ∧ textWidth (doc.render page).tokens ≤ width.toNat := by
  intro page
  have smallPage : page.width.toNat < UInt64.size / 2 := small
  have start : page.room {} = (min width.toNat width.toNat : Nat) :=
    Page.room_start smallPage (UInt64.le_refl width)
  rw [start, Nat.min_self, LineFits, (lineless.unbroken_render page).firstLine_eq, Int.ofNat_le]

/-- A group on its own is flat where its flat document fits the first line. -/
theorem Doc.render_group_flat (lineless : doc.flatten.Lineless) {page : Page}
    (fits : LineFits (page.room {}) (doc.flatten.render page).tokens) :
    (doc.group.render page).tokens = (doc.flatten.render page).tokens := by
  have unbroken := lineless.unbroken_render page
  rw [tokens_render] at fits unbroken ⊢
  rw [tokens_render]
  exact if_pos ((page.fits_unbroken_iff {} unbroken).mpr fits)

theorem Doc.Lineless.fits_wider_start (lineless : doc.Lineless) (pageless : doc.Without [.columns])
    (wide : width ≤ wider) (small : wider.toNat < UInt64.size / 2)
    (fits : LineFits (Page.room ⟨width, width, strategy⟩ {})
      (doc.render ⟨width, width, strategy⟩).tokens) :
    LineFits (Page.room ⟨wider, wider, strategy⟩ {})
      (doc.render ⟨wider, wider, strategy⟩).tokens := by
  rw [tokens_render] at fits ⊢
  have more : ∀ cursor : Cursor, cursor.lineIndent ≤ cursor.column →
      Page.room ⟨width, width, strategy⟩ cursor ≤ Page.room ⟨wider, wider, strategy⟩ cursor :=
    fun _ right => Page.room_mono wide wide small small right
  refine lineless.lineFits_wider pageless more 0 (fun _ _ none => absurd none List.not_mem_nil) ?_ {}
    (Nat.le_refl 0) fits
  intro stop right room
  rw [lineFits_nil] at room ⊢
  exact Int.le_trans room (more stop right)

end

/-- A wider page never unflattens a group. Let a document have no newlines in flat sides and not ask for
the width, and let its flat document be rendered without a failure and within the width of a page. Then
the group is rendered flat, and it is so on every wider page of less than 2^63 columns, again without a
failure and within the width. If no choices are left in flat sides, the tokens are the same ones. -/
theorem wider_pages_keep_groups_flat (strategy : Strategy) (width wider : UInt64)
    (wide : width ≤ wider) (small : wider.toNat < UInt64.size / 2) (doc : Doc)
    (flatSides : doc.FlatSidesWithout [.newline]) (pageless : doc.Without [.columns])
    (unfailing : .fail ∉ (doc.flatten.render ⟨width, width, strategy⟩).tokens)
    (within : textWidth (doc.flatten.render ⟨width, width, strategy⟩).tokens ≤ width.toNat) :
    let page : Page := ⟨width, width, strategy⟩
    let widerPage : Page := ⟨wider, wider, strategy⟩
    (doc.group.render page).tokens = (doc.flatten.render page).tokens ∧
    (doc.group.render widerPage).tokens = (doc.flatten.render widerPage).tokens ∧
    .fail ∉ (doc.group.render widerPage).tokens ∧
    textWidth (doc.group.render widerPage).tokens ≤ wider.toNat ∧
    (doc.FlatSidesWithout [.union] →
      (doc.group.render widerPage).tokens = (doc.group.render page).tokens) := by
  intro page widerPage
  have lineless : doc.flatten.Lineless :=
    flatSides.lineless_flatten List.mem_cons_self (by simp [Doc.Kind.replaced])
  have flatPageless : doc.flatten.Without [.columns] := pageless.flatten (by simp)
  have smaller : width.toNat < UInt64.size / 2 :=
    Nat.lt_of_le_of_lt (UInt64.le_iff_toNat_le.mp wide) small
  have fits : LineFits (page.room {}) (doc.flatten.render page).tokens :=
    (lineless.fits_start_iff strategy smaller).mpr ⟨unfailing, within⟩
  have fitsWider : LineFits (widerPage.room {}) (doc.flatten.render widerPage).tokens :=
    lineless.fits_wider_start strategy flatPageless wide small fits
  have flat := Doc.render_group_flat lineless fits
  have flatWider := Doc.render_group_flat lineless fitsWider
  obtain ⟨unfailingWider, withinWider⟩ := (lineless.fits_start_iff strategy small).mp fitsWider
  refine ⟨flat, flatWider, ?_, ?_, fun choiceless => ?_⟩
  · rwa [flatWider]
  · rwa [flatWider]
  · have flatChoiceless : doc.flatten.Without [.union] :=
      choiceless.flatten (by simp [Doc.Kind.replaced])
    rw [flat, flatWider, Doc.tokens_render, Doc.tokens_render,
      Doc.layoutThen_page flatChoiceless flatPageless widerPage page]

/-- Three arguments of a call, the last two of them in a group of their own. -/
def arguments : Doc :=
  .cat (.literal (.ofString "a,")) (.cat (.flatAlt .newline (.literal (.ofString " ")))
    (Doc.group (.cat (.literal (.ofString "b,"))
      (.cat (.flatAlt .newline (.literal (.ofString " "))) (.literal (.ofString "c"))))))

/-- The arguments just fit seven columns. They stay on one line up to the widest page whose width counts
as itself. -/
theorem arguments_stay_flat :
    arguments.FlatSidesWithout [.newline] ∧ arguments.Without [.columns] ∧
      arguments.FlatSidesWithout [.union] ∧
      (arguments.group.render ⟨9223372036854775807, 9223372036854775807, .smart⟩).tokens =
        [.text (.ofString "a,"), .text (.ofString " "), .text (.ofString "b,"),
          .text (.ofString " "), .text (.ofString "c")] := by
  have tokens : (arguments.flatten.render ⟨7, 7, .smart⟩).tokens =
      [.text (.ofString "a,"), .text (.ofString " "), .text (.ofString "b,"),
        .text (.ofString " "), .text (.ofString "c")] := by
    simp only [arguments, Doc.group, Doc.flatten_cat, Doc.flatten_literal, Doc.flatten_flatAlt,
      Doc.flatten_union, Doc.tokens_render]
    rfl
  have flatSides : arguments.FlatSidesWithout [.newline] ∧ arguments.FlatSidesWithout [.union] := by
    simp [arguments, Doc.group, Doc.FlatSidesWithout, Doc.Without, Doc.Every, Doc.kind]
  have pageless : arguments.Without [.columns] := by
    simp [arguments, Doc.group, Doc.Without, Doc.Every, Doc.kind]
  obtain ⟨flat, _, _, _, same⟩ := wider_pages_keep_groups_flat .smart 7 9223372036854775807
    (by decide) (by decide) arguments flatSides.1 pageless (by simp [tokens])
    (by rw [tokens]; decide)
  exact ⟨flatSides.1, pageless, flatSides.2, (same flatSides.2).trans (flat.trans tokens)⟩

/-- A word for a line of its own, and a group of a short and a long one where it is flat. -/
def shortOrLong : Doc :=
  .flatAlt (.literal (.ofString "x"))
    (Doc.group (.flatAlt (.literal (.ofString "s")) (.literal (.ofString "long"))))

/-- Tokens may change on a wider page all the same: where there is a choice left in a flat side, it may
fall out otherwise; and at the margin of a page whose width counts as a negative number, nothing is flat. -/
theorem groups_change_on_wider_pages :
    (shortOrLong.FlatSidesWithout [.newline] ∧ shortOrLong.Without [.columns] ∧
      (shortOrLong.flatten.render ⟨2, 2, .pretty⟩).tokens = [.text (.ofString "s")] ∧
      (shortOrLong.group.render ⟨2, 2, .pretty⟩).tokens = [.text (.ofString "s")] ∧
      (shortOrLong.group.render ⟨10, 10, .pretty⟩).tokens = [.text (.ofString "long")]) ∧
    (Doc.line.FlatSidesWithout [.newline] ∧ Doc.line.Without [.columns] ∧
      (Doc.line.flatten.render ⟨80, 80, .pretty⟩).tokens = [.text (.ofString " ")] ∧
      (Doc.line.group.render ⟨80, 80, .pretty⟩).tokens = [.text (.ofString " ")] ∧
      (Doc.line.group.render ⟨18446744073709551615, 18446744073709551615, .pretty⟩).tokens =
        [.line 0]) := by
  have flat : shortOrLong.flatten =
      Doc.group (.flatAlt (.literal (.ofString "s")) (.literal (.ofString "long"))) :=
    Doc.flatten_flatAlt ..
  have flatLine : Doc.line.flatten = Doc.text " " := Doc.flatten_flatAlt ..
  constructor
  · refine ⟨?_, ?_, ?_, ?_, ?_⟩
    · simp [shortOrLong, Doc.group, Doc.FlatSidesWithout, Doc.Without, Doc.Every, Doc.kind]
    · simp [shortOrLong, Doc.group, Doc.Without, Doc.Every, Doc.kind]
    · rw [flat, Doc.group, Doc.flatten_flatAlt, Doc.tokens_render]
      rfl
    · rw [Doc.group, flat, Doc.group, Doc.flatten_flatAlt, Doc.tokens_render]
      rfl
    · rw [Doc.group, flat, Doc.group, Doc.flatten_flatAlt, Doc.tokens_render]
      rfl
  · refine ⟨?_, ?_, ?_, ?_, ?_⟩
    · simp [Doc.line, Doc.text, Doc.FlatSidesWithout, Doc.Without, Doc.Every, Doc.kind]
    · simp [Doc.line, Doc.text, Doc.Without, Doc.Every, Doc.kind]
    · rw [flatLine, Doc.tokens_render]
      rfl
    · rw [Doc.group, flatLine, Doc.tokens_render]
      rfl
    · rw [Doc.group, flatLine, Doc.tokens_render]
      rfl

end Typeset
