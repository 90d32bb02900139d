import Typeset.Proofs.Record
import Typeset.Proofs.Strategies

/-! The smart strategy is never more permissive than the pretty one. At the same choice the two test
different tokens, since each decides the choices inside and after it in its own way; but up to the end
of the line the pretty strategy finds room for whatever the smart one does. So a flat document that a
smart machine keeps is kept by a pretty machine at the same place, whatever is still to come there. -/
namespace Typeset

/-- A machine at a place, with nothing attempted yet and nothing decided. -/
def Machine.resume (page : Page) (place : Place) : Machine :=
  { page, place, attempts := [], tentative := #[], decided := [], illegal := none }

namespace Place

/-- What happens when a machine goes on from a place. -/
def record (page : Page) (place : Place) : List Event :=
  ((Machine.resume page place).recordAfter {}).events

theorem record_eq (page : Page) (place : Place) : place.record page = place.events page :=
  Machine.events_recordAfter (.resume page place) {} rfl

theorem tokensOf_events (page : Page) (upcoming : List Indented) (cursor : Cursor) :
    tokensOf (Indented.eventsAll page upcoming cursor) =
      Indented.layoutAll page upcoming cursor := by
  induction upcoming generalizing cursor with
  | nil => rfl
  | cons first rest ih => exact first.doc.tokensOf_eventsThen page first.level ih cursor

/-- The tokens of the record are those that the machine hands out. -/
theorem tokensOf_record (page : Page) (place : Place) :
    tokensOf (place.record page) = (Machine.resume page place).run := by
  rw [record_eq, events, tokensOf_events, ← layout_eq_layoutAll]
  exact (Machine.run_without_attempts (.resume page place) rfl rfl).symm

/-- At a choice a machine keeps the flat document if all that follows fits with it, and it records
which of the two it keeps. -/
theorem record_choice {page : Page} {place after : Place} {level : Int64} {flat broken : Doc}
    (found : place.next page.width.toNat = .choice level flat broken after) :
    place.record page =
      if page.fits after.cursor (Indented.layoutAll page (⟨level, flat⟩ :: after.upcoming) after.cursor)
      then .choice true :: (after.push level flat).record page
      else .choice false :: (after.push level broken).record page := by
  have choice := place.events_eq page
  simp only [found, accepts_eq_fits, ← record_eq] at choice
  rw [choice, record_eq, events, tokensOf_events]
  rfl

/-- A machine that goes on from a place comes to a choice first, takes its flat document, and never
goes back on it. -/
def KeepsFlat (page : Page) (place : Place) : Prop :=
  (place.record page).head? = some (.choice true)

theorem keepsFlat_iff {page : Page} {place after : Place} {level : Int64} {flat broken : Doc}
    (found : place.next page.width.toNat = .choice level flat broken after) :
    place.KeepsFlat page ↔ page.fits after.cursor
      (Indented.layoutAll page (⟨level, flat⟩ :: after.upcoming) after.cursor) = true := by
  rw [KeepsFlat, record_choice found]
  split
  · rename_i fits
    exact iff_of_true rfl fits
  · rename_i overflows
    exact iff_of_false (by simp) overflows

/-- Where the flat document is kept, the machine hands out what it does with that document alone. -/
theorem KeepsFlat.run_eq {page : Page} {place after : Place} {level : Int64} {flat broken : Doc}
    (found : place.next page.width.toNat = .choice level flat broken after)
    (kept : place.KeepsFlat page) :
    (Machine.resume page place).run = (Machine.resume page (after.push level flat)).run := by
  have fits := (keepsFlat_iff found).mp kept
  rw [← tokensOf_record, ← tokensOf_record, record_choice found, if_pos fits]
  rfl

end Place

section
variable (width ribbon : UInt64)

/-- Where the rest of the line fits as the smart strategy lays it out, it fits as the other does. -/
theorem Indented.lineFits_pretty_of_smart (upcoming : List Indented) (cursor : Cursor)
    (fits : LineFits (Page.room ⟨width, ribbon, .smart⟩ cursor)
      (layoutAll ⟨width, ribbon, .smart⟩ upcoming cursor)) :
    LineFits (Page.room ⟨width, ribbon, .pretty⟩ cursor)
      (layoutAll ⟨width, ribbon, .pretty⟩ upcoming cursor) := by
  induction upcoming generalizing cursor with
  | nil => exact fits
  | cons first rest ih =>
    exact first.doc.lineFits_pretty_of_smart width ribbon first.level ih cursor fits

end

/-- The smart strategy is never more permissive than the pretty one. Wherever a place comes to a choice,
whatever else is to come there: if a smart machine that goes on from the place keeps the flat document,
a pretty machine keeps it too, and hands out what it does with the flat document in the place of the
choice. -/
theorem smart_is_never_more_permissive (width ribbon : UInt64) (place : Place) {after : Place}
    {level : Int64} {flat broken : Doc}
    (found : place.next width.toNat = .choice level flat broken after)
    (kept : place.KeepsFlat ⟨width, ribbon, .smart⟩) :
    place.KeepsFlat ⟨width, ribbon, .pretty⟩ ∧
      (Machine.resume ⟨width, ribbon, .pretty⟩ place).run =
        (Machine.resume ⟨width, ribbon, .pretty⟩ (after.push level flat)).run := by
  have smartFits := (Place.keepsFlat_iff found).mp kept
  have smartLine := ((Page.fits_iff_lines ..).mp smartFits).1
  have prettyLine := Indented.lineFits_pretty_of_smart width ribbon _ after.cursor smartLine
  have prettyFits := (Page.fits_pretty_iff ..).mpr prettyLine
  have prettyKeeps : place.KeepsFlat ⟨width, ribbon, .pretty⟩ :=
    (Place.keepsFlat_iff found).mpr prettyFits
  exact ⟨prettyKeeps, prettyKeeps.run_eq found⟩

/-- A place in a bold word, before a choice with another one inside. The line after them is deeper, and
too long for ten columns. -/
def midWord : Place where
  lineIndent := 2
  column := 4
  style := Style.plain.turn .bold true
  upcoming := [⟨2, .union
      (.cat (.literal (.ofString "a"))
        (.union (.literal (.ofString "bb")) (.cat (.literal (.ofString "b")) .newline)))
      (.cat (.literal (.ofString "a")) .newline)⟩,
    ⟨6, .cat .newline (.literal (.ofString "12345"))⟩]

/-- The two strategies decide the inner choice differently, and both keep the outer one flat. -/
theorem smart_and_pretty_keep_midWord :
    midWord.KeepsFlat ⟨10, 10, .smart⟩ ∧ midWord.KeepsFlat ⟨10, 10, .pretty⟩ ∧
      (midWord.record ⟨10, 10, .smart⟩)[2]? = some (.choice false) ∧
      (midWord.record ⟨10, 10, .pretty⟩)[2]? = some (.choice true) := by
  have kept : midWord.KeepsFlat ⟨10, 10, .smart⟩ := by
    rw [Place.KeepsFlat, Place.record_eq]
    decide
  obtain ⟨level, flat, broken, after, found⟩ : ∃ level flat broken after,
      midWord.next (10 : UInt64).toNat = .choice level flat broken after := by
    rw [Place.next, midWord, Place.advance]
    exact ⟨_, _, _, _, rfl⟩
  refine ⟨kept, (smart_is_never_more_permissive 10 10 midWord found kept).1, ?_, ?_⟩
  · rw [Place.record_eq]
    decide
  · rw [Place.record_eq]
    decide

end Typeset
