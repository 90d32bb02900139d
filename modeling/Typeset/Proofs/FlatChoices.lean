import Typeset.Proofs.Fit
import Typeset.Proofs.Record

/-! A flat document never stands on a line that is too long. The machine takes it on what tentative
tokens say, and it takes many of those back; but what follows a flat document in the end is the rest of
the recorded layout, with every later choice as it turned out, and that is what fits. -/
namespace Typeset

/-- Wherever a flat document is taken, what follows fits. -/
def ChoicesFit (page : Page) : Cursor → List Event → Prop
  | _, [] => True
  | cursor, .token token :: rest => ChoicesFit page (cursor.read token) rest
  | cursor, .choice tookFlat :: rest =>
    (tookFlat = true → page.fits cursor (tokensOf rest) = true) ∧ ChoicesFit page cursor rest

/-- In a layout what follows a flat document fits, if that is so in what comes after it. -/
theorem Doc.choicesFit_eventsThen (page : Page) (doc : Doc) (level : Int64)
    {rest : Cursor → List Event} (after : ∀ stop, ChoicesFit page stop (rest stop))
    (cursor : Cursor) : ChoicesFit page cursor (doc.eventsThen page level rest cursor) := by
  induction doc generalizing level rest cursor with
  | fail => trivial
  | empty => exact after cursor
  | literal piece => exact after _
  | newline => exact after _
  | flatAlt broken flat ihBroken ihFlat => exact ihBroken level after cursor
  | cat left right ihLeft ihRight => exact ihLeft level (ihRight level after) cursor
  | nest amount body ih => exact ih (level + .ofInt amount) after cursor
  | union flat broken ihFlat ihBroken =>
    rw [eventsThen]
    split
    · rename_i fits
      exact ⟨fun _ => fits, ihFlat level after cursor⟩
    · exact ⟨by simp, ihBroken level after cursor⟩
  | column body ih => exact ih _ level after cursor
  | columns body ih => exact ih _ level after cursor
  | nesting body ih => exact ih _ level after cursor
  | styled change body ih =>
    refine ih level ?_ (cursor.read (.format (cursor.style.codesFor change)))
    intro stop
    exact after (stop.read (.format cursor.style.codes))
  | restore style => exact after _

/-- Wherever the record has a flat document taken, what follows in the record fits. -/
theorem Doc.choicesFit_record (page : Page) (doc : Doc) :
    ChoicesFit page {} (doc.record page) := by
  have nothingAfter : ∀ stop, ChoicesFit page stop [] := fun _ => trivial
  rw [record_eq]
  exact doc.choicesFit_eventsThen page 0 nothingAfter {}

theorem ChoicesFit.fits_at {page : Page} (cursor : Cursor) {before after : List Event}
    (fit : ChoicesFit page cursor (before ++ .choice true :: after)) :
    page.fits (cursor.readAll (tokensOf before)) (tokensOf after) = true := by
  induction before generalizing cursor with
  | nil => exact fit.1 rfl
  | cons event before ih =>
    cases event with
    | token token => exact ih (cursor.read token) fit
    | choice tookFlat => exact ih cursor fit.2

/-- The end of the line is as far away as the text before it is wide. -/
theorem Cursor.readAll_firstLine (cursor : Cursor) (tokens : List Token) :
    (cursor.readAll (firstLine tokens)).column = cursor.column + textWidth (firstLine tokens) ∧
      (cursor.readAll (firstLine tokens)).lineIndent = cursor.lineIndent := by
  induction tokens generalizing cursor with
  | nil => exact ⟨rfl, rfl⟩
  | cons token rest ih =>
    cases token with
    | line indent => exact ⟨rfl, rfl⟩
    | text piece =>
      obtain ⟨column, lineIndent⟩ := ih (cursor.read (.text piece))
      refine ⟨column.trans ?_, lineIndent⟩
      exact Nat.add_assoc cursor.column piece.width _
    | format codes => exact ih (cursor.read (.format codes))
    | fail => exact ih (cursor.read .fail)

/-- A flat choice never sits on an overfull line. Wherever the layout of a document takes the flat
document of a choice, what follows in the final output, later choices included, holds no failure and
fits into what is left of the page and of the ribbon, and with the smart strategy the next line does
too, if it is indented more deeply. On a line that is too long every choice is broken. -/
theorem flat_choices_fit (page : Page) (doc : Doc) {before after : List Event} {tookFlat : Bool}
    (recorded : doc.record page = before ++ .choice tookFlat :: after) :
    let width : Int := page.width.toNat
    let ribbon : Int := page.ribbon.toNat
    let following := tokensOf after
    let point := Cursor.readAll {} (tokensOf before)
    let lineEnd := point.readAll (firstLine following)
    (doc.render page).tokens = tokensOf before ++ following ∧
    (tookFlat = true →
      .fail ∉ firstLine following ∧
      textWidth (firstLine following) ≤
        min (width - point.column) (ribbon - point.column + point.lineIndent) ∧
      (page.strategy = .smart → ∀ indent below, fromNewline following = .line indent :: below →
        point.lineIndent < indent →
          .fail ∉ firstLine below ∧ indent + textWidth (firstLine below) ≤ width)) ∧
    (width < lineEnd.column ∨ ribbon < lineEnd.column - lineEnd.lineIndent →
      tookFlat = false) := by
  intro width ribbon following point lineEnd
  have tokens : (doc.render page).tokens = tokensOf before ++ following := by
    rw [← doc.tokensOf_record, recorded]
    simp [following]
  have fits : tookFlat = true → page.fits point following = true := by
    rintro rfl
    have fit := doc.choicesFit_record page
    rw [recorded] at fit
    exact fit.fits_at {}
  have line (took : tookFlat = true) : textWidth (firstLine following) ≤
      min (width - point.column) (ribbon - point.column + point.lineIndent) := by
    have within := ((page.fits_iff_lines point following).mp (fits took)).1.2
    exact Int.le_trans within (page.room_le point)
  refine ⟨tokens, fun took => ⟨?_, line took, ?_⟩, ?_⟩
  · exact ((page.fits_iff_lines point following).mp (fits took)).1.1
  · intro smart indent below found deeper
    have next := ((page.fits_iff_lines point following).mp (fits took)).2 smart
    have base : min (point.lineIndent : Int) (Page.signed point.column) < indent := by omega
    obtain ⟨unfailing, within⟩ := next indent below found base
    have columns := Int.le_trans within (Page.signed_le (width - indent))
    exact ⟨unfailing, by omega⟩
  · intro tooLong
    obtain ⟨column, lineIndent⟩ : lineEnd.column = point.column + textWidth (firstLine following) ∧
        lineEnd.lineIndent = point.lineIndent := point.readAll_firstLine following
    have notFlat : tookFlat ≠ true := by
      intro took
      have within := line took
      omega
    simpa using notFlat

/-- A function whose modifier goes if its parameters do not stand beside it, with a deeper body. -/
def declaration : Doc :=
  .cat (.union (.literal (.ofString "public ")) .empty) (.cat (.literal (.ofString "f("))
    (.nest 2 (.cat (.union (.literal (.ofString "a, ")) (.cat (.literal (.ofString "a,")) .newline))
      (.cat (.literal (.ofString "b)")) (.cat .newline (.literal (.ofString "return")))))))

private theorem declaration_record : declaration.record ⟨10, 10, .smart⟩ =
    [.choice false, .token (.text (.ofString "f("))] ++ .choice true ::
      [.token (.text (.ofString "a, ")), .token (.text (.ofString "b)")), .token (.line 2),
        .token (.text (.ofString "return"))] := by
  rw [Doc.record_eq]
  decide

private theorem declaration_record_narrow : declaration.record ⟨3, 3, .smart⟩ =
    [.choice false, .token (.text (.ofString "f("))] ++ .choice false ::
      [.token (.text (.ofString "a,")), .token (.line 2), .token (.text (.ofString "b)")),
        .token (.line 2), .token (.text (.ofString "return"))] := by
  rw [Doc.record_eq]
  decide

theorem flat_choice_in_declaration :
    (declaration.render ⟨10, 10, .smart⟩).tokens =
        [.text (.ofString "f("), .text (.ofString "a, "), .text (.ofString "b)"), .line 2,
          .text (.ofString "return")] ∧
      textWidth [.text (.ofString "a, "), .text (.ofString "b)")] ≤ min (10 - 2) (10 - 2 + 0) ∧
      2 + textWidth [.text (.ofString "return")] ≤ 10 ∧
      ∃ before after tookFlat, declaration.record ⟨3, 3, .smart⟩ =
          before ++ .choice tookFlat :: .token (.text (.ofString "a,")) :: .token (.line 2) :: after ∧
        tookFlat = false := by
  obtain ⟨tokens, fits, _⟩ := flat_choices_fit _ _ declaration_record
  obtain ⟨_, line, next⟩ := fits rfl
  have nextLine := next rfl 2 [.text (.ofString "return")] rfl (by decide)
  have narrow := flat_choices_fit _ _ declaration_record_narrow
  have broken := narrow.2.2 (.inl (by decide))
  exact ⟨tokens, Int.ofNat_le.mp line, Int.ofNat_le.mp nextLine.2, _, _, _,
    declaration_record_narrow, broken⟩

end Typeset
