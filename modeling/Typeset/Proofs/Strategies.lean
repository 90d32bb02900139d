import Typeset.Proofs.Feasibility
import Typeset.Proofs.Fit

/-! The two strategies side by side. The smart one looks further, but the layouts that it looks at are
themselves laid out smartly, so that the two may test different tokens at the same choice. They never
differ before a layout leaves its page: up to there, what the smart strategy accepts the other accepts
too, and what fits the page whole is accepted by both, if the page is of less than 2^63 columns. -/
namespace Typeset

/-- The columns at which the lines of tokens end, the first of them begun up to a column. -/
def lineEnds : Nat → List Token → List Nat
  | column, [] => [column]
  | column, .text piece :: rest => lineEnds (column + piece.width) rest
  | column, .line indent :: rest => column :: lineEnds indent rest
  | column, _ :: rest => lineEnds column rest

/-- No failure, and no line that ends beyond the page. -/
def Contained (width column : Nat) (tokens : List Token) : Prop :=
  .fail ∉ tokens ∧ ∀ stop ∈ lineEnds column tokens, stop ≤ width

@[simp] theorem contained_nil (width column : Nat) : Contained width column [] ↔ column ≤ width := by
  simp [Contained, lineEnds]

@[simp] theorem contained_text (width column : Nat) (piece : Literal) (rest : List Token) :
    Contained width column (.text piece :: rest) ↔ Contained width (column + piece.width) rest := by
  simp [Contained, lineEnds]

@[simp] theorem contained_format (width column : Nat) (codes : List Code) (rest : List Token) :
    Contained width column (.format codes :: rest) ↔ Contained width column rest := by
  simp [Contained, lineEnds]

@[simp] theorem contained_line (width column indent : Nat) (rest : List Token) :
    Contained width column (.line indent :: rest) ↔
      column ≤ width ∧ Contained width indent rest := by
  simp [Contained, lineEnds]
  exact and_left_comm

@[simp] theorem not_contained_fail (width column : Nat) (rest : List Token) :
    ¬ Contained width column (.fail :: rest) := by
  simp [Contained]

/-- A layout within the page leaves no line too long for it. -/
theorem Contained.lineFits {width column : Nat} {tokens : List Token}
    (contained : Contained width column tokens) : LineFits (width - column) tokens := by
  induction tokens generalizing column with
  | nil =>
    rw [contained_nil] at contained
    rw [lineFits_nil]
    omega
  | cons token rest ih =>
    cases token with
    | text piece =>
      rw [lineFits_text]
      have fits := ih ((contained_text ..).mp contained)
      rwa [Int.natCast_add, ← Int.sub_sub] at fits
    | format codes => exact (lineFits_format ..).mpr (ih ((contained_format ..).mp contained))
    | line indent =>
      have before := ((contained_line ..).mp contained).1
      rw [lineFits_line]
      omega
    | fail => simp at contained

theorem Contained.nextLineFits {width column : Nat} {baseIndent : Int} {tokens : List Token}
    (contained : Contained width column tokens) :
    NextLineFits (fun indent => width - indent) baseIndent tokens := by
  induction tokens generalizing column with
  | nil => simp
  | cons token rest ih =>
    cases token with
    | text piece => exact ih ((contained_text ..).mp contained)
    | format codes => exact ih ((contained_format ..).mp contained)
    | line indent =>
      rw [nextLineFits_line]
      intro deeper
      exact ((contained_line ..).mp contained).2.lineFits
    | fail => simp at contained

section
variable (width ribbon : UInt64)

/-- The pretty strategy looks no further than the end of the line. -/
theorem Page.fits_pretty_iff (cursor : Cursor) (tokens : List Token) :
    Page.fits ⟨width, ribbon, .pretty⟩ cursor tokens = true ↔
      LineFits (Page.room ⟨width, ribbon, .pretty⟩ cursor) tokens := by
  simp [Page.fits_iff_lines]

/-- Where the rest of the line fits as the smart strategy lays it out, it fits as the other does,
provided that the same is true of what comes after. -/
theorem Doc.lineFits_pretty_of_smart (doc : Doc) (level : Int64)
    {smartRest prettyRest : Cursor → List Token}
    (after : ∀ cursor, LineFits (Page.room ⟨width, ribbon, .smart⟩ cursor) (smartRest cursor) →
      LineFits (Page.room ⟨width, ribbon, .pretty⟩ cursor) (prettyRest cursor))
    (cursor : Cursor)
    (fits : LineFits (Page.room ⟨width, ribbon, .smart⟩ cursor)
      (doc.layoutThen ⟨width, ribbon, .smart⟩ level smartRest cursor)) :
    LineFits (Page.room ⟨width, ribbon, .pretty⟩ cursor)
      (doc.layoutThen ⟨width, ribbon, .pretty⟩ level prettyRest cursor) := by
  induction doc generalizing level smartRest prettyRest cursor with
  | fail => simp [layoutThen] at fits
  | empty => exact after cursor fits
  | literal piece =>
    simp only [layoutThen, Token.andThen, lineFits_text] at fits ⊢
    have left := fits.room_nonneg
    have some : 0 ≤ Page.room ⟨width, ribbon, .smart⟩ cursor := by omega
    have somePretty : 0 ≤ Page.room ⟨width, ribbon, .pretty⟩ cursor := some
    rw [← Page.room_text some] at fits
    rw [← Page.room_text somePretty]
    exact after _ fits
  | newline =>
    simp only [layoutThen, Token.andThen, lineFits_line] at fits ⊢
    exact fits
  | flatAlt broken flat ihBroken ihFlat => exact ihBroken level after cursor fits
  | cat left right ihLeft ihRight =>
    exact ihLeft level (fun cursor fits => ihRight level after cursor fits) cursor fits
  | nest amount body ih => exact ih _ after cursor fits
  | union flat broken ihFlat ihBroken =>
    simp only [layoutThen] at fits ⊢
    by_cases prettyFits : Page.fits ⟨width, ribbon, .pretty⟩ cursor
        (flat.layoutThen ⟨width, ribbon, .pretty⟩ level prettyRest cursor) = true
    · rw [if_pos prettyFits]
      exact (Page.fits_pretty_iff ..).mp prettyFits
    · rw [if_neg prettyFits]
      split at fits
      · -- What the smart strategy accepts, the other cannot have refused.
        have flatFits := ihFlat level after cursor fits
        exact absurd ((Page.fits_pretty_iff ..).mpr flatFits) prettyFits
      · exact ihBroken level after cursor fits
  | column body ih => exact ih _ level after cursor fits
  | columns body ih => exact ih _ level after cursor fits
  | nesting body ih => exact ih _ level after cursor fits
  | styled change body ih =>
    simp only [layoutThen, Token.andThen, lineFits_format] at fits ⊢
    refine ih level ?_ _ fits
    intro stop fits
    simp only [Token.andThen, lineFits_format] at fits ⊢
    exact after _ fits
  | restore style =>
    simp only [layoutThen, Token.andThen, lineFits_format] at fits ⊢
    exact after _ fits

/-- A layout that stays within the page is the smart one too, provided that the same is true of what
comes after. -/
theorem Doc.layoutThen_smart_of_contained (small : width.toNat < UInt64.size / 2) (doc : Doc)
    (level : Int64)
    {smartRest prettyRest : Cursor → List Token}
    (fit : ∀ cursor, LineFits (Page.room ⟨width, ribbon, .smart⟩ cursor) (smartRest cursor) →
      LineFits (Page.room ⟨width, ribbon, .pretty⟩ cursor) (prettyRest cursor))
    (same : ∀ cursor, Contained width.toNat cursor.column (prettyRest cursor) →
      smartRest cursor = prettyRest cursor)
    (cursor : Cursor)
    (contained : Contained width.toNat cursor.column
      (doc.layoutThen ⟨width, ribbon, .pretty⟩ level prettyRest cursor)) :
    doc.layoutThen ⟨width, ribbon, .smart⟩ level smartRest cursor =
      doc.layoutThen ⟨width, ribbon, .pretty⟩ level prettyRest cursor := by
  induction doc generalizing level smartRest prettyRest cursor with
  | fail => rfl
  | empty => exact same cursor contained
  | literal piece =>
    simp only [layoutThen, Token.andThen, contained_text] at contained ⊢
    rw [same _ contained]
  | newline =>
    simp only [layoutThen, Token.andThen, contained_line] at contained ⊢
    rw [same _ contained.2]
  | flatAlt broken flat ihBroken ihFlat => exact ihBroken level fit same cursor contained
  | cat left right ihLeft ihRight =>
    exact ihLeft level (right.lineFits_pretty_of_smart width ribbon level fit)
      (fun cursor contained => ihRight level fit same cursor contained) cursor contained
  | nest amount body ih => exact ih _ fit same cursor contained
  | union flat broken ihFlat ihBroken =>
    simp only [layoutThen] at contained ⊢
    by_cases prettyFits : Page.fits ⟨width, ribbon, .pretty⟩ cursor
        (flat.layoutThen ⟨width, ribbon, .pretty⟩ level prettyRest cursor) = true
    · rw [if_pos prettyFits] at contained ⊢
      have flatSame := ihFlat level fit same cursor contained
      have line := (Page.fits_pretty_iff ..).mp prettyFits
      -- The smart strategy looks at the same tokens, and no line of them leaves the page.
      have smartFits : Page.fits ⟨width, ribbon, .smart⟩ cursor
          (flat.layoutThen ⟨width, ribbon, .pretty⟩ level prettyRest cursor) = true := by
        refine (Page.fits_iff_lines ..).mpr ⟨line, fun _ => ?_⟩
        rw [Page.roomBelow_eq small]
        exact contained.nextLineFits
      rw [flatSame, if_pos smartFits]
    · rw [if_neg prettyFits] at contained ⊢
      have smartRefuses : ¬ Page.fits ⟨width, ribbon, .smart⟩ cursor
          (flat.layoutThen ⟨width, ribbon, .smart⟩ level smartRest cursor) = true := by
        intro smartFits
        have line := ((Page.fits_iff_lines ..).mp smartFits).1
        have flatFits := flat.lineFits_pretty_of_smart width ribbon level fit cursor line
        exact prettyFits ((Page.fits_pretty_iff ..).mpr flatFits)
      rw [if_neg smartRefuses]
      exact ihBroken level fit same cursor contained
  | column body ih => exact ih _ level fit same cursor contained
  | columns body ih => exact ih _ level fit same cursor contained
  | nesting body ih => exact ih _ level fit same cursor contained
  | styled change body ih =>
    simp only [layoutThen, Token.andThen, contained_format] at contained ⊢
    congr 1
    refine ih level ?_ ?_ _ contained
    · intro stop fits
      simp only [Token.andThen, lineFits_format] at fits ⊢
      exact fit _ fits
    · intro stop contained
      simp only [Token.andThen, contained_format] at contained ⊢
      rw [same _ contained]
  | restore style =>
    simp only [layoutThen, Token.andThen, contained_format] at contained ⊢
    rw [same _ contained]

end

/-- Smart agrees with pretty wherever the page is not overrun: a document that the pretty strategy
lays out without a failure and with no line ending beyond the page has the same layout with the smart
one, although the two look at different tokens. On a page of 2^63 columns or more the next line may count
as too long although it ends on the page. -/
theorem smart_agrees_within_the_page (width ribbon : UInt64)
    (small : width.toNat < UInt64.size / 2) (doc : Doc)
    (feasible : (doc.render ⟨width, ribbon, .pretty⟩).isFeasible = true)
    (within : ∀ stop ∈ lineEnds 0 (doc.render ⟨width, ribbon, .pretty⟩).tokens,
      stop ≤ width.toNat) :
    (doc.render ⟨width, ribbon, .smart⟩).tokens =
      (doc.render ⟨width, ribbon, .pretty⟩).tokens := by
  have contained : Contained width.toNat 0 (doc.render ⟨width, ribbon, .pretty⟩).tokens :=
    ⟨(doc.isFeasible_render_iff _).mp feasible, within⟩
  rw [Doc.tokens_render] at contained ⊢
  rw [Doc.tokens_render]
  refine doc.layoutThen_smart_of_contained width ribbon small 0 ?_ (fun _ _ => rfl) {} contained
  intro cursor fits
  exact fits

/-- A call with a choice on its first line and a deeper second line that just fits ten columns. -/
def tightCall : Doc :=
  .cat (.literal (.ofString "f(")) (.nest 4 (.cat
    (.union (.literal (.ofString "ab")) (.cat (.literal (.ofString "a")) .newline))
    (.cat .newline (.literal (.ofString "123456")))))

private theorem tightCall_tokens : (tightCall.render ⟨10, 10, .pretty⟩).tokens =
    [.text (.ofString "f("), .text (.ofString "ab"), .line 4, .text (.ofString "123456")] := by
  rw [Doc.tokens_render]
  decide

theorem smart_agrees_on_tightCall :
    (tightCall.render ⟨10, 10, .pretty⟩).isFeasible = true ∧
      (∀ stop ∈ lineEnds 0 (tightCall.render ⟨10, 10, .pretty⟩).tokens, stop ≤ 10) ∧
      (tightCall.render ⟨10, 10, .smart⟩).tokens =
        (tightCall.render ⟨10, 10, .pretty⟩).tokens := by
  have feasible : (tightCall.render ⟨10, 10, .pretty⟩).isFeasible = true := by
    rw [Rendered.isFeasible, tightCall_tokens]
    decide
  have within : ∀ stop ∈ lineEnds 0 (tightCall.render ⟨10, 10, .pretty⟩).tokens, stop ≤ 10 := by
    rw [tightCall_tokens]
    decide
  exact ⟨feasible, within, smart_agrees_within_the_page 10 10 (by decide) tightCall feasible within⟩

/-- A letter at the largest level there is, with a choice of more text after it, and a newline. -/
def farGate : Doc :=
  .cat (.nest 9223372036854775807 .newline)
    (.cat (.literal (.ofString "a")) (.cat (.union .empty (.literal (.ofString "!"))) .newline))

/-- The choice is at the column 2^63, which counts as left of the margin. The smart strategy goes on to the
newline there and finds no room below it, although all lines are within the page. -/
theorem farGate_renders_otherwise :
    let width : UInt64 := 9223372036854775808
    (farGate.render ⟨width, width, .pretty⟩).isFeasible = true ∧
      (farGate.render ⟨width, width, .pretty⟩).tokens =
        [.line 9223372036854775807, .text (.ofString "a"), .line 0] ∧
      (∀ stop ∈ lineEnds 0 (farGate.render ⟨width, width, .pretty⟩).tokens, stop ≤ width.toNat) ∧
      (farGate.render ⟨width, width, .smart⟩).tokens =
        [.line 9223372036854775807, .text (.ofString "a"), .text (.ofString "!"), .line 0] ∧
      (farGate.render ⟨width, width, .smart⟩).tokens ≠
        (farGate.render ⟨width, width, .pretty⟩).tokens := by
  intro width
  have pretty : (farGate.render ⟨width, width, .pretty⟩).tokens =
      [.line 9223372036854775807, .text (.ofString "a"), .line 0] := by
    rw [Doc.tokens_render]
    decide
  have smart : (farGate.render ⟨width, width, .smart⟩).tokens =
      [.line 9223372036854775807, .text (.ofString "a"), .text (.ofString "!"), .line 0] := by
    rw [Doc.tokens_render]
    decide
  refine ⟨?_, pretty, ?_, smart, ?_⟩
  · rw [Rendered.isFeasible, pretty]
    decide
  · rw [pretty]
    decide
  · rw [smart, pretty]
    decide

end Typeset
