import Typeset.Proofs.Continuation

/-! What a lookahead decides, said of the tokens as a whole: those up to the next newline hold no
failure and fit into the room that is left, and with the smart strategy the same is true of the line
after it, if that is indented more deeply. -/
namespace Typeset

/-- The tokens up to the next newline. -/
def firstLine (tokens : List Token) : List Token := tokens.takeWhile fun token => !token.isLine

/-- The tokens from the next newline on. -/
def fromNewline (tokens : List Token) : List Token := tokens.dropWhile fun token => !token.isLine

/-- The columns that tokens take on a line. -/
def textWidth : List Token → Nat
  | [] => 0
  | .text piece :: rest => piece.width + textWidth rest
  | _ :: rest => textWidth rest

/-- The rest of the line holds no failure and fits into so many columns. -/
def LineFits (room : Int) (tokens : List Token) : Prop :=
  .fail ∉ firstLine tokens ∧ textWidth (firstLine tokens) ≤ room

/-- The next line holds no failure and fits into the columns that it has, if it is indented more deeply
than a base. -/
def NextLineFits (roomBelow : Nat → Int) (baseIndent : Int) (tokens : List Token) : Prop :=
  ∀ indent rest, fromNewline tokens = .line indent :: rest → baseIndent < indent →
    LineFits (roomBelow indent) rest

@[simp] theorem lineFits_nil (room : Int) : LineFits room [] ↔ 0 ≤ room := by
  simp [LineFits, firstLine, textWidth]

@[simp] theorem lineFits_text (room : Int) (piece : Literal) (rest : List Token) :
    LineFits room (.text piece :: rest) ↔ LineFits (room - piece.width) rest := by
  simp [LineFits, firstLine, textWidth, Token.isLine]
  omega

@[simp] theorem lineFits_format (room : Int) (codes : List Code) (rest : List Token) :
    LineFits room (.format codes :: rest) ↔ LineFits room rest := by
  simp [LineFits, firstLine, textWidth, Token.isLine]

@[simp] theorem lineFits_line (room : Int) (indent : Nat) (rest : List Token) :
    LineFits room (.line indent :: rest) ↔ 0 ≤ room := by
  simp [LineFits, firstLine, textWidth, Token.isLine]

@[simp] theorem lineFits_fail (room : Int) (rest : List Token) :
    ¬ LineFits room (.fail :: rest) := by
  simp [LineFits, firstLine, Token.isLine]

theorem LineFits.room_nonneg {room : Int} {tokens : List Token} (fits : LineFits room tokens) :
    0 ≤ room := by
  have := fits.2
  omega

@[simp] theorem nextLineFits_nil (roomBelow : Nat → Int) (baseIndent : Int) :
    NextLineFits roomBelow baseIndent [] := by
  simp [NextLineFits, fromNewline]

@[simp] theorem nextLineFits_text (roomBelow : Nat → Int) (baseIndent : Int) (piece : Literal)
    (rest : List Token) : NextLineFits roomBelow baseIndent (.text piece :: rest) ↔
      NextLineFits roomBelow baseIndent rest := Iff.rfl

@[simp] theorem nextLineFits_format (roomBelow : Nat → Int) (baseIndent : Int) (codes : List Code)
    (rest : List Token) : NextLineFits roomBelow baseIndent (.format codes :: rest) ↔
      NextLineFits roomBelow baseIndent rest := Iff.rfl

@[simp] theorem nextLineFits_line (roomBelow : Nat → Int) (baseIndent : Int) (indent : Nat)
    (rest : List Token) : NextLineFits roomBelow baseIndent (.line indent :: rest) ↔
      (baseIndent < indent → LineFits (roomBelow indent) rest) := by
  simp only [NextLineFits, fromNewline, Token.isLine, List.dropWhile_cons]
  constructor
  · intro next deeper
    exact next indent rest rfl deeper
  · intro next _ _ same deeper
    cases same
    exact next deeper

namespace Lookahead

theorem accepts_cons (ahead : Lookahead) (token : Token) (rest : List Token) :
    ahead.accepts (token :: rest) =
      match ahead.see token with
      | .fits => true
      | .overflows => false
      | .undecided ahead => ahead.accepts rest := by
  simp only [accepts, seeAll]
  cases ahead.see token <;> rfl

/-- A lookahead accepts tokens exactly if the rest of the line fits and, where it goes on to the next
line, that fits too. -/
theorem accepts_iff (ahead : Lookahead) (tokens : List Token) (room : 0 ≤ ahead.room) :
    ahead.accepts tokens = true ↔ LineFits ahead.room tokens ∧
      (ahead.strategy = .smart → ahead.pastLine = false →
        NextLineFits ahead.roomBelow ahead.baseIndent tokens) := by
  induction tokens generalizing ahead with
  | nil => simpa [accepts, seeAll] using room
  | cons token rest ih =>
    rw [accepts_cons]
    cases token with
    | text piece =>
      simp only [see, withRoom, lineFits_text, nextLineFits_text]
      by_cases beyond : ahead.room - piece.width < 0
      · have refused : ¬ LineFits (ahead.room - piece.width) rest := fun fits =>
          Int.not_le.mpr beyond fits.room_nonneg
        simp [beyond, refused]
      · simpa only [if_neg beyond] using ih { ahead with room := ahead.room - piece.width } (by
          simpa using beyond)
    | format codes => simpa only [see, lineFits_format, nextLineFits_format] using ih ahead room
    | fail => simp [see]
    | line indent =>
      simp only [see, lineFits_line, nextLineFits_line, room, true_and]
      by_cases goesOn : ahead.strategy = .smart ∧ ahead.pastLine = false ∧ ahead.baseIndent < indent
      · obtain ⟨smart, first, deeper⟩ := goesOn
        by_cases beyond : ahead.roomBelow indent < 0
        · have refused : ¬ LineFits (ahead.roomBelow indent) rest := fun fits =>
            Int.not_le.mpr beyond fits.room_nonneg
          simp [withRoom, smart, first, deeper, beyond, refused]
        · have next := ih { ahead with pastLine := true, room := ahead.roomBelow indent } (by
            simpa using beyond)
          simpa [withRoom, smart, first, deeper, beyond] using next
      · rw [if_neg goesOn]
        simp only [true_iff]
        intro smart first deeper
        exact absurd ⟨smart, first, deeper⟩ goesOn

end Lookahead

/-- Tokens fit at a point exactly if the rest of the line fits there and, with the smart strategy,
the next line does where it is indented more deeply. -/
theorem Page.fits_iff_lines (page : Page) (cursor : Cursor) (tokens : List Token) :
    page.fits cursor tokens = true ↔ LineFits (page.room cursor) tokens ∧
      (page.strategy = .smart →
        NextLineFits page.roomBelow (min cursor.lineIndent (signed cursor.column)) tokens) := by
  rw [fits_iff]
  constructor
  · rintro ⟨room, accepted⟩
    have lines := ((page.lookahead cursor).accepts_iff tokens room).mp accepted
    exact ⟨lines.1, fun smart => lines.2 smart rfl⟩
  · rintro ⟨line, next⟩
    have room := line.room_nonneg
    exact ⟨room, ((page.lookahead cursor).accepts_iff tokens room).mpr
      ⟨line, fun smart _ => next smart⟩⟩

/-- No line is deeper than any place if it starts at the margin, so that tokens without deeper lines fit
if the rest of the line does, whatever the strategy. -/
theorem Page.fits_iff_of_margin {page : Page} (small : page.width.toNat < UInt64.size / 2)
    (cursor : Cursor) {tokens : List Token}
    (margin : page.strategy = .smart → ∀ indent, .line indent ∈ tokens → indent = 0) :
    page.fits cursor tokens = true ↔ LineFits (page.room cursor) tokens := by
  rw [fits_iff_lines]
  refine ⟨fun fits => fits.1, fun line => ⟨line, fun smart => ?_⟩⟩
  rw [signed_column small line.room_nonneg]
  intro indent below next deeper
  have suffix : fromNewline tokens <:+ tokens := List.dropWhile_suffix _
  have isLine : .line indent ∈ tokens := suffix.mem (next ▸ List.mem_cons_self)
  have atMargin := margin smart indent isLine
  omega

end Typeset
