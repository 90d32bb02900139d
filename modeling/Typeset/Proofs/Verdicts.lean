import Typeset.Proofs.Fit

/-! The lookahead as a check of a whole list of tokens. It is shown the tokens one at a time and stops
at its first verdict; whether it accepts them can be said of the first line and the next one without it.
How far it reads is a matter of newlines: each one that it goes past leaves one fewer to come to, and
after the last of them it has a verdict, whatever follows. -/
namespace Typeset

/-- The newline after which a strategy looks no further. -/
def Strategy.reach : Strategy → Nat
  | .pretty => 1
  | .smart => 2

/-- Whether tokens fit on a page of so many columns, with so much room on the line: a lookahead can start,
and does not overflow when it is shown them one after the other. -/
def Strategy.accepts (strategy : Strategy) (pageColumns baseIndent room : Int)
    (tokens : List Token) : Bool :=
  match Lookahead.start? strategy (fun indent => pageColumns - indent) baseIndent room with
  | some ahead => ahead.accepts tokens
  | none => false

namespace Lookahead

/-- The newlines that a lookahead may still come to, with the one at which it has to decide. -/
def reach (ahead : Lookahead) : Nat := if ahead.pastLine then 1 else ahead.strategy.reach

theorem reach_pos (ahead : Lookahead) : 0 < ahead.reach := by
  rw [reach]
  split
  · exact Nat.one_pos
  · cases ahead.strategy <;> decide

theorem withRoom_eq_undecided {ahead next : Lookahead} {room : Int}
    (goesOn : ahead.withRoom room = .undecided next) : next = { ahead with room := next.room } := by
  rw [withRoom] at goesOn
  split at goesOn
  · cases goesOn
  · cases goesOn
    rfl

/-- A lookahead goes on with no more changed than its room, or goes past a newline: a smart one does so
once, if the line after it is deeper than the base. -/
theorem see_cases {ahead next : Lookahead} {token : Token}
    (goesOn : ahead.see token = .undecided next) :
    (token.isLine = false ∧ next = { ahead with room := next.room }) ∨
      ∃ indent, token = .line indent ∧ ahead.strategy = .smart ∧ ahead.pastLine = false ∧
        ahead.baseIndent < indent ∧ next = { ahead with room := next.room, pastLine := true } := by
  cases token with
  | text piece => exact .inl ⟨rfl, withRoom_eq_undecided goesOn⟩
  | format codes =>
    cases goesOn
    exact .inl ⟨rfl, rfl⟩
  | fail => cases goesOn
  | line indent =>
    rw [see] at goesOn
    split at goesOn
    · rename_i deeper
      exact .inr ⟨indent, rfl, deeper.1, deeper.2.1, deeper.2.2, withRoom_eq_undecided goesOn⟩
    · cases goesOn

/-- A lookahead that goes past a newline has one fewer to come to; other tokens leave it as many. Its base
stays where it is. -/
theorem kept_of_see {ahead next : Lookahead} {token : Token}
    (goesOn : ahead.see token = .undecided next) : next.baseIndent = ahead.baseIndent ∧
      ahead.reach = next.reach + if token.isLine then 1 else 0 := by
  rcases see_cases goesOn with ⟨inLine, same⟩ | ⟨indent, rfl, smart, first, -, past⟩
  · rw [same, inLine]
    exact ⟨rfl, rfl⟩
  · rw [past]
    exact ⟨rfl, by simp [reach, smart, first, Strategy.reach, Token.isLine]⟩

/-- While a lookahead is undecided, it has gone past all the newlines that it was shown. -/
theorem kept_of_seeAll {ahead next : Lookahead} {tokens : List Token}
    (goesOn : ahead.seeAll tokens = .undecided next) : next.baseIndent = ahead.baseIndent ∧
      ahead.reach = next.reach + tokens.countP Token.isLine := by
  induction tokens generalizing ahead with
  | nil =>
    cases goesOn
    exact ⟨rfl, rfl⟩
  | cons token rest ih =>
    rw [seeAll] at goesOn
    cases seen : ahead.see token with
    | fits | overflows =>
      rw [seen] at goesOn
      cases goesOn
    | undecided further =>
      rw [seen] at goesOn
      obtain ⟨sameBase, passed⟩ := kept_of_see seen
      obtain ⟨sameBaseLater, passedLater⟩ := ih goesOn
      rw [passed, passedLater, List.countP_cons]
      exact ⟨sameBaseLater.trans sameBase, Nat.add_assoc ..⟩

/-- Once it has been shown as many newlines as it may come to, a lookahead has its verdict: nothing that
comes later changes it. -/
theorem seeAll_append_of_reach (ahead : Lookahead) {tokens : List Token}
    (reached : ahead.reach ≤ tokens.countP Token.isLine) (later : List Token) :
    ahead.seeAll (tokens ++ later) = ahead.seeAll tokens := by
  rw [seeAll_append]
  cases seen : ahead.seeAll tokens with
  | fits | overflows => rfl
  | undecided next =>
    have left := next.reach_pos
    have past := (kept_of_seeAll seen).2
    omega

end Lookahead

namespace Strategy

variable (strategy : Strategy) (pageColumns baseIndent room : Int)

theorem accepts_of_room (some : 0 ≤ room) (tokens : List Token) :
    strategy.accepts pageColumns baseIndent room tokens =
      Lookahead.accepts
        { strategy, roomBelow := fun indent => pageColumns - indent, baseIndent, room
          pastLine := false } tokens := by
  rw [accepts, Lookahead.start?, if_neg (Int.not_lt.mpr some)]

theorem accepts_of_no_room (none : room < 0) (tokens : List Token) :
    strategy.accepts pageColumns baseIndent room tokens = false := by
  rw [accepts, Lookahead.start?, if_pos none]

/-- Tokens are accepted exactly if the rest of the line fits and, with the smart strategy, the next line
does where it is indented more deeply. -/
theorem accepts_iff_lines (tokens : List Token) :
    strategy.accepts pageColumns baseIndent room tokens = true ↔ LineFits room tokens ∧
      (strategy = .smart → NextLineFits (fun indent => pageColumns - indent) baseIndent tokens) := by
  by_cases some : 0 ≤ room
  · rw [accepts_of_room strategy pageColumns baseIndent room some, Lookahead.accepts_iff _ _ some]
    simp only [true_implies]
  · have refused := accepts_of_no_room strategy pageColumns baseIndent room (Int.not_le.mp some) tokens
    rw [refused]
    exact iff_of_false Bool.false_ne_true fun lines => some lines.1.room_nonneg

theorem accepts_append_of_reach {tokens : List Token}
    (reached : strategy.reach ≤ tokens.countP Token.isLine) (later : List Token) :
    strategy.accepts pageColumns baseIndent room (tokens ++ later) =
      strategy.accepts pageColumns baseIndent room tokens := by
  by_cases some : 0 ≤ room
  · have known := Lookahead.seeAll_append_of_reach
      { strategy, roomBelow := fun indent => pageColumns - indent, baseIndent, room
        pastLine := false } reached later
    rw [accepts_of_room _ _ _ _ some, accepts_of_room _ _ _ _ some, Lookahead.accepts,
      Lookahead.accepts, known]
  · have none := Int.not_le.mp some
    rw [accepts_of_no_room _ _ _ _ none, accepts_of_no_room _ _ _ _ none]

end Strategy

/-- On a page of less than 2^63 columns this is what decides between the documents of a choice. -/
theorem Page.fits_eq_accepts {page : Page} (small : page.width.toNat < UInt64.size / 2)
    (cursor : Cursor) (tokens : List Token) :
    page.fits cursor tokens = page.strategy.accepts page.width.toNat
      (min cursor.lineIndent (signed cursor.column)) (page.room cursor) tokens := by
  rw [Bool.eq_iff_iff, fits_iff_lines, Strategy.accepts_iff_lines, roomBelow_eq small]

/-- The lookahead means what is said of it. Tokens that it is shown one at a time are accepted exactly if
there is room to begin with and the rest of the line holds no failure and fits into it; with the smart
strategy, if the next line is indented more deeply than the base, that line has to begin on the page,
hold no failure and fit there too. So whatever the smart strategy accepts the other accepts, and nothing
matters that comes after the first newline or, with the smart strategy, after the second. -/
theorem lookahead_meets_its_meaning (pageColumns baseIndent room : Int) (tokens : List Token) :
    (∀ strategy : Strategy, strategy.accepts pageColumns baseIndent room tokens = true ↔
      0 ≤ room ∧ .fail ∉ firstLine tokens ∧ textWidth (firstLine tokens) ≤ room ∧
        (strategy = .smart → ∀ indent rest, fromNewline tokens = .line indent :: rest →
          baseIndent < indent → indent ≤ pageColumns ∧ .fail ∉ firstLine rest ∧
            textWidth (firstLine rest) ≤ pageColumns - indent)) ∧
    (Strategy.smart.accepts pageColumns baseIndent room tokens = true →
      Strategy.pretty.accepts pageColumns baseIndent room tokens = true) ∧
    (1 ≤ tokens.countP Token.isLine → ∀ later,
      Strategy.pretty.accepts pageColumns baseIndent room (tokens ++ later) =
        Strategy.pretty.accepts pageColumns baseIndent room tokens) ∧
    (2 ≤ tokens.countP Token.isLine → ∀ later,
      Strategy.smart.accepts pageColumns baseIndent room (tokens ++ later) =
        Strategy.smart.accepts pageColumns baseIndent room tokens) := by
  refine ⟨?_, ?_, ?_, ?_⟩
  · intro strategy
    rw [Strategy.accepts_iff_lines]
    constructor
    · rintro ⟨line, next⟩
      refine ⟨line.room_nonneg, line.1, line.2, ?_⟩
      intro smart indent rest found deeper
      have fits := next smart indent rest found deeper
      exact ⟨Int.sub_nonneg.mp fits.room_nonneg, fits.1, fits.2⟩
    · rintro ⟨-, unfailing, within, next⟩
      refine ⟨⟨unfailing, within⟩, ?_⟩
      intro smart indent rest found deeper
      exact (next smart indent rest found deeper).2
  · intro accepted
    have lines := (Strategy.accepts_iff_lines ..).mp accepted
    exact (Strategy.accepts_iff_lines ..).mpr ⟨lines.1, nofun⟩
  · intro reached later
    exact Strategy.accepts_append_of_reach .pretty _ _ _ reached later
  · intro reached later
    exact Strategy.accepts_append_of_reach .smart _ _ _ reached later

/-- A call broken after its opening bracket, with ten columns on its second line. -/
def brokenCall : List Token := [.text (.ofString "f("), .line 4, .text (.ofString "123456"), .line 0]

/-- On nine columns the second line is one too many, which only the smart strategy sees; on ten columns it
fits, and a failure after the call is too far away to matter. -/
theorem brokenCall_fits_ten_columns :
    Strategy.smart.accepts 9 0 2 brokenCall = false ∧ Strategy.pretty.accepts 9 0 2 brokenCall = true ∧
      ∀ later, Strategy.smart.accepts 10 0 2 (brokenCall ++ .fail :: later) = true := by
  refine ⟨?_, ?_, ?_⟩
  · rw [Bool.eq_false_iff]
    intro accepted
    have meaning := (lookahead_meets_its_meaning 9 0 2 brokenCall).1 .smart
    obtain ⟨-, -, within⟩ := (meaning.mp accepted).2.2.2 rfl 4 _ rfl (by decide)
    exact absurd within (by decide)
  · have meaning := (lookahead_meets_its_meaning 9 0 2 brokenCall).1 .pretty
    exact meaning.mpr ⟨by decide, by decide, by decide, nofun⟩
  · intro later
    have accepted : Strategy.smart.accepts 10 0 2 brokenCall = true := by decide
    obtain ⟨-, -, -, unread⟩ := lookahead_meets_its_meaning 10 0 2 brokenCall
    exact (unread (by decide) _).trans accepted

end Typeset
