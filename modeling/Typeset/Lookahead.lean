import Typeset.Page
import Typeset.Token

/-! Whether what follows fits. A lookahead sees the tokens of a tentative layout one at a time until
it knows; a layout that ends before that fits.

A lookahead covers the rest of the line on which it starts. With the smart strategy it also covers
the next line if that is indented more deeply than its base, but no line after that: to look at all
of them would make every choice cost as much as the document. -/
namespace Typeset

/-- A lookahead under way. -/
structure Lookahead where
  strategy : Strategy
  /-- The columns that a line has, by its indentation. -/
  roomBelow : Nat → Int
  /-- A line with at most this indentation ends the lookahead. -/
  baseIndent : Int
  /-- The columns left on the line that is covered. -/
  room : Int
  /-- Whether the lookahead has gone on to the next line. -/
  pastLine : Bool

/-- What a lookahead knows after some tokens. -/
inductive Verdict where
  | fits
  | overflows
  /-- Not known yet; the lookahead goes on. -/
  | undecided (ahead : Lookahead)

namespace Lookahead

/-- A lookahead over the rest of a line; none if there is no room to begin with. -/
def start? (strategy : Strategy) (roomBelow : Nat → Int) (baseIndent room : Int) :
    Option Lookahead :=
  if room < 0 then none
  else some { strategy, roomBelow, baseIndent, room, pastLine := false }

/-- The lookahead with so much room, or an overflow if that is less than none. -/
def withRoom (ahead : Lookahead) (room : Int) : Verdict :=
  if room < 0 then .overflows else .undecided { ahead with room }

/-- See one token. -/
def see (ahead : Lookahead) : Token → Verdict
  | .text piece => ahead.withRoom (ahead.room - piece.width)
  | .format _ => .undecided ahead
  | .fail => .overflows
  | .line indent =>
    if ahead.strategy = .smart ∧ ahead.pastLine = false ∧ ahead.baseIndent < indent then
      { ahead with pastLine := true }.withRoom (ahead.roomBelow indent)
    else .fits

/-- See tokens until it is known whether they fit. -/
def seeAll (ahead : Lookahead) : List Token → Verdict
  | [] => .undecided ahead
  | token :: rest =>
    match ahead.see token with
    | .undecided ahead => ahead.seeAll rest
    | known => known

/-- Whether a complete layout fits. -/
def accepts (ahead : Lookahead) (tokens : List Token) : Bool :=
  match ahead.seeAll tokens with
  | .fits | .undecided _ => true
  | .overflows => false

theorem seeAll_append (ahead : Lookahead) (first second : List Token) :
    ahead.seeAll (first ++ second) =
      match ahead.seeAll first with
      | .undecided ahead => ahead.seeAll second
      | known => known := by
  induction first generalizing ahead with
  | nil => rfl
  | cons token rest ih =>
    simp only [List.cons_append, seeAll]
    cases ahead.see token with
    | fits => rfl
    | overflows => rfl
    | undecided ahead => exact ih ahead

end Lookahead
end Typeset
