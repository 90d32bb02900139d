import Typeset.Layout
import Typeset.Rendered

/-! The machine that lays out a document on a page. It goes through the document once, from token
to token. At a choice it attempts the flat alternative: from there on tokens are tentative, and a
lookahead sees them. If they turn out not to fit, the machine goes back to the place of the choice
and takes the broken alternative. Choices met during an attempt start attempts of their own, on top
of it. Only the topmost attempt sees new tokens; one below sees them once those above have held.

The amount of work left (`Machine.work`) counts what the place of the machine still leads to and what
each attempt would lead to if it were given up. The main statements are that every step leaves less
of it, or as much and one token fewer to hand out, so that a run always ends. -/
namespace Typeset

/-- A choice whose flat alternative is being attempted. -/
structure Attempt where
  /-- How many tentative tokens there were when the attempt began. -/
  since : Nat
  /-- How many of the tentative tokens came before the attempt or have been seen by it. -/
  seen : Nat
  ahead : Lookahead
  /-- The place from which to go on if the flat alternative does not fit. -/
  otherwise : Place

/-- The state of a layout under way. -/
structure Machine where
  page : Page
  /-- The place after the last tentative token. -/
  place : Place
  /-- The attempts under way, the latest first. -/
  attempts : List Attempt
  /-- The tokens since the earliest attempt began. -/
  tentative : Array Token
  /-- Tokens that are decided and not yet handed out. -/
  decided : List Token
  /-- The first piece of text met, tentatively or not, that should not hold a newline and does. It
  has no part in the layout. -/
  illegal : Option Literal

namespace Machine

def start (page : Page) (doc : Doc) : Machine :=
  { page, place := .start doc, attempts := [], tentative := #[], decided := [], illegal := none }

def note (machine : Machine) (token : Token) : Machine :=
  if machine.illegal.isNone then { machine with illegal := token.illegal? } else machine

/-- Take one of two documents: the flat one as an attempt if there is any room, otherwise the broken
one. The place is the one without either of them. -/
def attempt (machine : Machine) (level : Int64) (flat broken : Doc) (place : Place) : Machine :=
  match machine.page.lookahead? place with
  | some ahead =>
    let since := machine.tentative.size
    { machine with
      place := place.push level flat
      attempts := { since, seen := since, ahead, otherwise := place.push level broken } ::
        machine.attempts }
  | none => { machine with place := place.push level broken }

/-- Show the tentative tokens to the attempts, the topmost first, until one is undecided. An attempt
that holds leaves its tokens to the one below; one that does not is given up. With no attempt left,
the tentative tokens are decided. At the end of the document every attempt that is undecided
holds. -/
def judge (atEnd : Bool) (machine : Machine) : List Attempt → Machine
  | [] =>
    { machine with
      attempts := [], tentative := #[], decided := machine.decided ++ machine.tentative.toList }
  | top :: below =>
    match top.ahead.seeAll (machine.tentative.extract top.seen).toList with
    | .fits => machine.judge atEnd below
    | .overflows =>
      { machine with
        place := top.otherwise, attempts := below
        tentative := machine.tentative.shrink top.since }
    | .undecided ahead =>
      if atEnd then machine.judge atEnd below
      else { machine with attempts := { top with seen := machine.tentative.size, ahead } :: below }

/-- One step: the token that it hands out, if any, and the machine after it. None if nothing is
left. -/
def step? (machine : Machine) : Option (Option Token × Machine) :=
  match machine.decided with
  | token :: decided => some (some token, { machine with decided })
  | [] =>
    match machine.place.next machine.page.width.toNat with
    | .done =>
      match machine.attempts with
      | [] => none
      | attempts => some (none, machine.judge true attempts)
    | .token token place =>
      let machine := { machine.note token with place }
      match machine.attempts with
      | [] => some (some token, machine)
      | attempts =>
        some (none, { machine with tentative := machine.tentative.push token }.judge false attempts)
    | .choice level flat broken place => some (none, machine.attempt level flat broken place)

/-- The work that giving up attempts would lead to, for a page of a width. -/
def reserve (width : Nat) : List Attempt → Nat
  | [] => 0
  | top :: below => 1 + top.otherwise.cost width + reserve width below

/-- The work that is left, for a page of a width, at a place and in attempts. -/
def workOf (width : Nat) (place : Place) (attempts : List Attempt) : Nat :=
  place.cost width + reserve width attempts

def work (machine : Machine) : Nat :=
  workOf machine.page.width.toNat machine.place machine.attempts

@[simp] theorem page_note (machine : Machine) (token : Token) :
    (machine.note token).page = machine.page := by
  unfold note; split <;> rfl

@[simp] theorem attempts_note (machine : Machine) (token : Token) :
    (machine.note token).attempts = machine.attempts := by
  unfold note; split <;> rfl

theorem work_judge_le (atEnd : Bool) (machine : Machine) (attempts : List Attempt) :
    (machine.judge atEnd attempts).work ≤
      workOf machine.page.width.toNat machine.place attempts := by
  induction attempts with
  | nil => exact Nat.le_refl _
  | cons top below ih =>
    have fewer : workOf machine.page.width.toNat machine.place below ≤
        workOf machine.page.width.toNat machine.place (top :: below) := by
      simp only [workOf, reserve]; omega
    unfold judge
    split
    · exact Nat.le_trans ih fewer
    · simp only [work, workOf, reserve]; omega
    · split
      · exact Nat.le_trans ih fewer
      · simp only [work, workOf, reserve]; omega

/-- Judging an attempt at the end of the document takes work away. -/
theorem work_judge_end_lt (machine : Machine) (top : Attempt) (below : List Attempt) :
    (machine.judge true (top :: below)).work <
      workOf machine.page.width.toNat machine.place (top :: below) := by
  have fewer : workOf machine.page.width.toNat machine.place below <
      workOf machine.page.width.toNat machine.place (top :: below) := by
    simp only [workOf, reserve]; omega
  unfold judge
  split
  · exact Nat.lt_of_le_of_lt (work_judge_le true machine below) fewer
  · simp only [work, workOf, reserve]; omega
  · exact Nat.lt_of_le_of_lt (work_judge_le true machine below) fewer

theorem work_attempt_lt (machine : Machine) (level : Int64) (flat broken : Doc) (place : Place)
    (found : machine.place.next machine.page.width.toNat = .choice level flat broken place) :
    (machine.attempt level flat broken place).work < machine.work := by
  have less := Place.cost_of_choice found
  unfold attempt
  split <;> simp only [work, workOf, reserve] <;> omega

/-- Every step leaves less work, or as much of it and one token fewer to hand out. -/
theorem step?_decreases {machine after : Machine} {token : Option Token}
    (stepped : machine.step? = some (token, after)) :
    after.work < machine.work ∨
      after.work = machine.work ∧ after.decided.length < machine.decided.length := by
  unfold step? at stepped
  split at stepped
  · rename_i out decided isDecided
    simp only [Option.some.injEq, Prod.mk.injEq] at stepped
    obtain ⟨_, same⟩ := stepped
    subst same
    exact .inr ⟨rfl, by simp [isDecided]⟩
  · left
    split at stepped
    · split at stepped
      · simp at stepped
      · rename_i attempts nonempty
        simp only [Option.some.injEq, Prod.mk.injEq] at stepped
        obtain ⟨_, same⟩ := stepped
        subst same
        cases held : machine.attempts with
        | nil => exact absurd held (by simpa using nonempty)
        | cons top below =>
          have := work_judge_end_lt machine top below
          simpa [work, held] using this
    · rename_i found
      have less := Place.cost_of_token found
      dsimp only at stepped
      split at stepped
      · simp only [Option.some.injEq, Prod.mk.injEq] at stepped
        obtain ⟨_, same⟩ := stepped
        subst same
        simp only [work, workOf, page_note, attempts_note]
        omega
      · simp only [Option.some.injEq, Prod.mk.injEq] at stepped
        obtain ⟨_, same⟩ := stepped
        subst same
        refine Nat.lt_of_le_of_lt (work_judge_le _ _ _) ?_
        simp only [work, workOf, page_note, attempts_note]
        omega
    · rename_i found
      simp only [Option.some.injEq, Prod.mk.injEq] at stepped
      obtain ⟨_, same⟩ := stepped
      subst same
      exact work_attempt_lt _ _ _ _ _ found

/-- Step until nothing is left, adding the tokens that are handed out to those before. What comes
back with them is the first illegal piece of text that was met. -/
def runAfter (machine : Machine) (out : Array Token) : Array Token × Option Literal :=
  match _stepped : machine.step? with
  | none => (out, machine.illegal)
  | some (none, after) => after.runAfter out
  | some (some token, after) => after.runAfter (out.push token)
termination_by (machine.work, machine.decided.length)
decreasing_by
  all_goals
    rcases step?_decreases _stepped with less | ⟨same, less⟩
    · exact .left _ _ less
    · rw [same]; exact .right _ less

def run (machine : Machine) : List Token := (machine.runAfter #[]).1.toList

end Machine

namespace Doc

def render (page : Page) (doc : Doc) : Rendered := ⟨(Machine.start page doc).run⟩

/-- A document laid out on a page, if no piece of text met on the way holds a newline. -/
def render? (page : Page) (doc : Doc) : Except Error Rendered :=
  match (Machine.start page doc).runAfter #[] with
  | (tokens, none) => .ok ⟨tokens.toList⟩
  | (_, some piece) => .error (.newlineInText piece.text)

end Doc
end Typeset
