import Mathlib.Data.List.Chain
import Typeset.Proofs.Backtracking
import Typeset.Proofs.StyleScopes

/-! What is true of a machine between any two of its steps. Its attempts lie over the tentative tokens
without gaps: each has seen them as far as the attempt above it began, and the topmost has seen them
all. Its place, and every place to which it may go back, are the points of the output that a medium
would have reached by reading the tokens up to there, although the machine never reads them again. -/
namespace Typeset

namespace Place

/-- The point of the output moves as a medium moves that reads the tokens. -/
private theorem advance_cursor (width : Nat) (place : Place) (upcoming : List Indented) :
    match place.advance width upcoming with
    | .done => True
    | .token token after => after.cursor = place.cursor.read token
    | .choice _ _ _ after => after.cursor = place.cursor := by
  fun_induction place.advance width upcoming with
  | case1 => trivial
  | case2 => rfl
  | case3 level rest ih => exact ih
  | case4 => rfl
  | case5 => rfl
  | case6 level rest broken flat ih => exact ih
  | case7 level rest left right ih => exact ih
  | case8 level rest amount body ih => exact ih
  | case9 => rfl
  | case10 level rest body ih => exact ih
  | case11 level rest body ih => exact ih
  | case12 level rest body ih => exact ih
  | case13 level rest change body => exact (Cursor.read_codesFor place.cursor change).symm
  | case14 level rest style => exact (Cursor.read_codes place.cursor style).symm

theorem cursor_of_token {width : Nat} {place after : Place} {token : Token}
    (found : place.next width = .token token after) :
    after.cursor = place.cursor.read token := by
  have moved := advance_cursor width place place.upcoming
  rw [next] at found
  rwa [found] at moved

/-- A choice is met where the place stands. -/
theorem cursor_of_choice {width : Nat} {place after : Place} {level : Int64} {flat broken : Doc}
    (found : place.next width = .choice level flat broken after) :
    after.cursor = place.cursor := by
  have moved := advance_cursor width place place.upcoming
  rw [next] at found
  rwa [found] at moved

end Place

@[simp] theorem Cursor.readAll_concat (cursor : Cursor) (tokens : List Token) (token : Token) :
    cursor.readAll (tokens ++ [token]) = (cursor.readAll tokens).read token := by
  simp [readAll]

namespace Machine

/-! Attempts that lie over each other without gaps. -/

theorem Stacked.since_le_seen {size : Nat} {attempts : List Attempt}
    (stacked : Stacked size attempts) : ∀ attempt ∈ attempts, attempt.since ≤ attempt.seen := by
  induction attempts generalizing size with
  | nil => simp
  | cons top below ih =>
    obtain ⟨begun, -, under⟩ := stacked
    intro attempt member
    rcases List.mem_cons.mp member with rfl | member
    · exact begun
    · exact ih under attempt member

/-- No attempt began after the tokens that there are. -/
theorem Stacked.since_le {size : Nat} {attempts : List Attempt}
    (stacked : Stacked size attempts) : ∀ attempt ∈ attempts, attempt.since ≤ size := by
  induction attempts generalizing size with
  | nil => simp
  | cons top below ih =>
    obtain ⟨begun, rfl, under⟩ := stacked
    intro attempt member
    rcases List.mem_cons.mp member with rfl | member
    · exact begun
    · exact Nat.le_trans (ih under attempt member) begun

theorem Stacked.isChain {size : Nat} {attempts : List Attempt} (stacked : Stacked size attempts) :
    attempts.IsChain fun upper lower => lower.seen = upper.since := by
  induction attempts generalizing size with
  | nil => exact .nil
  | cons top below ih =>
    obtain ⟨-, -, under⟩ := stacked
    cases below with
    | nil => exact .singleton top
    | cons next further => exact .cons_cons under.2.1 (ih under)

theorem Stacked.seen_top {size : Nat} {attempts : List Attempt} (stacked : Stacked size attempts) :
    ∀ top ∈ attempts.head?, top.seen = size := by
  cases attempts with
  | nil => simp
  | cons top below =>
    intro first isTop
    cases isTop
    exact stacked.2.1

/-- The earliest attempt began with the first tentative token. -/
theorem Stacked.since_bottom {size : Nat} {attempts : List Attempt}
    (stacked : Stacked size attempts) : ∀ bottom ∈ attempts.getLast?, bottom.since = 0 := by
  induction attempts generalizing size with
  | nil => simp
  | cons top below ih =>
    obtain ⟨-, -, under⟩ := stacked
    intro bottom isBottom
    cases below with
    | nil =>
      cases isBottom
      exact under
    | cons next further => exact ih under bottom isBottom

/-- Attempts that go back, if they are given up, to where the tokens from before them lead. -/
def GoBack (out : List Token) (tentative : Array Token) (attempts : List Attempt) : Prop :=
  ∀ attempt ∈ attempts, attempt.otherwise.cursor =
    Cursor.readAll {} (out ++ tentative.toList.take attempt.since)

/-- A machine after some tokens stands where the tokens lead, and its attempts go back to where they
led before. While decided tokens wait there are no attempts, and no tentative token is a failure. -/
structure Faithful (out : List Token) (machine : Machine) : Prop where
  settled : machine.decided ≠ [] → machine.attempts = []
  unfailing : .fail ∉ machine.tentative
  here : machine.place.cursor =
    Cursor.readAll {} (out ++ machine.decided ++ machine.tentative.toList)
  goBack : GoBack out machine.tentative machine.attempts

/-- Giving up the topmost attempt leads back to where it began. -/
theorem faithful_of_giveUp {out : List Token} (machine : Machine) (top : Attempt)
    (below : List Attempt) (nothingDecided : machine.decided = [])
    (stacked : Stacked top.since below)
    (unfailing : .fail ∉ machine.tentative.toList.take top.since)
    (goBack : GoBack out machine.tentative (top :: below)) :
    Faithful out { machine with
      place := top.otherwise, attempts := below
      tentative := machine.tentative.shrink top.since } := by
  have left : (machine.tentative.shrink top.since).toList =
      machine.tentative.toList.take top.since := by
    simp
  refine ⟨fun decides => absurd nothingDecided decides, ?_, ?_, ?_⟩
  · rwa [← Array.mem_toList_iff, left]
  · simpa [nothingDecided, left] using goBack top List.mem_cons_self
  · intro attempt member
    have earlier := stacked.since_le attempt member
    rw [left, List.take_take, Nat.min_eq_left earlier]
    exact goBack attempt (List.mem_cons_of_mem _ member)

theorem judge_faithful (atEnd : Bool) {out : List Token} (machine : Machine)
    (attempts : List Attempt) (nothingDecided : machine.decided = [])
    (waiting : Waiting machine.tentative.size attempts) (unfailing : .fail ∉ machine.tentative)
    (here : machine.place.cursor = Cursor.readAll {} (out ++ machine.tentative.toList))
    (goBack : GoBack out machine.tentative attempts) :
    Faithful out (machine.judge atEnd attempts) := by
  induction attempts with
  | nil =>
    rw [judge]
    exact ⟨fun _ => rfl, by simp, by simpa [nothingDecided] using here, by simp [GoBack]⟩
  | cons top below ih =>
    obtain ⟨begun, seen, stacked⟩ := waiting
    have handedDown := ih (stacked.waiting (Nat.le_trans begun seen))
      fun attempt member => goBack attempt (List.mem_cons_of_mem _ member)
    rw [judge]
    cases top.ahead.seeAll (machine.tentative.extract top.seen).toList with
    | fits => exact handedDown
    | overflows =>
      have unfailingBefore : .fail ∉ machine.tentative.toList.take top.since :=
        fun fails => unfailing (Array.mem_toList_iff.mp (List.mem_of_mem_take fails))
      exact faithful_of_giveUp machine top below nothingDecided stacked unfailingBefore goBack
    | undecided ahead =>
      cases atEnd with
      | true => exact handedDown
      | false =>
        refine ⟨fun decides => absurd nothingDecided decides, unfailing, ?_, ?_⟩
        · simpa [nothingDecided] using here
        · simpa [GoBack] using goBack

/-- A failure is seen by the topmost attempt, which is given up together with it. -/
theorem judge_fail {machine : Machine} {top : Attempt} {below : List Attempt}
    (held : machine.attempts = top :: below) (seen : top.seen = machine.tentative.size) :
    judge false { machine with tentative := machine.tentative.push .fail } machine.attempts =
      { machine with
        place := top.otherwise, attempts := below
        tentative := (machine.tentative.push .fail).shrink top.since } := by
  have unseen : ((machine.tentative.push .fail).extract top.seen).toList = [.fail] := by
    rw [seen]
    simp
  rw [held, judge, unseen]
  rfl

/-- What is true with the tentative tokens is true with one more of them, once it is judged. -/
theorem judge_push_faithful {out : List Token} (machine : Machine) (token : Token)
    (sound : machine.Sound) (attempting : machine.attempts ≠ [])
    (nothingDecided : machine.decided = []) (unfailing : .fail ∉ machine.tentative)
    (here : machine.place.cursor =
      (Cursor.readAll {} (out ++ machine.tentative.toList)).read token)
    (goBack : GoBack out machine.tentative machine.attempts) :
    Faithful out (judge false { machine with tentative := machine.tentative.push token }
      machine.attempts) := by
  have before : ∀ attempt ∈ machine.attempts, (machine.tentative.push token).toList.take
      attempt.since = machine.tentative.toList.take attempt.since := by
    intro attempt member
    have begun : attempt.since ≤ machine.tentative.toList.length := by
      simpa using Stacked.since_le sound attempt member
    rw [Array.toList_push, List.take_append_of_le_length begun]
  have kept : GoBack out (machine.tentative.push token) machine.attempts := by
    intro attempt member
    rw [before attempt member]
    exact goBack attempt member
  by_cases fails : token = .fail
  · subst fails
    obtain ⟨top, below, held⟩ := List.exists_cons_of_ne_nil attempting
    rw [Sound, held] at sound
    obtain ⟨begun, seen, stacked⟩ := sound
    rw [judge_fail held seen]
    rw [held] at before kept
    refine faithful_of_giveUp { machine with tentative := machine.tentative.push .fail } top below
      nothingDecided stacked ?_ kept
    rw [before top List.mem_cons_self]
    exact fun fails => unfailing (Array.mem_toList_iff.mp (List.mem_of_mem_take fails))
  · refine judge_faithful false _ machine.attempts nothingDecided ?_ ?_ ?_ kept
    · simpa using Stacked.waiting sound (Nat.le_succ _)
    · simpa using ⟨unfailing, Ne.symm fails⟩
    · rw [here, Array.toList_push, ← List.append_assoc, Cursor.readAll_concat]

/-- A step leaves a machine where the tokens lead that have been handed out by then. -/
theorem Step.faithful {out : List Token} {machine after : Machine} {token : Option Token}
    (step : machine.Step token after) (sound : machine.Sound) (faithful : Faithful out machine) :
    Faithful (out ++ token.toList) after := by
  obtain ⟨settled, unfailing, here, goBack⟩ := faithful
  cases step with
  | handOut isDecided =>
    have noAttempts := settled (by simp [isDecided])
    refine ⟨fun _ => noAttempts, unfailing, ?_, by simp [GoBack, noAttempts]⟩
    simpa [isDecided] using here
  | close nothingDecided found attempting =>
    rw [nothingDecided, List.append_nil] at here
    rw [Option.toList_none, List.append_nil]
    exact judge_faithful true machine machine.attempts nothingDecided
      (Stacked.waiting sound (Nat.le_refl _)) unfailing here goBack
  | emit nothingDecided found noAttempts =>
    have noTentative := tentative_of_no_attempts sound noAttempts
    refine ⟨by simp [nothingDecided], by simp [noTentative], ?_, by simp [GoBack, noAttempts]⟩
    have stood : machine.place.cursor = Cursor.readAll {} out := by
      simpa [nothingDecided, noTentative] using here
    simp [nothingDecided, noTentative, Place.cursor_of_token found, stood]
  | @keep token place nothingDecided found attempting =>
    rw [nothingDecided, List.append_nil] at here
    rw [Option.toList_none, List.append_nil]
    have moved : place.cursor =
        (Cursor.readAll {} (out ++ machine.tentative.toList)).read token := by
      rw [Place.cursor_of_token found, here]
    have judged : Faithful out (judge false { machine.note token with
        place, tentative := (machine.note token).tentative.push token }
        (machine.note token).attempts) :=
      judge_push_faithful { machine.note token with place } token
        (by simpa [Sound] using sound) (by simpa using attempting) (by simpa using nothingDecided)
        (by simpa using unfailing) (by simpa using moved) (by simpa using goBack)
    simpa using judged
  | @choose level flat broken place nothingDecided found =>
    rw [nothingDecided, List.append_nil] at here
    rw [Option.toList_none, List.append_nil]
    have stands : ∀ doc, (place.push level doc).cursor =
        Cursor.readAll {} (out ++ machine.tentative.toList) := by
      intro doc
      exact (Place.cursor_of_choice found).trans here
    rw [attempt]
    cases machine.page.lookahead? place with
    | none =>
      refine ⟨settled, unfailing, ?_, goBack⟩
      simpa [nothingDecided] using stands broken
    | some ahead =>
      refine ⟨fun decides => absurd nothingDecided decides, unfailing, ?_, ?_⟩
      · simpa [nothingDecided] using stands flat
      · intro attempt member
        rcases List.mem_cons.mp member with rfl | member
        · have all : machine.tentative.toList.take machine.tentative.size =
              machine.tentative.toList := List.take_of_length_le (by simp)
          rw [all]
          exact stands broken
        · exact goBack attempt member

/-- After any number of steps a machine is where the tokens lead that it has handed out. -/
theorem sound_and_faithful {page : Page} {doc : Doc} {count : Nat} {out : List Token}
    {machine : Machine} (went : after? step? count (start page doc) = some (out, machine)) :
    machine.Sound ∧ Faithful out machine := by
  have starts : (start page doc).Sound ∧ Faithful [] (start page doc) := by
    refine ⟨rfl, fun _ => rfl, Array.not_mem_empty _, rfl, ?_⟩
    intro attempt member
    cases member
  refine after_invariant (P := fun out machine => machine.Sound ∧ Faithful out machine) ?_ starts went
  intro before machine token next holds stepped
  have step := step_iff.mp stepped
  exact ⟨(step_outcome holds.1 step).2, step.faithful holds.1 holds.2⟩

end Machine

/-- A machine stays coherent. Between any two steps of a layout its attempts lie over the tentative
tokens without gaps, none of these is a failure, and decided tokens wait only when nothing is attempted.
The machine stands where a medium stands that has read the tokens handed out, those that wait and the
tentative ones; and each attempt, if it is given up, goes back to where the medium stood before the
tokens of that attempt. -/
theorem machine_stays_coherent (page : Page) (doc : Doc) {count : Nat} {out : List Token}
    {machine : Machine}
    (went : Machine.after? Machine.step? count (Machine.start page doc) = some (out, machine)) :
    (machine.attempts = [] → machine.tentative = #[]) ∧
    (machine.decided ≠ [] → machine.attempts = []) ∧
    (∀ bottom ∈ machine.attempts.getLast?, bottom.since = 0) ∧
    (∀ attempt ∈ machine.attempts, attempt.since ≤ attempt.seen) ∧
    (machine.attempts.IsChain fun upper lower => lower.seen = upper.since) ∧
    (∀ top ∈ machine.attempts.head?, top.seen = machine.tentative.size) ∧
    .fail ∉ machine.tentative ∧
    machine.place.cursor =
      Cursor.readAll {} (out ++ machine.decided ++ machine.tentative.toList) ∧
    ∀ attempt ∈ machine.attempts, attempt.otherwise.cursor =
      Cursor.readAll {} (out ++ machine.tentative.toList.take attempt.since) := by
  obtain ⟨sound, settled, unfailing, here, goBack⟩ := Machine.sound_and_faithful went
  have stacked : Machine.Stacked machine.tentative.size machine.attempts := sound
  exact ⟨Machine.tentative_of_no_attempts sound, settled, stacked.since_bottom,
    stacked.since_le_seen, stacked.isChain, stacked.seen_top, unfailing, here, goBack⟩

/-- A bold word, and after it a choice inside another. -/
def greeting : Doc :=
  .cat (.styled (.turn .bold true) (.literal (.ofString "hi")))
    (.union (.cat (.literal (.ofString ", "))
      (.union (.literal (.ofString "all")) (.literal (.ofString "u")))) .newline)

/-- After seven steps the inner choice has been given up and the outer one is still attempted. -/
theorem greeting_goes_back : ∃ machine,
    Machine.after? Machine.step? 7 (Machine.start ⟨6, 6, .smart⟩ greeting) =
      some ([.format [.effect .bold], .text (.ofString "hi"), .format [.reset]], machine) ∧
    machine.attempts.map (fun attempt => (attempt.since, attempt.seen)) = [(0, 1)] ∧
    machine.tentative = #[.text (.ofString ", ")] ∧ machine.decided = [] ∧
    machine.place.cursor = ⟨0, 4, .plain⟩ ∧
    ∀ attempt ∈ machine.attempts, attempt.otherwise.cursor = ⟨0, 2, .plain⟩ := by
  have steps : (Machine.after? Machine.step? 7 (Machine.start ⟨6, 6, .smart⟩ greeting)).map
      (fun reached => (reached.1,
        reached.2.attempts.map fun attempt => (attempt.since, attempt.seen), reached.2.tentative)) =
      some ([.format [.effect .bold], .text (.ofString "hi"), .format [.reset]], [(0, 1)],
        #[.text (.ofString ", ")]) := by
    decide +kernel
  obtain ⟨⟨out, machine⟩, went, same⟩ := Option.map_eq_some_iff.mp steps
  simp only [Prod.mk.injEq] at same
  obtain ⟨rfl, marks, tentative⟩ := same
  obtain ⟨-, settled, -, -, -, -, -, here, goBack⟩ :=
    machine_stays_coherent ⟨6, 6, .smart⟩ greeting went
  have nothingDecided : machine.decided = [] := by
    by_contra decides
    simp [settled decides] at marks
  refine ⟨machine, went, marks, tentative, nothingDecided, ?_, ?_⟩
  · rw [here, nothingDecided, tentative]
    rfl
  · intro attempt member
    have began : (attempt.since, attempt.seen) ∈ [(0, 1)] := by
      rw [← marks]
      exact List.mem_map_of_mem member
    have first : attempt.since = 0 := by simp_all
    rw [goBack attempt member, first]
    rfl

end Typeset
