import Typeset.Machine

/-! What a step of the machine can do. There are five kinds of step, and three ways in which judging the
attempts can come out; what a machine keeps in each of them it keeps in every run, and after any number
of steps. -/
namespace Typeset.Machine

@[simp] theorem tentative_note (machine : Machine) (token : Token) :
    (machine.note token).tentative = machine.tentative := by
  unfold note; split <;> rfl

@[simp] theorem decided_note (machine : Machine) (token : Token) :
    (machine.note token).decided = machine.decided := by
  unfold note; split <;> rfl

/-- The tentative tokens that an attempt has not seen. -/
theorem toList_extract_from (tokens : Array Token) (seen : Nat) :
    (tokens.extract seen).toList = tokens.toList.drop seen := by
  rw [Array.toList_extract, List.extract_eq_drop_take', List.take_of_length_le (by simp)]

/-- What a machine comes to when it judges attempts. -/
inductive Judgement (machine : Machine) (attempts : List Attempt) : Machine → Prop where
  /-- All of them hold, and what was tentative is decided. -/
  | settle : Judgement machine attempts
    { machine with
      attempts := [], tentative := #[], decided := machine.decided ++ machine.tentative.toList }
  /-- Those above one of them hold, and that one is given up. -/
  | giveUp {top : Attempt} {below : List Attempt} (among : top :: below <:+ attempts)
    (seen : top.ahead.seeAll (machine.tentative.extract top.seen).toList = .overflows) :
    Judgement machine attempts
      { machine with
        place := top.otherwise, attempts := below
        tentative := machine.tentative.shrink top.since }
  /-- Those above one of them hold, and that one has to see more. -/
  | wait {top : Attempt} {below : List Attempt} {ahead : Lookahead} (among : top :: below <:+ attempts)
    (seen : top.ahead.seeAll (machine.tentative.extract top.seen).toList = .undecided ahead) :
    Judgement machine attempts
      { machine with attempts := { top with seen := machine.tentative.size, ahead } :: below }

theorem Judgement.below {machine after : Machine} {top : Attempt} {below : List Attempt}
    (judgement : machine.Judgement below after) : machine.Judgement (top :: below) after := by
  cases judgement with
  | settle => exact .settle
  | giveUp among seen => exact .giveUp (among.trans (List.suffix_cons top below)) seen
  | wait among seen => exact .wait (among.trans (List.suffix_cons top below)) seen

/-- Judging attempts comes to one of the three, whether or not the document is at its end. -/
theorem judgement (atEnd : Bool) (machine : Machine) (attempts : List Attempt) :
    machine.Judgement attempts (machine.judge atEnd attempts) := by
  induction attempts with
  | nil => exact .settle
  | cons top below ih =>
    rw [judge]
    cases seen : top.ahead.seeAll (machine.tentative.extract top.seen).toList with
    | fits => exact ih.below
    | overflows => exact .giveUp (List.suffix_refl _) seen
    | undecided ahead =>
      cases atEnd with
      | true => exact ih.below
      | false => exact .wait (List.suffix_refl _) seen

/-- What all attempts meet is met by one among them and by those below it. -/
theorem forall_among {p : Attempt → Prop} {attempts below : List Attempt} {top : Attempt}
    (all : ∀ attempt ∈ attempts, p attempt) (among : top :: below <:+ attempts) :
    p top ∧ ∀ attempt ∈ below, p attempt :=
  List.forall_mem_cons.mp fun attempt member => all attempt (among.mem member)

/-- A step of a machine, with the token that it hands out. -/
inductive Step (machine : Machine) : Option Token → Machine → Prop where
  /-- Hand out a token that is decided. -/
  | handOut {token : Token} {decided : List Token} (isDecided : machine.decided = token :: decided) :
    Step machine (some token) { machine with decided }
  /-- Come to the end of the document during attempts. -/
  | close (nothingDecided : machine.decided = [])
    (found : machine.place.next machine.page.width.toNat = .done)
    (attempting : machine.attempts ≠ []) :
    Step machine none (machine.judge true machine.attempts)
  /-- Hand out the next token, with no attempt under way. -/
  | emit {token : Token} {place : Place} (nothingDecided : machine.decided = [])
    (found : machine.place.next machine.page.width.toNat = .token token place)
    (settled : machine.attempts = []) :
    Step machine (some token) { machine.note token with place }
  /-- Show the next token to the attempts. -/
  | keep {token : Token} {place : Place} (nothingDecided : machine.decided = [])
    (found : machine.place.next machine.page.width.toNat = .token token place)
    (attempting : machine.attempts ≠ []) :
    Step machine none (judge false
      { machine.note token with place, tentative := machine.tentative.push token }
      machine.attempts)
  /-- Come to a choice. -/
  | choose {level : Int64} {flat broken : Doc} {place : Place} (nothingDecided : machine.decided = [])
    (found : machine.place.next machine.page.width.toNat = .choice level flat broken place) :
    Step machine none (machine.attempt level flat broken place)

/-- The steps of a machine are those, and no others. -/
theorem step_iff {machine after : Machine} {token : Option Token} :
    machine.step? = some (token, after) ↔ machine.Step token after := by
  constructor
  · intro stepped
    unfold step? at stepped
    split at stepped
    · rename_i isDecided
      cases stepped
      exact .handOut isDecided
    · rename_i nothingDecided
      split at stepped
      · rename_i found
        split at stepped
        · cases stepped
        · rename_i attempting
          cases stepped
          exact .close nothingDecided found attempting
      · rename_i next place found
        dsimp only at stepped
        split at stepped
        · rename_i settled
          cases stepped
          rw [attempts_note] at settled
          exact .emit nothingDecided found settled
        · rename_i attempting
          cases stepped
          rw [attempts_note] at attempting
          simpa only [attempts_note, tentative_note] using Step.keep nothingDecided found attempting
      · rename_i found
        cases stepped
        exact .choose nothingDecided found
  · intro step
    cases step with
    | handOut isDecided => simp [step?, isDecided]
    | close nothingDecided found attempting => simp [step?, nothingDecided, found]
    | emit nothingDecided found settled => simp [step?, nothingDecided, found, settled]
    | keep nothingDecided found attempting => simp [step?, nothingDecided, found]
    | choose nothingDecided found => simp [step?, nothingDecided, found]

/-- A machine has no step left exactly if it is at the end of the document, with nothing to hand out
and no attempt under way. -/
theorem step_eq_none_iff {machine : Machine} :
    machine.step? = none ↔ machine.decided = [] ∧
      machine.place.next machine.page.width.toNat = .done ∧ machine.attempts = [] := by
  constructor
  · intro stuck
    unfold step? at stuck
    split at stuck
    · cases stuck
    · rename_i nothingDecided
      split at stuck
      · rename_i found
        split at stuck
        · exact ⟨nothingDecided, found, by assumption⟩
        · cases stuck
      · dsimp only at stuck
        split at stuck <;> cases stuck
      · cases stuck
  · rintro ⟨nothingDecided, found, settled⟩
    simp [step?, nothingDecided, found, settled]

/-- A way to go on from a machine, with the token that is handed out on the way. -/
abbrev Going := Machine → Option (Option Token × Machine)

/-- The machine after going on so many times, with the tokens handed out on the way; none if that
comes to an end before. -/
def after? (goOn : Going) : Nat → Machine → Option (List Token × Machine)
  | 0, machine => some ([], machine)
  | count + 1, machine =>
    match goOn machine with
    | none => none
    | some (token, next) =>
      (after? goOn count next).map fun (out, last) => (token.toList ++ out, last)

/-- What is kept by going on once, with the tokens handed out so far, is kept by going on any number
of times. -/
theorem after_invariant {goOn : Going} {P : List Token → Machine → Prop}
    (kept : ∀ out machine token next, P out machine → goOn machine = some (token, next) →
      P (out ++ token.toList) next)
    {count : Nat} {before out : List Token} {machine last : Machine} (holds : P before machine)
    (went : after? goOn count machine = some (out, last)) : P (before ++ out) last := by
  induction count generalizing before out machine with
  | zero =>
    cases went
    rwa [List.append_nil]
  | succ count ih =>
    rw [after?] at went
    split at went
    · cases went
    · rename_i token next goes
      obtain ⟨⟨later, same⟩, goesOn, whole⟩ := Option.map_eq_some_iff.mp went
      cases whole
      have further := ih (kept before machine token next holds goes) goesOn
      rwa [List.append_assoc] at further

end Typeset.Machine
