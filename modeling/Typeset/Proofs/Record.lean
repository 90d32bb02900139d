import Typeset.Proofs.Backtracking
import Typeset.Proofs.Events

/-! The record of a run. Beside the machine a record is kept of the choices that it makes: a flat
document is recorded as taken when it is attempted, and when the attempt is given up the record goes
back with the machine. What the record holds in the end is what happens in the layout, although the
machine decided on tentative tokens that it partly took back. -/
namespace Typeset

/-- What a machine has done so far, as far as it has not gone back on it. -/
structure Record where
  events : List Event := []
  /-- What had happened before each attempt that is under way, the latest first. -/
  before : List (List Event) := []

namespace Record

def add (record : Record) (event : Event) : Record :=
  { record with events := record.events ++ [event] }

/-- Take the flat document of a choice, for now. -/
def attempt (record : Record) : Record :=
  ⟨record.events ++ [.choice true], record.events :: record.before⟩

/-- The latest attempt holds. -/
def keep (record : Record) : Record := { record with before := record.before.tail }

/-- Go back before the latest attempt, and take the broken document. -/
def giveUp (record : Record) : Record :=
  ⟨record.before.headD [] ++ [.choice false], record.before.tail⟩

@[simp] theorem keep_attempt (record : Record) :
    record.attempt.keep = record.add (.choice true) := rfl

@[simp] theorem giveUp_attempt (record : Record) :
    record.attempt.giveUp = record.add (.choice false) := rfl

@[simp] theorem keep_add (record : Record) (event : Event) :
    (record.add event).keep = record.keep.add event := rfl

@[simp] theorem giveUp_add (record : Record) (event : Event) :
    (record.add event).giveUp = record.giveUp := rfl

/-- The record after tentative tokens are shown to attempts (`Machine.judge`). -/
def judge (atEnd : Bool) (tentative : Array Token) (record : Record) : List Attempt → Record
  | [] => record
  | top :: below =>
    match top.ahead.seeAll (tentative.extract top.seen).toList with
    | .fits => record.keep.judge atEnd tentative below
    | .overflows => record.giveUp
    | .undecided _ => if atEnd then record.keep.judge atEnd tentative below else record

/-- The record after the next step of a machine (`Machine.step?`). -/
def step (record : Record) (machine : Machine) : Record :=
  match machine.decided with
  | _ :: _ => record
  | [] =>
    match machine.place.next machine.page.width.toNat with
    | .done => record.judge true machine.tentative machine.attempts
    | .token token _ =>
      (record.add (.token token)).judge false (machine.tentative.push token) machine.attempts
    | .choice _ _ _ place =>
      match machine.page.lookahead? place with
      | some _ => record.attempt
      | none => record.add (.choice false)

end Record

namespace Machine

/-- The record after a run to the end. -/
def recordAfter (machine : Machine) (record : Record) : Record :=
  match _stepped : machine.step? with
  | none => record
  | some (_, after) => after.recordAfter (record.step machine)
termination_by (machine.work, machine.decided.length)
decreasing_by
  rcases step?_decreases _stepped with less | ⟨same, less⟩
  · exact .left _ _ less
  · rw [same]; exact .right _ less

end Machine

/-- What happens when a machine lays out a document on a page. -/
def Doc.record (page : Page) (doc : Doc) : List Event :=
  ((Machine.start page doc).recordAfter {}).events

namespace Machine

/-- What happens in all, once every attempt is decided, if so many events are to come. The topmost
attempt is decided first; the ones below it are decided on what that leaves. -/
def conclude (page : Page) : List Attempt → Record → List Token → List Event → List Event
  | [], record, _, coming => record.events ++ coming
  | top :: below, record, tentative, coming =>
    if top.ahead.accepts (tentative.drop top.seen ++ tokensOf coming)
    then conclude page below record.keep tentative coming
    else conclude page below record.giveUp (tentative.take top.since) (top.otherwise.events page)

/-- What is going to have happened when a machine comes to the end. -/
def conclusion (machine : Machine) (record : Record) : List Event :=
  conclude machine.page machine.attempts record machine.tentative.toList
    (machine.place.events machine.page)

/-- It makes no difference whether an event is still to come or has happened. -/
theorem conclude_add (page : Page) (attempts : List Attempt) (record : Record)
    (tentative : Array Token) (event : Event) (coming : List Event)
    (waiting : Waiting tentative.size attempts) :
    conclude page attempts (record.add event) (tentative.toList ++ tokensOf [event]) coming =
      conclude page attempts record tentative.toList (event :: coming) := by
  induction attempts generalizing record with
  | nil => simp [conclude, Record.add]
  | cons top below ih =>
    -- The attempt has seen none of what is to come, and if it is given up the event goes with it.
    obtain ⟨begun, seen, stacked⟩ := waiting
    rw [← Array.length_toList] at seen
    have unseen : (tentative.toList ++ tokensOf [event]).drop top.seen ++ tokensOf coming =
        tentative.toList.drop top.seen ++ tokensOf (event :: coming) := by
      rw [List.drop_append_of_le_length seen, List.append_assoc, ← tokensOf_append]
      rfl
    have kept : (tentative.toList ++ tokensOf [event]).take top.since =
        tentative.toList.take top.since :=
      List.take_append_of_le_length (Nat.le_trans begun seen)
    have handedDown := ih record.keep (stacked.waiting (Nat.le_trans begun seen))
    simp only [conclude, unseen, kept, Record.keep_add, Record.giveUp_add, handedDown]

private theorem drop_size (tokens : Array Token) : tokens.toList.drop tokens.size = [] :=
  List.drop_of_length_le (Nat.le_of_eq tokens.length_toList)

private theorem take_size (tokens : Array Token) :
    tokens.toList.take tokens.size = tokens.toList :=
  List.take_of_length_le (Nat.le_of_eq tokens.length_toList)

/-- Judging attempts leaves the conclusion as it is. At the end of the document nothing is to come, so
that an attempt which is still undecided holds. -/
theorem judge_conclusion (atEnd : Bool) (machine : Machine) (record : Record)
    (attempts : List Attempt) (waiting : Waiting machine.tentative.size attempts)
    (ended : atEnd = true → machine.place.events machine.page = []) :
    (machine.judge atEnd attempts).conclusion (record.judge atEnd machine.tentative attempts) =
      conclude machine.page attempts record machine.tentative.toList
        (machine.place.events machine.page) := by
  induction attempts generalizing record with
  | nil => rfl
  | cons top below ih =>
    obtain ⟨begun, seen, stacked⟩ := waiting
    have handedDown := ih record.keep (stacked.waiting (Nat.le_trans begun seen))
    simp only [judge, Record.judge, conclude, ← toList_extract_from, Lookahead.accepts_append]
    cases known : top.ahead.seeAll (machine.tentative.extract top.seen).toList with
    | fits => exact handedDown
    | overflows => simp [conclusion]
    | undecided ahead =>
      cases atEnd with
      | true =>
        have holds : ahead.accepts (tokensOf (machine.place.events machine.page)) = true := by
          rw [ended rfl]
          rfl
        simpa only [holds, ↓reduceIte] using handedDown
      | false => simp [conclusion, conclude, drop_size]

private theorem attempt_conclusion {machine : Machine} {level : Int64} {flat broken : Doc}
    {place : Place} (record : Record) (sound : machine.Sound)
    (nothingDecided : machine.decided = [])
    (found : machine.place.next machine.page.width.toNat = .choice level flat broken place) :
    (machine.attempt level flat broken place).conclusion (record.step machine) =
      machine.conclusion record := by
  have happened := fun took coming => conclude_add machine.page machine.attempts record
    machine.tentative (.choice took) coming (Stacked.waiting sound (Nat.le_refl _))
  simp only [tokensOf_choice, tokensOf_nil, List.append_nil] at happened
  have choice := machine.place.events_eq machine.page
  rw [found] at choice
  simp only [attempt, Record.step, nothingDecided, found]
  cases room : machine.page.lookahead? place with
  | none =>
    have refused :=
      Page.accepts_of_no_room room (tokensOf ((place.push level flat).events machine.page))
    simp only [conclusion, choice, refused]
    exact happened false _
  | some ahead =>
    have verdict :=
      Page.accepts_of_room room (tokensOf ((place.push level flat).events machine.page))
    simp only [conclusion, choice, verdict, conclude, drop_size, take_size, List.nil_append,
      Record.keep_attempt, Record.giveUp_attempt]
    split
    · exact happened true _
    · exact happened false _

/-- A step leaves the conclusion as it is. -/
theorem step_conclusion {machine after : Machine} {token : Option Token} (record : Record)
    (sound : machine.Sound) (step : machine.Step token after) :
    after.conclusion (record.step machine) = machine.conclusion record := by
  cases step with
  | handOut isDecided => simp [conclusion, Record.step, isDecided]
  | close nothingDecided found attempting =>
    have ended : machine.place.events machine.page = [] := by rw [Place.events_eq, found]
    simp only [Record.step, nothingDecided, found]
    exact judge_conclusion true machine record machine.attempts
      (Stacked.waiting sound (Nat.le_refl _)) (fun _ => ended)
  | @emit token place nothingDecided found settled =>
    have comes := machine.place.events_eq machine.page
    rw [found] at comes
    simp [conclusion, Record.step, Record.judge, Record.add, conclude, nothingDecided, found,
      settled, comes]
  | @keep token place nothingDecided found attempting =>
    have comes := machine.place.events_eq machine.page
    rw [found] at comes
    have judged := judge_conclusion false
      { machine.note token with place, tentative := machine.tentative.push token }
      (record.add (.token token)) machine.attempts
      (by simpa using Stacked.waiting sound (Nat.le_succ _)) (fun atEnd => by cases atEnd)
    have happened := conclude_add machine.page machine.attempts record machine.tentative
      (.token token) (place.events machine.page) (Stacked.waiting sound (Nat.le_refl _))
    have recorded : record.step machine =
        (record.add (.token token)).judge false (machine.tentative.push token)
          machine.attempts := by
      simp only [Record.step, nothingDecided, found]
    rw [recorded]
    refine judged.trans ?_
    simpa [conclusion, comes] using happened
  | choose nothingDecided found => exact attempt_conclusion record sound nothingDecided found

/-- A run to the end records the conclusion of the machine that it starts from. -/
theorem events_recordAfter (machine : Machine) (record : Record) (sound : machine.Sound) :
    (machine.recordAfter record).events = machine.conclusion record := by
  induction machine, record using recordAfter.induct with
  | case1 machine record stuck =>
    obtain ⟨nothingDecided, found, settled⟩ := step_eq_none_iff.mp stuck
    have ended : machine.place.events machine.page = [] := by rw [Place.events_eq, found]
    rw [recordAfter, stuck]
    simp [conclusion, conclude, settled, ended]
  | case2 machine record token after stepped ih =>
    have step := step_iff.mp stepped
    rw [recordAfter, stepped]
    exact (ih (step_outcome sound step).2).trans (step_conclusion record sound step)

end Machine

/-- What happens when a machine lays out a document is what happens in the layout. -/
theorem Doc.record_eq (page : Page) (doc : Doc) :
    doc.record page = doc.eventsThen page 0 (fun _ => []) {} :=
  Machine.events_recordAfter (Machine.start page doc) {} rfl

/-- The tokens of the record are those that the machine hands out. -/
theorem Doc.tokensOf_record (page : Page) (doc : Doc) :
    tokensOf (doc.record page) = (doc.render page).tokens := by
  rw [record_eq, tokens_render]
  exact doc.tokensOf_eventsThen page 0 (fun _ => rfl) {}

end Typeset
