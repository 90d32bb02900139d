import Typeset.Proofs.Continuation
import Typeset.Proofs.Steps

/-! The machine hands out exactly the recursive layout. Every attempt stands for a choice that the
recursion is still in the middle of: what it would say of the whole stream of tokens decides between
that stream and the layout of the other alternative. A machine therefore has an outcome, and no step
changes it, apart from the token that the step hands out. -/
namespace Typeset

theorem Lookahead.accepts_append (ahead : Lookahead) (first second : List Token) :
    ahead.accepts (first ++ second) =
      match ahead.seeAll first with
      | .fits => true
      | .overflows => false
      | .undecided ahead => ahead.accepts second := by
  simp only [accepts, seeAll_append]
  cases ahead.seeAll first <;> rfl

theorem Page.accepts_of_room {page : Page} {place : Place} {ahead : Lookahead}
    (room : page.lookahead? place = some ahead) (tokens : List Token) :
    page.accepts place tokens = ahead.accepts tokens := by
  rw [accepts, room]

theorem Page.accepts_of_no_room {page : Page} {place : Place}
    (noRoom : page.lookahead? place = none) (tokens : List Token) :
    page.accepts place tokens = false := by
  rw [accepts, noRoom]

namespace Machine

/-- What becomes of the tokens since the earliest attempt began, followed by all that is to come,
once every attempt is decided. The topmost attempt is decided first, on the whole stream; the ones
below it are decided on what that leaves. -/
def resolve (page : Page) : List Attempt → List Token → List Token
  | [], stream => stream
  | top :: below, stream =>
    if top.ahead.accepts (stream.drop top.seen) then resolve page below stream
    else resolve page below (stream.take top.since ++ top.otherwise.layout page)

/-- The tokens that a machine is going to hand out. -/
def outcome (machine : Machine) : List Token :=
  machine.decided ++ resolve machine.page machine.attempts
    (machine.tentative.toList ++ machine.place.layout machine.page)

/-- Attempts under way over so many tentative tokens: the topmost one has seen all of them, each
of the others has seen those before the one above it began, and the earliest began with the first. -/
def Stacked : Nat → List Attempt → Prop
  | size, [] => size = 0
  | size, top :: below => top.since ≤ top.seen ∧ top.seen = size ∧ Stacked top.since below

/-- Attempts whose topmost one may have tokens left to see. -/
def Waiting (size : Nat) : List Attempt → Prop
  | [] => True
  | top :: below => top.since ≤ top.seen ∧ top.seen ≤ size ∧ Stacked top.since below

/-- A machine between two steps. -/
def Sound (machine : Machine) : Prop := Stacked machine.tentative.size machine.attempts

theorem Stacked.waiting {below : List Attempt} (stacked : Stacked size below)
    (le : size ≤ more) : Waiting more below := by
  cases below with
  | nil => trivial
  | cons top below => exact ⟨stacked.1, by have := stacked.2.1; omega, stacked.2.2⟩

/-- Without attempts nothing is tentative. -/
theorem tentative_of_no_attempts {machine : Machine} (sound : machine.Sound)
    (none : machine.attempts = []) : machine.tentative = #[] := by
  have empty : machine.tentative.size = 0 := by simpa only [Sound, none, Stacked] using sound
  exact Array.eq_empty_of_size_eq_zero empty

/-- Judging attempts leaves the outcome as it is. At the end of the document nothing is to come, so
that an attempt which is still undecided holds. -/
theorem judge_outcome (atEnd : Bool) (machine : Machine) (attempts : List Attempt)
    (waiting : Waiting machine.tentative.size attempts)
    (ended : atEnd = true → machine.place.layout machine.page = []) :
    (machine.judge atEnd attempts).outcome =
        machine.decided ++ resolve machine.page attempts
          (machine.tentative.toList ++ machine.place.layout machine.page) ∧
      (machine.judge atEnd attempts).Sound := by
  induction attempts with
  | nil => exact ⟨by simp [judge, outcome, resolve], rfl⟩
  | cons top below ih =>
    obtain ⟨begun, seen, stacked⟩ := waiting
    have unseen : (machine.tentative.toList ++ machine.place.layout machine.page).drop top.seen =
        (machine.tentative.extract top.seen).toList ++ machine.place.layout machine.page := by
      rw [List.drop_append_of_le_length (by simpa using seen), toList_extract_from]
    have handedDown := ih (stacked.waiting (by omega))
    simp only [judge, resolve, unseen, Lookahead.accepts_append]
    cases known : top.ahead.seeAll (machine.tentative.extract top.seen).toList with
    | fits => exact handedDown
    | overflows =>
      have kept : (machine.tentative.toList ++ machine.place.layout machine.page).take top.since =
          (machine.tentative.shrink top.since).toList := by
        rw [List.take_append_of_le_length (by simp; omega)]
        simp
      refine ⟨by simp [outcome, kept], ?_⟩
      have size : (machine.tentative.shrink top.since).size = top.since := by simp; omega
      simpa only [Sound, size] using stacked
    | undecided ahead =>
      cases atEnd with
      | true =>
        have holds : ahead.accepts (machine.place.layout machine.page) = true := by
          rw [ended rfl]
          rfl
        simpa only [holds, ↓reduceIte] using handedDown
      | false =>
        have later : (machine.tentative.toList ++ machine.place.layout machine.page).drop
            machine.tentative.size = machine.place.layout machine.page := by
          rw [← Array.length_toList]
          exact List.drop_left
        refine ⟨by simp [outcome, resolve, later], ?_⟩
        exact ⟨by simpa using Nat.le_trans begun seen, rfl, stacked⟩

private theorem attempt_outcome {machine : Machine} {level : Int64} {flat broken : Doc}
    {place : Place} (sound : machine.Sound) (found :
      machine.place.next machine.page.width.toNat = .choice level flat broken place) :
    (machine.attempt level flat broken place).outcome = machine.outcome ∧
      (machine.attempt level flat broken place).Sound := by
  have choice : machine.place.layout machine.page =
      if machine.page.accepts place ((place.push level flat).layout machine.page)
      then (place.push level flat).layout machine.page
      else (place.push level broken).layout machine.page := by
    rw [Place.layout, found]
  unfold attempt
  cases room : machine.page.lookahead? place with
  | none =>
    have refused := Page.accepts_of_no_room room ((place.push level flat).layout machine.page)
    exact ⟨by simp [outcome, choice, refused], sound⟩
  | some ahead =>
    refine ⟨?_, Nat.le_refl _, rfl, sound⟩
    have verdict := Page.accepts_of_room room ((place.push level flat).layout machine.page)
    have before : ∀ later : List Token,
        (machine.tentative.toList ++ later).drop machine.tentative.size = later := by
      intro later
      rw [← Array.length_toList]
      exact List.drop_left
    have kept : ∀ later : List Token,
        (machine.tentative.toList ++ later).take machine.tentative.size =
          machine.tentative.toList := by
      intro later
      rw [← Array.length_toList]
      exact List.take_left
    simp only [outcome, resolve, choice, verdict, before, kept]
    split <;> rfl

/-- A step changes the outcome only by the token that it hands out. -/
theorem step_outcome {machine after : Machine} {token : Option Token} (sound : machine.Sound)
    (step : machine.Step token after) :
    machine.outcome = token.toList ++ after.outcome ∧ after.Sound := by
  cases step with
  | handOut isDecided => exact ⟨by simp [outcome, isDecided], sound⟩
  | close nothingDecided found attempting =>
    have ended : machine.place.layout machine.page = [] := by rw [Place.layout, found]
    have judged := judge_outcome true machine machine.attempts
      (Stacked.waiting sound (Nat.le_refl _)) (fun _ => ended)
    exact ⟨judged.1.symm, judged.2⟩
  | @emit token place nothingDecided found settled =>
    have comes : machine.place.layout machine.page = token :: place.layout machine.page := by
      rw [Place.layout, found]
    have noTentative := tentative_of_no_attempts sound settled
    refine ⟨?_, by simpa only [Sound, tentative_note, attempts_note] using sound⟩
    simp [outcome, nothingDecided, settled, noTentative, resolve, comes]
  | @keep token place nothingDecided found attempting =>
    have comes : machine.place.layout machine.page = token :: place.layout machine.page := by
      rw [Place.layout, found]
    have judged := judge_outcome false
      { machine.note token with place, tentative := machine.tentative.push token }
      machine.attempts (by simpa using Stacked.waiting sound (Nat.le_succ _))
      (fun atEnd => by cases atEnd)
    refine ⟨?_, judged.2⟩
    rw [Option.toList_none, List.nil_append, judged.1]
    simp [outcome, comes]
  | choose nothingDecided found =>
    have attempted := attempt_outcome sound found
    exact ⟨attempted.1.symm, attempted.2⟩

/-- A machine without a step has nothing to hand out. -/
theorem stuck_outcome {machine : Machine} (sound : machine.Sound)
    (stuck : machine.step? = none) : machine.outcome = [] := by
  obtain ⟨nothingDecided, found, settled⟩ := step_eq_none_iff.mp stuck
  have noTentative := tentative_of_no_attempts sound settled
  have ended : machine.place.layout machine.page = [] := by rw [Place.layout, found]
  simp [outcome, nothingDecided, settled, noTentative, resolve, ended]

/-- A run hands out the outcome of the machine that it starts from. -/
theorem run_after_outcome (machine : Machine) (out : Array Token) (sound : machine.Sound) :
    (machine.runAfter out).1.toList = out.toList ++ machine.outcome := by
  induction machine, out using runAfter.induct with
  | case1 machine out stuck =>
    rw [runAfter, stuck]
    simp [stuck_outcome sound stuck]
  | case2 machine out after stepped ih =>
    obtain ⟨same, sound⟩ := step_outcome sound (step_iff.mp stepped)
    rw [runAfter, stepped]
    simp [ih sound, same]
  | case3 machine out token after stepped ih =>
    obtain ⟨same, sound⟩ := step_outcome sound (step_iff.mp stepped)
    rw [runAfter, stepped]
    simp [ih sound, same]

/-- A machine that attempts nothing hands out what is decided and then the layout of its place. -/
theorem run_without_attempts (machine : Machine) (noAttempt : machine.attempts = [])
    (noTentative : machine.tentative = #[]) :
    machine.run = machine.decided ++ machine.place.layout machine.page := by
  have sound : machine.Sound := by simp [Sound, noAttempt, noTentative, Stacked]
  simp [run, run_after_outcome machine #[] sound, outcome, noAttempt, noTentative, resolve]

end Machine

/-- A document is rendered to its layout. -/
theorem Doc.tokens_render (page : Page) (doc : Doc) :
    (doc.render page).tokens = doc.layoutThen page 0 (fun _ => []) {} := by
  rw [← layout_eq_layoutThen]
  exact Machine.run_without_attempts (Machine.start page doc) rfl rfl

/-- Rendering refines the naive layout: from every place, the machine hands out what the recursion
says, which at a choice lays out all that follows with the flat document, keeps that if there is room
and the lookahead accepts it, and otherwise starts again from the same place with the broken one. The
room is calculated with signed words: where it is not negative it is the lesser of what is left of the
page and of the ribbon, each as such a word, and it is negative where that is. -/
theorem machine_refines_naive_layout (page : Page) :
    (∀ doc : Doc, (doc.render page).tokens = (Place.start doc).layout page) ∧
    (∀ place : Place, Machine.run
      { page, place, attempts := [], tentative := #[], decided := [], illegal := none } =
        place.layout page) ∧
    (∀ place : Place, place.layout page =
      match place.next page.width.toNat with
      | .done => []
      | .token token after => token :: after.layout page
      | .choice level flat broken after =>
        let flatTokens := (after.push level flat).layout page
        let room := page.roomAt after.lineIndent after.column
        let ahead : Lookahead :=
          { strategy := page.strategy, roomBelow := page.roomBelow,
            baseIndent := min after.lineIndent (Page.signed after.column), room, pastLine := false }
        if 0 ≤ room ∧ ahead.accepts flatTokens = true then flatTokens
        else (after.push level broken).layout page) ∧
    ∀ lineIndent column : Nat, page.ribbon ≤ page.width → lineIndent ≤ column →
      lineIndent < UInt64.size / 2 → column - lineIndent < UInt64.size / 2 →
        let words := min (page.width.toInt64 - .ofNat column).toInt
          (page.ribbon.toInt64 - .ofNat column + .ofNat lineIndent).toInt
        (0 ≤ page.roomAt lineIndent column ↔ 0 ≤ words) ∧
        (0 ≤ words → page.roomAt lineIndent column = words) ∧
        page.roomBelow lineIndent = (page.width.toInt64 - .ofNat lineIndent).toInt ∧
        Page.signed column = (Int64.ofNat column).toInt := by
  refine ⟨fun doc => Machine.run_without_attempts (.start page doc) rfl rfl,
    fun place => Machine.run_without_attempts _ rfl rfl, ?_, ?_⟩
  · intro place
    rw [Place.layout]
    cases place.next page.width.toNat with
    | done => rfl
    | token token after => rfl
    | choice level flat broken after =>
      simp only [Place.accepts_eq_fits, Page.fits_iff]
      rfl
  · intro lineIndent column narrower past indented text words
    have room : max (-1) (page.roomAt lineIndent column) = max (-1) words :=
      Page.max_roomAt_eq_words narrower indented past text
    have word : column < UInt64.size := by
      simp only [UInt64.size] at indented text ⊢
      omega
    exact ⟨by omega, by omega, page.roomBelow_eq_words indented, Page.signed_eq_word word⟩

/-- Right of its first column a page of 2^63 columns has room for as many as a signed word can count, and
a group after a letter stays on the line. -/
theorem mark_stays_on_line :
    let page : Page := ⟨9223372036854775808, 9223372036854775808, .pretty⟩
    let mark : Doc := .cat (.literal (.ofString "a")) (.union (.literal (.ofString " ")) .newline)
    page.roomAt 0 1 = 9223372036854775807 ∧
      (Place.start mark).layout page = [.text (.ofString "a"), .text (.ofString " ")] := by
  intro page mark
  obtain ⟨rendered, -, -, words⟩ := machine_refines_naive_layout page
  constructor
  · have word := words 0 1 (by decide) (by decide) (by decide) (by decide)
    exact (word.2.1 (by decide)).trans (by decide)
  · rw [← rendered, Doc.tokens_render]
    decide

end Typeset
