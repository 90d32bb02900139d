import Typeset.Proofs.Backtracking

/-! Every layout ends. Going into one document is a transition of its own here, so that the documents
which give no token on their way count too. Giving up an attempt brings back an older place with more to
come than there is now, and it throws tokens away; but the work in that place was set aside when the
attempt began. What falls with every transition is the work that is left, counted twice, together with
the tokens that are not handed out yet: a tentative token costs one piece of work, and may take one more
transition until it is handed out. -/
namespace Typeset

/-- Go into the first of the documents to come at a column, if that gives neither a token nor a choice
by itself. -/
def Indented.pass? (width column : Nat) : List Indented → Option (List Indented)
  | [] => none
  | ⟨level, doc⟩ :: rest =>
    match doc with
    | .empty => some rest
    | .flatAlt broken _ => some (⟨level, broken⟩ :: rest)
    | .cat left right => some (⟨level, left⟩ :: ⟨level, right⟩ :: rest)
    | .nest amount body => some (⟨level + .ofInt amount, body⟩ :: rest)
    | .column body => some (⟨level, body column⟩ :: rest)
    | .columns body => some (⟨level, body (some width)⟩ :: rest)
    | .nesting body => some (⟨level, body level.toInt⟩ :: rest)
    | .fail | .literal _ | .newline | .union _ _ | .styled _ _ | .restore _ => none

/-- Going into a document takes one piece of work away. -/
theorem Indented.costAll_of_pass {width column : Nat} {upcoming after : List Indented}
    (passed : pass? width column upcoming = some after) :
    costAll width upcoming column = 1 + costAll width after column := by
  cases upcoming with
  | nil => cases passed
  | cons first rest =>
    obtain ⟨level, doc⟩ := first
    cases doc with
    | fail | literal | newline | union | styled | restore => cases passed
    | empty | flatAlt | cat | nest | column | columns | nesting =>
      cases passed
      rfl

/-- Going into a document leads on to the same layout. -/
theorem Indented.layoutAll_of_pass {page : Page} {cursor : Cursor} {upcoming after : List Indented}
    (passed : pass? page.width.toNat cursor.column upcoming = some after) :
    layoutAll page upcoming cursor = layoutAll page after cursor := by
  cases upcoming with
  | nil => cases passed
  | cons first rest =>
    obtain ⟨level, doc⟩ := first
    cases doc with
    | fail | literal | newline | union | styled | restore => cases passed
    | empty | flatAlt | cat | nest | column | columns | nesting =>
      cases passed
      rfl

namespace Place

/-- The place after going into one document. -/
def pass? (width : Nat) (place : Place) : Option Place :=
  (Indented.pass? width place.column place.upcoming).map fun upcoming => { place with upcoming }

theorem cost_of_pass {width : Nat} {place after : Place} (passed : place.pass? width = some after) :
    after.cost width < place.cost width := by
  obtain ⟨upcoming, goesInto, rfl⟩ := Option.map_eq_some_iff.mp passed
  rw [cost, cost, Indented.costAll_of_pass goesInto]
  exact Nat.lt_add_of_pos_left Nat.one_pos

theorem layout_of_pass {page : Page} {place after : Place}
    (passed : place.pass? page.width.toNat = some after) :
    after.layout page = place.layout page := by
  obtain ⟨upcoming, goesInto, rfl⟩ := Option.map_eq_some_iff.mp passed
  have same : Indented.layoutAll page place.upcoming place.cursor =
      Indented.layoutAll page upcoming place.cursor := Indented.layoutAll_of_pass goesInto
  rw [layout_eq_layoutAll, layout_eq_layoutAll, same]
  rfl

/-- Where nothing is left and no document can be gone into, there is none to come. -/
theorem upcoming_of_done {width : Nat} {place : Place} (stays : place.pass? width = none)
    (found : place.next width = .done) : place.upcoming = [] := by
  have goesNowhere : Indented.pass? width place.column place.upcoming = none := by
    simpa [pass?] using stays
  rw [next] at found
  cases upcoming : place.upcoming with
  | nil => rfl
  | cons first rest =>
    obtain ⟨level, doc⟩ := first
    rw [upcoming] at goesNowhere found
    cases doc with
    | empty | flatAlt | cat | nest | column | columns | nesting => cases goesNowhere
    | fail | literal | newline | union | styled | restore => simp [advance] at found

end Place

namespace Machine

/-- One transition of a machine: going into one document, or else a step. -/
def transition? : Going := fun machine =>
  match machine.decided, machine.place.pass? machine.page.width.toNat with
  | [], some place => some (none, { machine with place })
  | _, _ => machine.step?

/-- The transitions of a machine are those, and no others. -/
theorem transition_cases {machine after : Machine} {token : Option Token}
    (goes : machine.transition? = some (token, after)) :
    (∃ place, machine.decided = [] ∧ machine.place.pass? machine.page.width.toNat = some place ∧
      token = none ∧ after = { machine with place }) ∨ machine.Step token after := by
  unfold transition? at goes
  split at goes
  · rename_i place nothingDecided passed
    cases goes
    exact .inl ⟨place, nothingDecided, passed, rfl, rfl⟩
  · exact .inr (step_iff.mp goes)

/-- The tokens that are not handed out yet. -/
def backlog (machine : Machine) : Nat := machine.tentative.size + machine.decided.length

/-- Twice the work that is left, and the tokens that are not handed out yet. -/
def potential (machine : Machine) : Nat := 2 * machine.work + machine.backlog

/-- Judging attempts makes tentative tokens decided or throws them away. -/
theorem backlog_judge_le (atEnd : Bool) (machine : Machine) (attempts : List Attempt) :
    (machine.judge atEnd attempts).backlog ≤ machine.backlog := by
  have judged := judgement atEnd machine attempts
  generalize machine.judge atEnd attempts = after at judged
  cases judged with
  | settle => simp [backlog, Nat.add_comm]
  | giveUp among seen =>
    simp only [backlog, Array.size_shrink]
    omega
  | wait among seen => exact Nat.le_refl _

theorem Step.backlog_le {machine after : Machine} {token : Option Token}
    (step : machine.Step token after) : after.backlog ≤ machine.backlog + 1 := by
  cases step with
  | handOut isDecided =>
    simp only [backlog, isDecided, List.length_cons]
    omega
  | close nothingDecided found attempting =>
    exact Nat.le_succ_of_le (backlog_judge_le true machine machine.attempts)
  | emit nothingDecided found settled => simp [backlog]
  | keep nothingDecided found attempting =>
    refine Nat.le_trans (backlog_judge_le false _ machine.attempts) ?_
    simp [backlog]
    omega
  | choose nothingDecided found =>
    rw [attempt]
    split <;> exact Nat.le_succ _

/-- Every step lowers the potential: it does some of the work and adds at most one token to those not
handed out, or it hands one out. -/
theorem Step.potential_lt {machine after : Machine} {token : Option Token}
    (step : machine.Step token after) : after.potential < machine.potential := by
  have decreases := step?_decreases (step_iff.mpr step)
  have oneMore := step.backlog_le
  have lower : after.work < machine.work → after.potential < machine.potential := by
    intro less
    simp only [potential]
    omega
  cases step with
  | @handOut token decided isDecided =>
    have fewer : backlog { machine with decided } < backlog machine := by
      simp [backlog, isDecided]
    exact Nat.add_lt_add_left fewer (2 * machine.work)
  | close nothingDecided | emit nothingDecided | keep nothingDecided | choose nothingDecided =>
    refine lower (decreases.resolve_right ?_)
    simp [nothingDecided]

theorem potential_lt_of_transition {machine after : Machine} {token : Option Token}
    (goes : machine.transition? = some (token, after)) : after.potential < machine.potential := by
  rcases transition_cases goes with ⟨place, -, passed, -, rfl⟩ | step
  · have less := Place.cost_of_pass passed
    simp only [potential, work, workOf, backlog]
    omega
  · exact step.potential_lt

/-- A transition changes the outcome only by the token that it hands out. -/
theorem transition_outcome {machine after : Machine} {token : Option Token} (sound : machine.Sound)
    (goes : machine.transition? = some (token, after)) :
    machine.outcome = token.toList ++ after.outcome ∧ after.Sound := by
  rcases transition_cases goes with ⟨place, -, passed, rfl, rfl⟩ | step
  · refine ⟨?_, sound⟩
    simp [outcome, Place.layout_of_pass passed]
  · exact step_outcome sound step

/-- A machine without a transition has no step either, and no document to come. -/
theorem transition_eq_none {machine : Machine} (stuck : machine.transition? = none) :
    machine.step? = none ∧ machine.place.upcoming = [] := by
  unfold transition? at stuck
  split at stuck
  · cases stuck
  · rename_i cannotPass
    obtain ⟨nothingDecided, found, -⟩ := step_eq_none_iff.mp stuck
    have stays : machine.place.pass? machine.page.width.toNat = none := by
      cases passed : machine.place.pass? machine.page.width.toNat with
      | none => rfl
      | some place => exact absurd passed (cannotPass place nothingDecided)
    exact ⟨stuck, Place.upcoming_of_done stays found⟩

/-- From every machine there is an end, after no more transitions than its potential. -/
theorem ends_within_potential (machine : Machine) (sound : machine.Sound) :
    ∃ count last, count ≤ machine.potential ∧
      after? transition? count machine = some (machine.outcome, last) ∧
      last.transition? = none ∧ last.Sound := by
  induction bound : machine.potential using Nat.strongRecOn generalizing machine with
  | ind potential ih =>
    cases goes : machine.transition? with
    | none =>
      have nothing : machine.outcome = [] := stuck_outcome sound (transition_eq_none goes).1
      exact ⟨0, machine, Nat.zero_le _, by rw [nothing, after?], goes, sound⟩
    | some result =>
      obtain ⟨token, next⟩ := result
      obtain ⟨same, soundNext⟩ := transition_outcome sound goes
      have less : next.potential < potential := bound ▸ potential_lt_of_transition goes
      obtain ⟨count, last, within, went, stuck, soundLast⟩ :=
        ih next.potential less next soundNext rfl
      refine ⟨count + 1, last, Nat.lt_of_le_of_lt within less, ?_, stuck, soundLast⟩
      simp [after?, goes, went, same]

end Machine

/-- Every layout ends. Documents have a finite depth through their functions (`Doc.partOf_acc`), and so
on every page the transitions from the start come to an end: after at most twice as many of them as
there is work in the document, the machine has handed out its layout, and nothing is left to come,
attempted or decided. -/
theorem layout_ends (page : Page) (doc : Doc) :
    ∃ count last, count ≤ 2 * (Place.start doc).cost page.width.toNat ∧
      Machine.after? Machine.transition? count (Machine.start page doc) =
        some ((doc.render page).tokens, last) ∧
      last.transition? = none ∧ last.place.upcoming = [] ∧ last.attempts = [] ∧
      last.tentative = #[] ∧ last.decided = [] := by
  obtain ⟨count, last, within, went, stuck, sound⟩ :=
    Machine.ends_within_potential (Machine.start page doc) rfl
  obtain ⟨noStep, ended⟩ := Machine.transition_eq_none stuck
  obtain ⟨nothingDecided, -, settled⟩ := Machine.step_eq_none_iff.mp noStep
  have handedOut : (Machine.start page doc).outcome = (doc.render page).tokens := by
    simpa [Doc.render, Machine.run] using
      (Machine.run_after_outcome (Machine.start page doc) #[] rfl).symm
  exact ⟨count, last, within, handedOut ▸ went, stuck, ended, settled,
    Machine.tentative_of_no_attempts sound settled, nothingDecided⟩

end Typeset
