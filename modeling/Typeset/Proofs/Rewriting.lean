import Typeset.Doc.Flatten
import Typeset.Doc.Plain

/-! The steps of a rewriting. A rewriting works off a stack of tasks and puts what is finished on another
stack, from which a node takes its children when it is put together again. The tasks alone say how many
finished documents each rebuild will find, and that in the end one is left; every step keeps to that. So a
rewriting never stops short, and what is left when it comes to its end is what the recursion gives. -/
namespace Typeset

theorem Doc.exists_withChildren? (doc : Doc) {docs : List Doc}
    (arity : docs.length = doc.children.length) : ∃ new, doc.withChildren? docs = some new := by
  cases doc with
  | flatAlt first second | cat first second | union first second =>
    match docs, arity with
    | [_, _], _ => exact ⟨_, rfl⟩
  | nest amount body | styled change body =>
    obtain ⟨one, rfl⟩ := List.length_eq_one_iff.mp arity
    exact ⟨_, rfl⟩
  | fail | empty | literal piece | newline | column body | columns body | nesting body
  | restore style =>
    rw [List.length_eq_zero_iff.mp arity]
    exact ⟨_, rfl⟩

namespace Rewrite

/-- A rewriting under way, of a document or of a part of it. -/
structure State (root : Doc) where
  tasks : List (Task root)
  done : List Finished

/-- The state in which the rewriting of a document starts. -/
def State.start (doc : Doc) : State doc := ⟨[.enter doc false (.refl doc)], []⟩

section
variable {rule : Rule} {root doc : Doc} {moved : Bool} {within : doc.Within root}
  {rest : List (Task root)} {done : List Finished}

/-- The steps of a rewriting. -/
inductive Step (rule : Rule) {root : Doc} : State root → State root → Prop where
  /-- Come to a node that stays, and go on with its children, the left one first. -/
  | recurse {doc : Doc} {moved : Bool} {within : doc.Within root} {rest : List (Task root)}
    {done : List Finished} (treated : rule doc = .recurse) :
    Step rule ⟨.enter doc moved within :: rest, done⟩
      ⟨enters doc within ++ .leave doc moved :: rest, done⟩
  | replace {doc new : Doc} {moved : Bool} {within : doc.Within root} {rest : List (Task root)}
    {done : List Finished} (treated : rule doc = .replace new) :
    Step rule ⟨.enter doc moved within :: rest, done⟩ ⟨rest, ⟨new, true⟩ :: done⟩
  | descend {doc inner : Doc} {moved : Bool} {within : doc.Within root} {rest : List (Task root)}
    {done : List Finished} {inside : inner.Inside doc} (treated : rule doc = .descend inner inside) :
    Step rule ⟨.enter doc moved within :: rest, done⟩
      ⟨.enter inner true (.inside inside within) :: rest, done⟩
  | delay {doc : Doc} {moved : Bool} {within : doc.Within root} {rest : List (Task root)}
    {done : List Finished} (treated : rule doc = .delay) :
    Step rule ⟨.enter doc moved within :: rest, done⟩
      ⟨rest, ⟨doc.mapResults fun result _ => result.rewrite rule, true⟩ :: done⟩
  /-- Put a node together again, its children being finished. -/
  | rebuild {doc : Doc} {moved : Bool} {rest : List (Task root)} {done rebuilt : List Finished}
    (found : rebuild? doc moved done = some rebuilt) :
    Step rule ⟨.leave doc moved :: rest, done⟩ ⟨rest, rebuilt⟩

/-- The steps are those of the run. -/
theorem Step.run_eq {state next : State root} (step : Step rule state next) :
    run rule root state.tasks state.done = run rule root next.tasks next.done := by
  cases step with
  | recurse treated => rw [run, treated]
  | replace treated => rw [run, treated]
  | descend treated => rw [run, treated]
  | delay treated => rw [run, treated]; rfl
  | rebuild found => rw [run, found]

/-- Every step leaves less to do. -/
theorem Step.weight_lt {state next : State root} (step : Step rule state next) :
    weight next.tasks < weight state.tasks := by
  cases step with
  | @recurse doc moved within rest done treated =>
    have whole := doc.size_eq
    simp only [weight_enters, weight, Task.weight]
    omega
  | @replace doc new moved within rest done treated =>
    have positive := doc.size_pos
    simp only [weight, Task.weight]
    omega
  | @descend doc inner moved within rest done inside treated =>
    have less := inside.size_lt
    simp only [weight, Task.weight]
    omega
  | @delay doc moved within rest done treated =>
    have positive := doc.size_pos
    simp only [weight, Task.weight]
    omega
  | rebuild found =>
    simp only [weight, Task.weight]
    omega

/-- With so many finished documents, every rebuild among the tasks will find the children of its node,
and one document will be left when the tasks are done. -/
def Balanced : List (Task root) → Nat → Prop
  | [], count => count = 1
  | .enter _ _ _ :: rest, count => Balanced rest (count + 1)
  | .leave doc _ :: rest, count =>
    doc.children.length ≤ count ∧ Balanced rest (count - doc.children.length + 1)

/-- Visiting the children of a node finishes one document for each. -/
theorem balanced_enters (within : doc.Within root) (rest : List (Task root)) (count : Nat) :
    Balanced (enters doc within ++ rest) count ↔ Balanced rest (count + doc.children.length) := by
  have visits : ∀ (kids : List { child : Doc // child.Within root }) (count : Nat),
      Balanced (kids.map (fun kid => .enter kid.1 false kid.2) ++ rest) count ↔
        Balanced rest (count + kids.length) := by
    intro kids
    induction kids with
    | nil => exact fun _ => Iff.rfl
    | cons kid kids ih =>
      intro count
      rw [List.length_cons, Nat.add_comm kids.length, ← Nat.add_assoc]
      exact ih (count + 1)
  rw [enters, visits]
  simp [childrenWithin]

/-- A node whose children are finished is put together in their place. -/
theorem exists_rebuild? (doc : Doc) (moved : Bool) {done : List Finished}
    (enough : doc.children.length ≤ done.length) :
    ∃ new, rebuild? doc moved done = some (new :: done.drop doc.children.length) := by
  have taken : (done.take doc.children.length).reverse.length = doc.children.length := by
    simp [enough]
  rw [rebuild?, if_neg (by omega)]
  split
  · exact ⟨_, rfl⟩
  · have enoughDocs : ((done.take doc.children.length).reverse.map Finished.doc).length =
        doc.children.length := by simpa using taken
    obtain ⟨new, isNew⟩ := doc.exists_withChildren? enoughDocs
    rw [isNew]
    exact ⟨_, rfl⟩

/-- What the tasks need of the finished documents they still need after a step. -/
theorem Step.balanced {state next : State root} (step : Step rule state next)
    (balanced : Balanced state.tasks state.done.length) :
    Balanced next.tasks next.done.length := by
  cases step with
  | recurse treated =>
    rw [balanced_enters, Balanced, Nat.add_sub_cancel]
    exact ⟨Nat.le_add_left _ _, balanced⟩
  | replace treated | descend treated | delay treated => exact balanced
  | @rebuild doc moved rest done rebuilt found =>
    obtain ⟨enough, after⟩ := balanced
    obtain ⟨new, isNew⟩ := exists_rebuild? doc moved enough
    rw [found, Option.some.injEq] at isNew
    subst isNew
    simpa using after

/-- Only a rewriting without tasks has no step. -/
theorem exists_step (rule : Rule) {state : State root}
    (balanced : Balanced state.tasks state.done.length) (unfinished : state.tasks ≠ []) :
    ∃ next, Step rule state next := by
  obtain ⟨tasks, done⟩ := state
  match tasks with
  | [] => exact absurd rfl unfinished
  | .leave doc moved :: rest =>
    obtain ⟨new, found⟩ := exists_rebuild? doc moved balanced.1
    exact ⟨_, .rebuild found⟩
  | .enter doc moved within :: rest =>
    cases treated : rule doc with
    | recurse => exact ⟨_, .recurse treated⟩
    | replace new => exact ⟨_, .replace treated⟩
    | descend inner inside => exact ⟨_, .descend treated⟩
    | delay => exact ⟨_, .delay treated⟩

end

/-- The rewriting of a document comes to a state after so many steps. -/
inductive Reaches (rule : Rule) (doc : Doc) : Nat → State doc → Prop where
  | start : Reaches rule doc 0 (.start doc)
  | step {count : Nat} {state next : State doc} (reached : Reaches rule doc count state)
    (step : Step rule state next) : Reaches rule doc (count + 1) next

/-- In the middle of a rewriting nothing is missing, and nothing is left over at its end. -/
structure OnTrack (rule : Rule) (doc : Doc) (count : Nat) (state : State doc) : Prop where
  /-- A node costs two steps at most. -/
  short : count ≤ 2 * doc.size
  /-- When a node is put together, its children are finished. -/
  enough : ∀ node moved rest, state.tasks = .leave node moved :: rest →
    node.children.length ≤ state.done.length
  goesOn : state.tasks ≠ [] → ∃ next, Step rule state next
  /-- At the end the document is finished, and nothing else is. -/
  ends : state.tasks = [] → ∃ changed, state.done = [⟨doc.rewrite rule, changed⟩]

variable {rule : Rule} {doc : Doc} {count : Nat} {state : State doc}

/-- What a rewriting has done and has yet to do is at most two steps for each node, its tasks find what
they need, and it is going to give what it gives from the start. -/
theorem Reaches.invariant (reached : Reaches rule doc count state) :
    count + weight state.tasks ≤ 2 * doc.size ∧ Balanced state.tasks state.done.length ∧
      run rule doc state.tasks state.done = doc.rewrite? rule := by
  induction reached with
  | start => exact ⟨by simp [State.start, weight, Task.weight], rfl, rfl⟩
  | step reached step ih =>
    obtain ⟨short, balanced, result⟩ := ih
    have less := step.weight_lt
    exact ⟨by omega, step.balanced balanced, step.run_eq.symm.trans result⟩

theorem Reaches.onTrack (reached : Reaches rule doc count state) : OnTrack rule doc count state := by
  obtain ⟨short, balanced, result⟩ := reached.invariant
  constructor
  case short => omega
  case enough =>
    intro node moved rest isTask
    rw [isTask] at balanced
    exact balanced.1
  case goesOn => exact exists_step rule balanced
  case ends =>
    intro finished
    rw [finished] at balanced result
    obtain ⟨last, isLast⟩ := List.length_eq_one_iff.mp balanced
    rw [isLast, Doc.rewrite?_eq, run, Option.some.injEq, ← Doc.rewrite_eq] at result
    exact ⟨last.changed, by rw [isLast, ← result]⟩

end Rewrite

/-- Rewriting with stacks is recursion on the document. From the start to the end, after two steps for
each node at most, no rebuild finds too few documents or the wrong number of them, and at the end there is
one. It is what the recursion says: a node that stays stands over its children as they are rewritten, one
that is replaced has another document in its stead, and one that is left for a document inside it has that
document rewritten in its stead. So flattening and unstyling meet their equations for every kind of
document. -/
theorem rewriting_is_structural_recursion (rule : Rule) (doc : Doc) :
    (∀ count state, Rewrite.Reaches rule doc count state → Rewrite.OnTrack rule doc count state) ∧
    doc.rewrite? rule = some (doc.rewrite rule) ∧
    doc.rewrite rule =
      (match rule doc with
      | .recurse => doc.mapChildren fun child _ => child.rewrite rule
      | .replace new => new
      | .descend inner _ => inner.rewrite rule
      | .delay => doc.mapResults fun result _ => result.rewrite rule) ∧
    doc.flatten =
      (match doc with
      | .fail | .newline => .fail
      | .empty => .empty
      | .literal piece => .literal piece
      | .flatAlt _ flat => flat
      | .union flat _ => flat.flatten
      | .cat left right => .cat left.flatten right.flatten
      | .nest amount body => .nest amount body.flatten
      | .styled change body => .styled change body.flatten
      | .restore style => .restore style
      | .column body => .column fun start => (body start).flatten
      | .columns body => .columns fun width => (body width).flatten
      | .nesting body => .nesting fun level => (body level).flatten) ∧
    doc.plain =
      (match doc with
      | .fail => .fail
      | .newline => .newline
      | .empty => .empty
      | .literal piece => .literal piece
      | .flatAlt broken flat => .flatAlt broken.plain flat.plain
      | .union flat broken => .union flat.plain broken.plain
      | .cat left right => .cat left.plain right.plain
      | .nest amount body => .nest amount body.plain
      | .styled _ body => body.plain
      | .restore _ => .empty
      | .column body => .column fun start => (body start).plain
      | .columns body => .columns fun width => (body width).plain
      | .nesting body => .nesting fun level => (body level).plain) := by
  refine ⟨fun _ _ reached => reached.onTrack, ?_, ?_, ?_, ?_⟩
  · rw [Doc.rewrite?_eq, Doc.rewrite_eq]
  · simp only [Doc.rewrite_eq]
    cases treated : rule doc <;> rw [Rule.apply, treated]
  · cases doc <;> simp only [Doc.flatten_fail, Doc.flatten_newline, Doc.flatten_empty,
      Doc.flatten_literal, Doc.flatten_flatAlt, Doc.flatten_union, Doc.flatten_cat, Doc.flatten_nest,
      Doc.flatten_styled, Doc.flatten_restore, Doc.flatten_column, Doc.flatten_columns,
      Doc.flatten_nesting]
  · cases doc <;> simp only [Doc.plain_fail, Doc.plain_newline, Doc.plain_empty, Doc.plain_literal,
      Doc.plain_flatAlt, Doc.plain_union, Doc.plain_cat, Doc.plain_nest, Doc.plain_styled,
      Doc.plain_restore, Doc.plain_column, Doc.plain_columns, Doc.plain_nesting]

/-- A choice beside an indented alternative. -/
def remedy : Doc :=
  .cat (.union .newline .empty) (.nest 2 (.flatAlt .newline (.literal (.ofString "or"))))

/-- The rewriting of the remedy goes into the choice, puts the indented alternative together again, and
then the whole. -/
theorem remedy_is_rewritten :
    ∃ state, Rewrite.Reaches Doc.flattening remedy 7 state ∧ state.tasks = [] ∧
      Rewrite.OnTrack Doc.flattening remedy 7 state ∧
      remedy.rewrite? Doc.flattening = some (.cat .fail (.nest 2 (.literal (.ofString "or")))) := by
  obtain ⟨onTrack, finished, -⟩ := rewriting_is_structural_recursion Doc.flattening remedy
  have reached : Rewrite.Reaches Doc.flattening remedy 7 ⟨[], _⟩ :=
    .step (.step (.step (.step (.step (.step (.step .start (.recurse rfl)) (.descend rfl))
      (.replace rfl)) (.recurse rfl)) (.replace rfl)) (.rebuild rfl)) (.rebuild rfl)
  refine ⟨_, reached, rfl, onTrack _ _ reached, ?_⟩
  have onOneLine : remedy.flatten = .cat .fail (.nest 2 (.literal (.ofString "or"))) := by
    simp [remedy]
  exact finished.trans (congrArg some onOneLine)

end Typeset
