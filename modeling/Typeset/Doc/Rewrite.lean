import Typeset.Doc.Basic

/-! Rewriting a whole document by a rule that treats one node at a time. `Rule.apply` says what the
result is, by recursion on the document. `Doc.rewrite?` computes it with a stack of work and a stack
of finished documents, so that its depth does not depend on the document, and it hands back every
part that the rule leaves alone as the part it was.

The main statement is that the two agree: the stacks never run short or over, and the result is the
one of the recursion. -/
namespace Typeset

/-- What becomes of one node of a document. -/
inductive Treatment (doc : Doc) where
  /-- The node stays, and its children are rewritten. -/
  | recurse
  /-- Another document stands for the node, as it is. -/
  | replace (new : Doc)
  /-- A document inside the node stands for it, rewritten. -/
  | descend (inner : Doc) (inside : inner.Inside doc)
  /-- The node stays, and what its function gives is rewritten when it is called. -/
  | delay

abbrev Rule := (doc : Doc) → Treatment doc

/-- A document rewritten by a rule, by recursion on the document. -/
def Rule.apply (rule : Rule) (doc : Doc) : Doc :=
  match rule doc with
  | .recurse => doc.mapChildren fun child _ => rule.apply child
  | .replace new => new
  | .descend inner _ => rule.apply inner
  | .delay => doc.mapResults fun result _ => rule.apply result
termination_by doc
decreasing_by
  · exact .single (.child ‹_›)
  · exact Doc.Inside.partOf ‹_›
  · exact .single (.result ‹_›)

namespace Rewrite

/-- Work on a document that stands within `root`. -/
inductive Task (root : Doc) where
  /-- Rewrite a document. It is `moved` if it is to stand where another one stood. -/
  | enter (doc : Doc) (moved : Bool) (within : doc.Within root)
  /-- Put a node together again from its rewritten children. -/
  | leave (doc : Doc) (moved : Bool)

/-- A rewritten document, and whether it may differ from the document that stood in its place. -/
structure Finished where
  doc : Doc
  changed : Bool

def Task.weight {root : Doc} : Task root → Nat
  | .enter doc _ _ => 2 * doc.size
  | .leave _ _ => 1

def weight {root : Doc} : List (Task root) → Nat
  | [] => 0
  | task :: rest => task.weight + weight rest

/-- The children of a document within the root. -/
def childrenWithin {root : Doc} (doc : Doc) (within : doc.Within root) :
    List { child : Doc // child.Within root } :=
  doc.children.attach.map fun child => ⟨child.1, .child child.2 within⟩

/-- The tasks of visiting the children of a document, the left one on top. -/
def enters {root : Doc} (doc : Doc) (within : doc.Within root) : List (Task root) :=
  (childrenWithin doc within).map fun child => .enter child.1 false child.2

/-- Replace the topmost documents, as many as a node has children, by the node over them. A node
none of whose children changed is used again. -/
def rebuild? (doc : Doc) (moved : Bool) (done : List Finished) : Option (List Finished) :=
  let arity := doc.children.length
  let fresh := (done.take arity).reverse
  if fresh.length < arity then none
  else if fresh.all fun finished => !finished.changed then some (⟨doc, moved⟩ :: done.drop arity)
  else (doc.withChildren? (fresh.map Finished.doc)).map fun new => ⟨new, true⟩ :: done.drop arity

theorem weight_enters {root doc : Doc} (within : doc.Within root) (rest : List (Task root)) :
    weight (enters doc within ++ rest) = 2 * Doc.totalSize doc.children + weight rest := by
  have visits : ∀ docs : List { child : Doc // child.Within root },
      weight (docs.map (fun child => Task.enter child.1 false child.2) ++ rest) =
        2 * Doc.totalSize (docs.map Subtype.val) + weight rest := by
    intro docs
    induction docs with
    | nil => simp [Doc.totalSize]
    | cons first others ih =>
      simp only [List.map_cons, List.cons_append, weight, Task.weight, Doc.totalSize, ih]
      omega
  have same : (childrenWithin doc within).map Subtype.val = doc.children := by
    simp [childrenWithin]
  rw [enters, visits, same]

/-- Work off the tasks. None stands for a stack that ran short or over, which never happens. -/
def run (rule : Rule) (root : Doc) (tasks : List (Task root)) (done : List Finished) :
    Option Doc :=
  match tasks with
  | [] =>
    match done with
    | [finished] => some finished.doc
    | _ => none
  | .leave doc moved :: rest =>
    match rebuild? doc moved done with
    | some done => run rule root rest done
    | none => none
  | .enter doc moved within :: rest =>
    match rule doc with
    | .recurse => run rule root (enters doc within ++ .leave doc moved :: rest) done
    | .replace new => run rule root rest (⟨new, true⟩ :: done)
    | .descend inner inside =>
      run rule root (.enter inner true (.inside inside within) :: rest) done
    | .delay =>
      let new := doc.mapResults fun result _ =>
        (run rule result [.enter result false (.refl result)] []).getD .fail
      run rule root rest (⟨new, true⟩ :: done)
termination_by (root, weight tasks)
decreasing_by
  · exact .right _ (by simp [weight, Task.weight])
  · refine .right _ ?_
    rw [weight_enters]
    have := doc.size_eq
    simp [weight, Task.weight]
    omega
  · refine .right _ ?_
    have := doc.size_pos
    simp [weight, Task.weight]
    omega
  · refine .right _ ?_
    have := inside.size_lt
    simp [weight, Task.weight]
    omega
  · exact .left _ _ (Doc.Within.result ‹_› within)
  · refine .right _ ?_
    have := doc.size_pos
    simp [weight, Task.weight]
    omega

/-- A finished document is right for the place of `doc` if it is what the rule makes of it, and is
`doc` itself unless it is marked as changed. -/
def Finished.IsFor (rule : Rule) (doc : Doc) (finished : Finished) : Prop :=
  finished.doc = rule.apply doc ∧ (finished.changed = false → finished.doc = doc)

/-- Visiting a document puts what the rule makes of it on the stack, and touches nothing else. -/
def Entered (rule : Rule) (root doc : Doc) : Prop :=
  ∀ (moved : Bool) (within : doc.Within root) (rest : List (Task root)) (done : List Finished),
    ∃ finished : Finished, finished.IsFor rule doc ∧ (moved = true → finished.changed = true) ∧
      run rule root (.enter doc moved within :: rest) done =
        run rule root rest (finished :: done)

theorem withChildren?_map (doc : Doc) (f : Doc → Doc) :
    doc.withChildren? (doc.children.map f) = some (doc.mapChildren fun child _ => f child) := by
  cases doc <;> rfl

theorem mapChildren_eq_self (doc : Doc) (f : Doc → Doc)
    (same : ∀ child ∈ doc.children, f child = child) :
    (doc.mapChildren fun child _ => f child) = doc := by
  cases doc <;> simp_all [Doc.mapChildren, Doc.children]

/-- Visiting documents one after the other puts what the rule makes of them on the stack, the last
on top. -/
theorem run_enters (rule : Rule) (root : Doc) (tail : List (Task root))
    (kids : List { kid : Doc // kid.Within root }) (done : List Finished)
    (each : ∀ kid ∈ kids, Entered rule root kid.1) :
    ∃ fresh : List Finished,
      fresh.map Finished.doc = kids.map (fun kid => rule.apply kid.1) ∧
      (fresh.all (fun finished => !finished.changed) = true →
        ∀ kid ∈ kids, rule.apply kid.1 = kid.1) ∧
      run rule root ((kids.map fun kid => .enter kid.1 false kid.2) ++ tail) done =
        run rule root tail (fresh.reverse ++ done) := by
  induction kids generalizing done with
  | nil => exact ⟨[], rfl, by simp, rfl⟩
  | cons kid kids ih =>
    obtain ⟨finished, ⟨result, unchanged⟩, _, step⟩ := each kid (by simp) false kid.2
      ((kids.map fun kid => .enter kid.1 false kid.2) ++ tail) done
    obtain ⟨fresh, results, unchangedAll, steps⟩ := ih (finished :: done)
      fun other mem => each other (by simp [mem])
    refine ⟨finished :: fresh, ?_, ?_, ?_⟩
    · simp [result, results]
    · intro all other mem
      simp only [List.all_cons, Bool.and_eq_true, Bool.not_eq_eq_eq_not, Bool.not_true] at all
      rcases List.mem_cons.1 mem with same | mem
      · subst same
        rw [← result, unchanged all.1]
      · exact unchangedAll all.2 other mem
    · simp only [List.map_cons, List.cons_append, step, steps]
      simp

theorem rebuild?_eq (rule : Rule) (doc : Doc) (moved : Bool) (fresh done : List Finished)
    (results : fresh.map Finished.doc = doc.children.map rule.apply)
    (unchanged : fresh.all (fun finished => !finished.changed) = true →
      ∀ child ∈ doc.children, rule.apply child = child) :
    ∃ changed : Bool, (moved = true → changed = true) ∧
      (changed = false → (doc.mapChildren fun child _ => rule.apply child) = doc) ∧
      rebuild? doc moved (fresh.reverse ++ done) =
        some (⟨doc.mapChildren fun child _ => rule.apply child, changed⟩ :: done) := by
  have length : fresh.reverse.length = doc.children.length := by
    have := congrArg List.length results
    simpa using this
  have taken : (fresh.reverse ++ done).take doc.children.length = fresh.reverse := by
    rw [← length]; simp
  have dropped : (fresh.reverse ++ done).drop doc.children.length = done := by
    rw [← length]; simp
  unfold rebuild?
  simp only [taken, dropped, List.reverse_reverse]
  have enough : ¬ fresh.length < doc.children.length := by
    rw [← length]; simp
  rw [if_neg enough]
  by_cases all : fresh.all (fun finished => !finished.changed) = true
  · have self := mapChildren_eq_self doc rule.apply (unchanged all)
    exact ⟨moved, id, fun _ => self, by rw [if_pos all, self]⟩
  · refine ⟨true, fun _ => rfl, by simp, ?_⟩
    rw [if_neg all, results, withChildren?_map]
    rfl

/-- Every document is visited correctly, whatever document the work started from. -/
theorem entered (rule : Rule) (root doc : Doc) : Entered rule root doc := by
  induction doc using Doc.partOrder.wf.induction generalizing root with
  | _ doc ih =>
    intro moved within rest done
    cases treatment : rule doc with
    | recurse =>
      obtain ⟨fresh, results, unchanged, steps⟩ := run_enters rule root
        (.leave doc moved :: rest)
        (childrenWithin doc within) done (by
          intro kid mem
          obtain ⟨child, _, same⟩ := List.mem_map.1 mem
          subst same
          exact ih child.1 (.single (.child child.2)) root)
      obtain ⟨changed, kept, self, step⟩ := rebuild?_eq rule doc moved fresh done
        (by simpa [childrenWithin, Function.comp_def] using results)
        (fun all child mem => by
          simpa using unchanged all ⟨child, .child mem within⟩ (by simp [childrenWithin, mem]))
      refine ⟨⟨doc.mapChildren fun child _ => rule.apply child, changed⟩,
        ⟨?_, self⟩, kept, ?_⟩
      · rw [Rule.apply, treatment]
      · rw [run, treatment]
        simp only
        rw [enters, steps, run, step]
    | replace new =>
      refine ⟨⟨new, true⟩, ⟨?_, by simp⟩, by simp, ?_⟩
      · rw [Rule.apply, treatment]
      · rw [run, treatment]
    | descend inner inside =>
      obtain ⟨finished, ⟨result, _⟩, moved, step⟩ :=
        ih inner inside.partOf root true (.inside inside within) rest done
      refine ⟨finished, ⟨?_, ?_⟩, fun _ => moved rfl, ?_⟩
      · rw [Rule.apply, treatment, result]
      · intro unchanged
        simp [moved rfl] at unchanged
      · rw [run, treatment]
        exact step
    | delay =>
      have results : (doc.mapResults fun result _ =>
          (run rule result [.enter result false (.refl result)] []).getD .fail) =
          doc.mapResults fun result _ => rule.apply result := by
        congr
        funext result isResult
        obtain ⟨finished, ⟨same, _⟩, _, step⟩ :=
          ih result (.single (.result isResult)) result false (.refl result) [] []
        rw [step, run, same]
        rfl
      refine ⟨⟨doc.mapResults fun result _ => rule.apply result, true⟩, ⟨?_, by simp⟩, by simp, ?_⟩
      · rw [Rule.apply, treatment]
      · rw [run, treatment]
        simp only
        rw [results]

end Rewrite

namespace Doc

/-- A document rewritten by a rule, with a stack of work. -/
def rewrite? (rule : Rule) (doc : Doc) : Option Doc :=
  Rewrite.run rule doc [.enter doc false (.refl doc)] []

/-- A document rewritten by a rule. -/
def rewrite (rule : Rule) (doc : Doc) : Doc := (doc.rewrite? rule).getD .fail

/-- The stacks never run short or over, and give the result of the recursion. -/
theorem rewrite?_eq (rule : Rule) (doc : Doc) : doc.rewrite? rule = some (rule.apply doc) := by
  obtain ⟨finished, ⟨same, _⟩, _, step⟩ :=
    Rewrite.entered rule doc doc false (.refl doc) [] []
  rw [rewrite?, step, Rewrite.run, same]

theorem rewrite_eq (rule : Rule) (doc : Doc) : doc.rewrite rule = rule.apply doc := by
  rw [rewrite, rewrite?_eq, Option.getD_some]

end Doc
end Typeset
