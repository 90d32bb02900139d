import Typeset.Compact

/-! The compact rendering by equations, one for every kind of document, and the invariants that it
keeps: only three things ever happen to it, whatever the document is. -/
namespace Typeset.Compaction

theorem add_of_failed {state : Compaction} (failed : state.failed = true) (doc : Doc) :
    state.add doc = state := by
  cases doc <;> simp [add, failed]

variable (state : Compaction)

@[simp] theorem add_empty : state.add .empty = state := by
  obtain ⟨tokens, column, _ | _⟩ := state <;> rfl

@[simp] theorem add_restore (style : Style) : state.add (.restore style) = state := by
  obtain ⟨tokens, column, _ | _⟩ := state <;> rfl

@[simp] theorem add_flatAlt (broken flat : Doc) :
    state.add (.flatAlt broken flat) = state.add broken := by
  obtain ⟨tokens, column, _ | _⟩ := state
  · rfl
  · simp [add_of_failed]

@[simp] theorem add_cat (left right : Doc) :
    state.add (.cat left right) = (state.add left).add right := by
  obtain ⟨tokens, column, _ | _⟩ := state
  · rfl
  · simp [add_of_failed]

@[simp] theorem add_nest (amount : Int) (body : Doc) :
    state.add (.nest amount body) = state.add body := by
  obtain ⟨tokens, column, _ | _⟩ := state
  · rfl
  · simp [add_of_failed]

@[simp] theorem add_union (flat broken : Doc) :
    state.add (.union flat broken) = state.add broken := by
  obtain ⟨tokens, column, _ | _⟩ := state
  · rfl
  · simp [add_of_failed]

@[simp] theorem add_column (body : Nat → Doc) :
    state.add (.column body) = state.add (body state.column) := by
  obtain ⟨tokens, column, _ | _⟩ := state
  · rfl
  · simp [add_of_failed]

@[simp] theorem add_columns (body : Option Nat → Doc) :
    state.add (.columns body) = state.add (body none) := by
  obtain ⟨tokens, column, _ | _⟩ := state
  · rfl
  · simp [add_of_failed]

@[simp] theorem add_nesting (body : Int → Doc) :
    state.add (.nesting body) = state.add (body 0) := by
  obtain ⟨tokens, column, _ | _⟩ := state
  · rfl
  · simp [add_of_failed]

@[simp] theorem add_styled (change : Change) (body : Doc) :
    state.add (.styled change body) = state.add body := by
  obtain ⟨tokens, column, _ | _⟩ := state
  · rfl
  · simp [add_of_failed]

/-- What is kept by each of the three tokens that may come next is kept by a whole document. -/
theorem add_invariant {P : Compaction → Prop}
    (fail : ∀ state : Compaction, state.failed = false → P state →
      P { state with tokens := state.tokens.push .fail, failed := true })
    (literal : ∀ (state : Compaction) (piece : Literal), state.failed = false → P state →
      P { state with
        tokens := state.tokens.push (.text piece), column := state.column + piece.width })
    (newline : ∀ state : Compaction, state.failed = false → P state →
      P { state with tokens := state.tokens.push (.line 0), column := 0 })
    (doc : Doc) (before : P state) : P (state.add doc) := by
  cases failed : state.failed with
  | true => rwa [add_of_failed failed]
  | false =>
    induction doc generalizing state with
    | fail => simpa [add, failed] using fail state failed before
    | literal piece => simpa [add, failed] using literal state piece failed before
    | newline => simpa [add, failed] using newline state failed before
    | cat left right ihLeft ihRight =>
      rw [add_cat]
      have between := ihLeft state before failed
      cases ended : (state.add left).failed with
      | true => rwa [add_of_failed ended]
      | false => exact ihRight _ between ended
    | empty | restore style => simpa using before
    | flatAlt broken flat ihBroken ihFlat => simpa using ihBroken state before failed
    | union flat broken ihFlat ihBroken => simpa using ihBroken state before failed
    | nest amount body ih => simpa using ih state before failed
    | column body ih => simpa using ih _ state before failed
    | columns body ih => simpa using ih _ state before failed
    | nesting body ih => simpa using ih _ state before failed
    | styled change body ih => simpa using ih state before failed

end Typeset.Compaction
