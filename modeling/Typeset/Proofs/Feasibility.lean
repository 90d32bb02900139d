import Typeset.Proofs.Backtracking

/-! A failure ends a layout. Nothing comes after one, so that the last token alone tells whether a
layout holds a failure. -/
namespace Typeset

/-- No token comes after a failure. -/
def FailLast : List Token → Prop
  | [] => True
  | .fail :: rest => rest = []
  | _ :: rest => FailLast rest

/-- Where nothing comes after a failure, there is one exactly if it is the last token. -/
theorem fail_mem_iff_last {tokens : List Token} (ends : FailLast tokens) :
    .fail ∈ tokens ↔ tokens.getLast? = some .fail := by
  induction tokens with
  | nil => simp
  | cons token rest ih =>
    cases token with
    | fail =>
      have nothing : rest = [] := ends
      simp [nothing]
    | text piece | line indent | format codes =>
      rw [List.mem_cons, ih ends, List.getLast?_cons]
      cases rest.getLast? <;> simp

/-- Where no token comes after a failure, none comes after any of them. -/
theorem FailLast.after_fail {before after : List Token} (ends : FailLast (before ++ .fail :: after)) :
    after = [] := by
  induction before with
  | nil => exact ends
  | cons token rest ih =>
    cases token with
    | fail => exact absurd ends (by simp [FailLast])
    | text piece | line indent | format codes => exact ih ends

/-- A document ends with its first failure if what comes after it does. -/
theorem Doc.layoutThen_failLast (page : Page) (doc : Doc) (level : Int64)
    {rest : Cursor → List Token} (after : ∀ cursor, FailLast (rest cursor)) (cursor : Cursor) :
    FailLast (doc.layoutThen page level rest cursor) := by
  induction doc generalizing level rest cursor with
  | fail => exact rfl
  | empty => exact after cursor
  | literal piece => exact after _
  | newline => exact after _
  | flatAlt broken flat ihBroken ihFlat => exact ihBroken level after cursor
  | cat left right ihLeft ihRight => exact ihLeft level (ihRight level after) cursor
  | nest amount body ih => exact ih (level + .ofInt amount) after cursor
  | union flat broken ihFlat ihBroken =>
    rw [layoutThen]
    split
    · exact ihFlat level after cursor
    · exact ihBroken level after cursor
  | column body ih => exact ih _ level after cursor
  | columns body ih => exact ih _ level after cursor
  | nesting body ih => exact ih _ level after cursor
  | styled change body ih =>
    rw [layoutThen, Token.andThen]
    refine ih level (fun stop => ?_) _
    exact after _
  | restore style => exact after _

theorem Doc.render_failLast (page : Page) (doc : Doc) : FailLast (doc.render page).tokens := by
  rw [tokens_render]
  apply layoutThen_failLast
  intro _
  trivial

/-- A document is feasible on a page exactly if its layout holds no failure. -/
theorem Doc.isFeasible_render_iff (page : Page) (doc : Doc) :
    (doc.render page).isFeasible = true ↔ .fail ∉ (doc.render page).tokens := by
  simp [Rendered.isFeasible, fail_mem_iff_last (doc.render_failLast page)]

end Typeset
