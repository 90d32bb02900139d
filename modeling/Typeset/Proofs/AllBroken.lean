import Typeset.Proofs.Compaction
import Typeset.Proofs.Feasibility

/-! The compact rendering is the layout of the document in which everything is broken beforehand. No
choice is left in that document and nothing is indented, so that no page matters; what is left to compare
is how the two go through it, the one with a column of its own and the other from point to point. -/
namespace Typeset

/-- The document with every choice broken, without indentation and styles, for no page. -/
def Doc.allBroken : Doc → Doc
  | .flatAlt broken _ => broken.allBroken
  | .union _ broken => broken.allBroken
  | .cat left right => .cat left.allBroken right.allBroken
  | .nest _ body => body.allBroken
  | .styled _ body => body.allBroken
  | .column body => .column fun start => (body start).allBroken
  | .columns body => (body none).allBroken
  | .nesting body => .nesting fun level => (body level).allBroken
  | .restore _ => .empty
  | .fail => .fail
  | .empty => .empty
  | .literal piece => .literal piece
  | .newline => .newline

/-- A compact rendering goes on as the layout of the broken document does, if what comes after the two
agrees at every column. The outcome is what becomes of a compact rendering in the end; after a failure
that is what is there. -/
theorem Doc.layoutThen_allBroken (page : Page) (doc : Doc) {rest : Cursor → List Token}
    {outcome : Compaction → List Token}
    (ended : ∀ state, state.failed = true → outcome state = state.tokens.toList)
    (after : ∀ (stop : Cursor) (state : Compaction), state.failed = false →
      state.column = stop.column → state.tokens.toList ++ rest stop = outcome state)
    (cursor : Cursor) (state : Compaction) (running : state.failed = false)
    (sameColumn : state.column = cursor.column) :
    state.tokens.toList ++ doc.allBroken.layoutThen page 0 rest cursor = outcome (state.add doc) := by
  induction doc generalizing rest outcome cursor state with
  | fail =>
    rw [Compaction.add, running, ended _ (by rfl)]
    simp [allBroken, layoutThen]
  | empty =>
    rw [Compaction.add_empty]
    exact after cursor state running sameColumn
  | restore style =>
    rw [Compaction.add_restore]
    exact after cursor state running sameColumn
  | literal piece =>
    have goesOn := after (cursor.read (.text piece))
      { state with tokens := state.tokens.push (.text piece), column := state.column + piece.width }
      running (congrArg (· + piece.width) sameColumn)
    simpa [Compaction.add, running, allBroken, layoutThen, Token.andThen] using goesOn
  | newline =>
    have goesOn := after (cursor.read (.line 0))
      { state with tokens := state.tokens.push (.line 0), column := 0 } running rfl
    simpa [Compaction.add, running, allBroken, layoutThen, Token.andThen] using goesOn
  | flatAlt broken flat ihBroken ihFlat =>
    rw [Compaction.add_flatAlt]
    exact ihBroken ended after cursor state running sameColumn
  | union flat broken ihFlat ihBroken =>
    rw [Compaction.add_union]
    exact ihBroken ended after cursor state running sameColumn
  | cat left right ihLeft ihRight =>
    rw [Compaction.add_cat]
    -- What comes after the left document is the right one, which adds nothing to a failure.
    have endedLeft : ∀ state : Compaction, state.failed = true →
        outcome (state.add right) = state.tokens.toList := by
      intro state failed
      rw [Compaction.add_of_failed failed]
      exact ended state failed
    have afterLeft := fun stop state => ihRight ended after stop state
    exact ihLeft endedLeft afterLeft cursor state running sameColumn
  | nest amount body ih =>
    rw [Compaction.add_nest]
    exact ih ended after cursor state running sameColumn
  | styled change body ih =>
    rw [Compaction.add_styled]
    exact ih ended after cursor state running sameColumn
  | column body ih =>
    rw [Compaction.add_column, sameColumn]
    exact ih cursor.column ended after cursor state running sameColumn
  | columns body ih =>
    rw [Compaction.add_columns]
    exact ih none ended after cursor state running sameColumn
  | nesting body ih =>
    rw [Compaction.add_nesting]
    exact ih 0 ended after cursor state running sameColumn

/-- On every page the broken document is laid out to the compact rendering. -/
theorem Doc.tokens_render_allBroken (page : Page) (doc : Doc) :
    (doc.allBroken.render page).tokens = doc.compact.tokens := by
  have nothing : ∀ (stop : Cursor) (state : Compaction), state.failed = false →
      state.column = stop.column → state.tokens.toList ++ [] = state.tokens.toList :=
    fun _ _ _ _ => List.append_nil _
  rw [tokens_render]
  exact doc.layoutThen_allBroken page (fun _ _ => rfl) nothing {} {} rfl rfl

/-- A compact rendering holds texts, newlines to the left margin and failures only. -/
theorem Doc.mem_compact (doc : Doc) : ∀ token ∈ doc.compact.tokens,
    token = .fail ∨ token = .line 0 ∨ ∃ piece, token = .text piece := by
  refine Compaction.add_invariant (P := fun state => ∀ token ∈ state.tokens.toList,
    token = .fail ∨ token = .line 0 ∨ ∃ piece, token = .text piece) {} ?_ ?_ ?_ doc (by simp)
  · intro state _ kept token member
    rw [Array.toList_push, List.mem_append, List.mem_singleton] at member
    exact member.elim (kept token) .inl
  · intro state piece _ kept token member
    rw [Array.toList_push, List.mem_append, List.mem_singleton] at member
    exact member.elim (kept token) fun same => .inr (.inr ⟨piece, same⟩)
  · intro state _ kept token member
    rw [Array.toList_push, List.mem_append, List.mem_singleton] at member
    exact member.elim (kept token) fun same => .inr (.inl same)

/-- The compact rendering is the layout of the broken document: on every page, with either strategy, the
document in which everything is broken is rendered to the same tokens. So all newlines of a compact
rendering go to the left margin, it has no style codes, and nothing comes after a failure. -/
theorem compact_is_layout_of_all_broken (doc : Doc) :
    (∀ page : Page, (doc.allBroken.render page).tokens = doc.compact.tokens) ∧
    (∀ indent, .line indent ∈ doc.compact.tokens → indent = 0) ∧
    (∀ codes, .format codes ∉ doc.compact.tokens) ∧
    ∀ before after, doc.compact.tokens = before ++ .fail :: after → after = [] := by
  refine ⟨fun page => doc.tokens_render_allBroken page, ?_, ?_, ?_⟩
  · intro indent member
    have known := doc.mem_compact (.line indent) member
    simpa using known
  · intro codes member
    have known := doc.mem_compact (.format codes) member
    simp at known
  · intro before after split
    have ends := doc.allBroken.render_failLast ⟨80, 80, .pretty⟩
    rw [doc.tokens_render_allBroken, split] at ends
    exact ends.after_fail

/-- A bold entry, indented, that asks for its column and for the page, and fails before its end. -/
def ledger : Doc :=
  .styled (.turn .bold true) (.nest 4 (.cat
    (.union .fail (.column fun start => .cat (.literal (.ofString "due")) (.nest start .newline)))
    (.cat (.columns fun width => if width.isSome then .empty else .flatAlt .newline .empty)
      (.cat (.restore .plain) (.cat .fail (.literal (.ofString "paid")))))))

theorem ledger_is_all_broken :
    (ledger.allBroken.render ⟨20, 10, .smart⟩).tokens =
      [.text (.ofString "due"), .line 0, .line 0, .fail] ∧
    .line 4 ∉ ledger.compact.tokens ∧ .format [.effect .bold] ∉ ledger.compact.tokens := by
  have tokens : ledger.compact.tokens =
      [.text (.ofString "due"), .line 0, .line 0, .fail] := by decide
  obtain ⟨onPage, margin, unstyled, -⟩ := compact_is_layout_of_all_broken ledger
  refine ⟨(onPage _).trans tokens, ?_, unstyled _⟩
  intro member
  exact absurd (margin 4 member) (by decide)

end Typeset
