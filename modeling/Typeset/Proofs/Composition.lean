import Typeset.Proofs.Compaction
import Typeset.Proofs.Fit
import Typeset.Proofs.StyleScopes

/-! Rendering is compositional at newlines. A lookahead cannot tell a newline at the left margin from
the end of the document, whatever choice it looks ahead from; so what stands above such a newline is
laid out as if it stood alone. What stands below starts where every document starts, unless a style is
left in effect above it. -/
namespace Typeset

/-- A newline ends the line, whatever stands below it. -/
@[simp] theorem firstLine_append_line (tokens : List Token) (indent : Nat) (below : List Token) :
    firstLine (tokens ++ .line indent :: below) = firstLine tokens := by
  induction tokens with
  | nil => rfl
  | cons token rest ih =>
    simp only [firstLine, List.cons_append, List.takeWhile_cons] at ih ⊢
    rw [ih]

theorem lineFits_append_line (room : Int) (tokens : List Token) (indent : Nat) (below : List Token) :
    LineFits room (tokens ++ .line indent :: below) ↔ LineFits room tokens := by
  rw [LineFits, LineFits, firstLine_append_line]

/-- A newline at the left margin is never indented more deeply than a base. -/
theorem nextLineFits_append_margin (roomBelow : Nat → Int) {baseIndent : Int} (base : 0 ≤ baseIndent)
    (tokens below : List Token) : NextLineFits roomBelow baseIndent (tokens ++ .line 0 :: below) ↔
      NextLineFits roomBelow baseIndent tokens := by
  induction tokens with
  | nil =>
    have notDeeper : ¬ baseIndent < (0 : Nat) := Int.not_lt.mpr base
    rw [List.nil_append, nextLineFits_line]
    exact iff_of_true (fun deeper => absurd deeper notDeeper) (nextLineFits_nil roomBelow baseIndent)
  | cons token rest ih =>
    cases token with
    | text piece => exact ih
    | format codes => exact ih
    | fail => exact ih
    | line indent =>
      rw [List.cons_append, nextLineFits_line, nextLineFits_line, lineFits_append_line]

/-- Tokens fit at a point of a page of less than 2^63 columns exactly if they do with a newline at the
left margin after them. On a wider page there may be room at a column that counts as less than the
margin, where the smart strategy goes on to that newline. -/
theorem Page.fits_append_margin {page : Page}
    (small : page.strategy = .smart → page.width.toNat < UInt64.size / 2) (cursor : Cursor)
    (tokens below : List Token) :
    page.fits cursor (tokens ++ .line 0 :: below) = page.fits cursor tokens := by
  rw [Bool.eq_iff_iff, fits_iff_lines, fits_iff_lines, lineFits_append_line]
  refine and_congr_right fun line => forall_congr' fun smart => ?_
  have column := signed_column (small smart) line.room_nonneg
  exact nextLineFits_append_margin _ (by omega) tokens below

/-- Tokens from a point, and what comes at the point where they end. Nothing comes after a failure. -/
def continued (after : Cursor → List Token) (tokens : List Token) (cursor : Cursor) : List Token :=
  if .fail ∈ tokens then tokens else tokens ++ after (cursor.readAll tokens)

theorem continued_of_unfailing (after : Cursor → List Token) {tokens : List Token} (cursor : Cursor)
    (unfailing : .fail ∉ tokens) :
    continued after tokens cursor = tokens ++ after (cursor.readAll tokens) := if_neg unfailing

theorem continued_cons (after : Cursor → List Token) {token : Token} (unfailing : token ≠ .fail)
    (tokens : List Token) (cursor : Cursor) :
    continued after (token :: tokens) cursor = token :: continued after tokens (cursor.read token) := by
  have fails : .fail ∈ token :: tokens ↔ .fail ∈ tokens := by simp [unfailing.symm]
  simp only [continued, fails]
  split <;> rfl

section
variable {after : Cursor → List Token}

theorem Token.andThen_continued (token : Token) (unfailing : token ≠ .fail)
    {rest restBelow : Cursor → List Token}
    (same : ∀ stop, restBelow stop = continued after (rest stop) stop) (cursor : Cursor) :
    token.andThen restBelow cursor = continued after (token.andThen rest cursor) cursor := by
  rw [andThen, andThen, same, continued_cons after unfailing]

/-- What comes at the left margin below a document changes nothing in its layout. -/
theorem Doc.layoutThen_continued {page : Page}
    (small : page.strategy = .smart → page.width.toNat < UInt64.size / 2) (doc : Doc) (level : Int64)
    (margin : ∀ stop, ∃ below, after stop = .line 0 :: below)
    {rest restBelow : Cursor → List Token}
    (same : ∀ stop, restBelow stop = continued after (rest stop) stop) (cursor : Cursor) :
    doc.layoutThen page level restBelow cursor =
      continued after (doc.layoutThen page level rest cursor) cursor := by
  induction doc generalizing level rest restBelow cursor with
  | fail => rfl
  | empty => exact same cursor
  | literal piece => exact Token.andThen_continued (.text piece) (by simp) same cursor
  | newline => exact Token.andThen_continued (.line _) (by simp) same cursor
  | flatAlt broken flat ihBroken ihFlat => exact ihBroken level same cursor
  | cat left right ihLeft ihRight =>
    have sameRight := fun stop => ihRight level same stop
    exact ihLeft level sameRight cursor
  | nest amount body ih => exact ih (level + .ofInt amount) same cursor
  | union flat broken ihFlat ihBroken =>
    -- The lookahead from here accepts the flat tokens with and without what comes below them.
    have verdict : ∀ tokens, page.fits cursor (continued after tokens cursor) =
        page.fits cursor tokens := by
      intro tokens
      obtain ⟨below, starts⟩ := margin (cursor.readAll tokens)
      rw [continued]
      split
      · rfl
      · rw [starts, Page.fits_append_margin small]
    simp only [layoutThen, ihFlat level same, ihBroken level same, verdict]
    split <;> rfl
  | column body ih => exact ih _ level same cursor
  | columns body ih => exact ih _ level same cursor
  | nesting body ih => exact ih _ level same cursor
  | styled change body ih =>
    refine Token.andThen_continued (.format _) (by simp) (fun stop => ih level ?_ stop) cursor
    exact Token.andThen_continued (.format _) (by simp) same
  | restore style => exact Token.andThen_continued (.format _) (by simp) same cursor

end

/-- A feasible document that returns to no style on its own ends in the plain style. -/
theorem Doc.plain_at_end (page : Page) (doc : Doc) (unrestored : doc.Unrestored)
    (unfailing : .fail ∉ (doc.render page).tokens) :
    (Cursor.readAll {} (doc.render page).tokens).style = .plain := by
  rw [← doc.token_scopes page] at unfailing ⊢
  exact InScope.style_end {} (doc.inScope_scopes page unrestored) unfailing

/-- A document above another goes on with a newline and the other's layout from there. -/
theorem Doc.tokens_render_atop {page : Page}
    (small : page.strategy = .smart → page.width.toNat < UInt64.size / 2) (upper lower : Doc) :
    ((upper.atop lower).render page).tokens =
      continued ((Token.line 0).andThen (lower.layoutThen page 0 fun _ => []))
        (upper.render page).tokens {} := by
  rw [tokens_render, tokens_render]
  have same : ∀ stop, (Token.line 0).andThen (lower.layoutThen page 0 fun _ => []) stop =
      continued ((Token.line 0).andThen (lower.layoutThen page 0 fun _ => [])) [] stop :=
    fun _ => rfl
  exact upper.layoutThen_continued small 0 (fun _ => ⟨_, rfl⟩) same {}

namespace Compaction

/-- What stands before a compact rendering stays as it is. -/
theorem add_after (before : Array Token) (state : Compaction) (doc : Doc) :
    ({ state with tokens := before ++ state.tokens } : Compaction).add doc =
      { state.add doc with tokens := before ++ (state.add doc).tokens } := by
  induction doc generalizing state with
  | fail | literal piece | newline =>
    obtain ⟨tokens, column, failed⟩ := state
    cases failed <;> simp [add]
  | empty | restore style => simp
  | flatAlt broken flat ihBroken ihFlat => simp [ihBroken]
  | cat left right ihLeft ihRight => simp only [add_cat, ihLeft, ihRight]
  | nest amount body ih => simp [ih]
  | union flat broken ihFlat ihBroken => simp [ihBroken]
  | column body ih => simp [ih]
  | columns body ih => simp [ih]
  | nesting body ih => simp [ih]
  | styled change body ih => simp [ih]

theorem tokens_add_from (before : Array Token) (doc : Doc) :
    (({ tokens := before } : Compaction).add doc).tokens =
      before ++ (({} : Compaction).add doc).tokens := by
  simpa using congrArg tokens (add_after before {} doc)

/-- A compact rendering has come to its end exactly if its last token is a failure. -/
theorem failed_add_iff (doc : Doc) :
    (({} : Compaction).add doc).failed = true ↔
      (({} : Compaction).add doc).tokens.toList.getLast? = some .fail := by
  refine add_invariant (P := fun state =>
    state.failed = true ↔ state.tokens.toList.getLast? = some .fail) {} ?_ ?_ ?_ doc (by simp)
  · intro state running before
    simp
  · intro state piece running before
    simp [running]
  · intro state running before
    simp [running]

end Compaction

private theorem render_atop {page : Page}
    (small : page.strategy = .smart → page.width.toNat < UInt64.size / 2) (upper lower : Doc)
    (unrestored : upper.Unrestored) :
    (upper.atop lower).render page =
      if (upper.render page).isFeasible
      then ⟨(upper.render page).tokens ++ [.line 0] ++ (lower.render page).tokens⟩
      else upper.render page := by
  have tokens := Doc.tokens_render_atop small upper lower
  by_cases fails : .fail ∈ (upper.render page).tokens
  · have infeasible : ¬ (upper.render page).isFeasible = true := by
      rw [upper.isFeasible_render_iff page]
      exact not_not_intro fails
    rw [if_neg infeasible]
    rw [continued, if_pos fails] at tokens
    exact congrArg Rendered.mk tokens
  · have plain := upper.plain_at_end page unrestored fails
    have start : (Cursor.readAll {} (upper.render page).tokens).read (.line 0) = {} := by
      rw [Cursor.read, plain]
    rw [if_pos ((upper.isFeasible_render_iff page).mpr fails), List.append_assoc]
    rw [continued, if_neg fails, Token.andThen, start, ← Doc.tokens_render] at tokens
    exact congrArg Rendered.mk tokens

private theorem compact_atop (upper lower : Doc) :
    (upper.atop lower).compact =
      if upper.compact.isFeasible
      then ⟨upper.compact.tokens ++ [.line 0] ++ lower.compact.tokens⟩
      else upper.compact := by
  have ended := Compaction.failed_add_iff upper
  have added : (upper.atop lower).compact =
      ⟨(((Compaction.add {} upper).add .newline).add lower).tokens.toList⟩ := by
    change Doc.compact (.cat (.cat upper .newline) lower) = _
    rw [Doc.compact, Compaction.add_cat, Compaction.add_cat]
  rw [added]
  cases failed : (Compaction.add {} upper).failed with
  | true =>
    have infeasible : ¬ upper.compact.isFeasible = true := by
      simp [Rendered.isFeasible, Doc.compact, ended.mp failed]
    rw [if_neg infeasible, Compaction.add_of_failed failed, Compaction.add_of_failed failed]
    rfl
  | false =>
    have feasible : upper.compact.isFeasible = true := by
      rw [failed] at ended
      simpa [Rendered.isFeasible, Doc.compact] using ended
    have newline : (Compaction.add {} upper).add .newline =
        { tokens := (Compaction.add {} upper).tokens.push (.line 0) } := by
      simp [Compaction.add, failed]
    rw [if_pos feasible, newline, Compaction.tokens_add_from]
    simp [Doc.compact]

/-- Rendering is compositional at newlines. A document above another is rendered as if it stood alone,
and so is the other, with a newline at the left margin between the two; if the upper one has no layout,
nothing is below it. The compact rendering does the same. With the smart strategy the page has to be of
less than 2^63 columns: a choice at the column 2^63 counts as standing left of the margin. -/
theorem rendering_composes_at_newlines (upper lower : Doc) (unrestored : upper.Unrestored) :
    (∀ page : Page, (page.strategy = .smart → page.width.toNat < UInt64.size / 2) →
      (upper.atop lower).render page =
        if (upper.render page).isFeasible
        then ⟨(upper.render page).tokens ++ [.line 0] ++ (lower.render page).tokens⟩
        else upper.render page) ∧
    (upper.atop lower).compact =
      if upper.compact.isFeasible
      then ⟨upper.compact.tokens ++ [.line 0] ++ lower.compact.tokens⟩
      else upper.compact :=
  ⟨fun _ small => render_atop small upper lower unrestored, compact_atop upper lower⟩

/-- A bold word with a choice after it that has nothing to fall back on. -/
def signpost : Doc :=
  .cat (.styled (.turn .bold true) (.literal (.ofString "way"))) (.union (.literal (.ofString "!")) .fail)

theorem signpost_composes :
    signpost.Unrestored ∧
      (signpost.atop (.literal (.ofString "out"))).render ⟨4, 4, .smart⟩ =
        ⟨(signpost.render ⟨4, 4, .smart⟩).tokens ++ [.line 0] ++
          ((Doc.literal (.ofString "out")).render ⟨4, 4, .smart⟩).tokens⟩ ∧
      (signpost.atop (.literal (.ofString "out"))).render ⟨3, 3, .smart⟩ =
        signpost.render ⟨3, 3, .smart⟩ ∧
      (signpost.atop (.literal (.ofString "out"))).compact = signpost.compact := by
  have unrestored : signpost.Unrestored := by simp [signpost, Doc.Unrestored, Doc.Every]
  have wide : (signpost.render ⟨4, 4, .smart⟩).isFeasible = true := by
    rw [Rendered.isFeasible, Doc.tokens_render]
    decide
  have narrow : (signpost.render ⟨3, 3, .smart⟩).isFeasible = false := by
    rw [Rendered.isFeasible, Doc.tokens_render]
    decide
  have compact : signpost.compact.isFeasible = false := by decide
  obtain ⟨onPage, compacted⟩ :=
    rendering_composes_at_newlines signpost (.literal (.ofString "out")) unrestored
  refine ⟨unrestored, ?_, ?_, ?_⟩
  · rw [onPage _ (fun _ => by decide), if_pos wide]
  · rw [onPage _ (fun _ => by decide), if_neg (by simp [narrow])]
  · rw [compacted, if_neg (by simp [compact])]

/-- A letter at the largest level there is, with a choice of more text after it. -/
def farSign : Doc :=
  .cat (.nest 9223372036854775807 .newline)
    (.cat (.literal (.ofString "a")) (.union .empty (.literal (.ofString "!"))))

/-- The choice is at the column 2^63. On its own the sign leaves the text out there, and above something
else it does not. -/
theorem farSign_does_not_compose :
    let page : Page := ⟨9223372036854775808, 9223372036854775808, .smart⟩
    let lower : Doc := .literal (.ofString "b")
    farSign.Unrestored ∧ (farSign.render page).isFeasible = true ∧
      (farSign.render page).tokens = [.line 9223372036854775807, .text (.ofString "a")] ∧
      ((farSign.atop lower).render page).tokens =
        [.line 9223372036854775807, .text (.ofString "a"), .text (.ofString "!"), .line 0,
          .text (.ofString "b")] ∧
      (farSign.atop lower).render page ≠
        ⟨(farSign.render page).tokens ++ [.line 0] ++ (lower.render page).tokens⟩ := by
  intro page lower
  have alone : (farSign.render page).tokens =
      [.line 9223372036854775807, .text (.ofString "a")] := by
    rw [Doc.tokens_render]
    decide
  have above : ((farSign.atop lower).render page).tokens =
      [.line 9223372036854775807, .text (.ofString "a"), .text (.ofString "!"), .line 0,
        .text (.ofString "b")] := by
    rw [Doc.tokens_render]
    decide
  refine ⟨by simp [farSign, Doc.Unrestored, Doc.Every], ?_, alone, above, fun same => ?_⟩
  · rw [Rendered.isFeasible, alone]
    decide
  · have tokens := congrArg Rendered.tokens same
    rw [above, alone] at tokens
    simp at tokens

end Typeset
