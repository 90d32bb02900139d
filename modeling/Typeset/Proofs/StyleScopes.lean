import Typeset.Proofs.Feasibility
import Typeset.Proofs.Hereditary

/-! Styles are lexically scoped. What a medium has in effect when it comes to a piece of text is what
the changes around that piece in the document make of the plain style, outermost first, whatever was
styled before it, tried and given up, or laid out around it. To say so, a layout is made of tokens that
carry the changes around their place in the document. -/
namespace Typeset

/-- The point after tokens. -/
def Cursor.readAll (cursor : Cursor) (tokens : List Token) : Cursor := tokens.foldl Cursor.read cursor

/-- A token and the changes around the node that it comes from, outermost first. -/
structure Scoped where
  token : Token
  changes : List Change
  deriving DecidableEq

/-- The layout of a document inside changes, and of what comes after it. -/
def Doc.scopedThen (page : Page) :
    Doc → Int64 → List Change → (Cursor → List Scoped) → Cursor → List Scoped
  | .fail, _, changes, _, _ => [⟨.fail, changes⟩]
  | .empty, _, _, rest, cursor => rest cursor
  | .literal piece, _, changes, rest, cursor =>
    ⟨.text piece, changes⟩ :: rest (cursor.read (.text piece))
  | .newline, level, changes, rest, cursor =>
    ⟨.line level.toNatClampNeg, changes⟩ :: rest (cursor.read (.line level.toNatClampNeg))
  | .flatAlt broken _, level, changes, rest, cursor =>
    broken.scopedThen page level changes rest cursor
  | .cat left right, level, changes, rest, cursor =>
    left.scopedThen page level changes (right.scopedThen page level changes rest) cursor
  | .nest amount body, level, changes, rest, cursor =>
    body.scopedThen page (level + .ofInt amount) changes rest cursor
  | .union flat broken, level, changes, rest, cursor =>
    if page.fits cursor ((flat.scopedThen page level changes rest cursor).map Scoped.token)
    then flat.scopedThen page level changes rest cursor
    else broken.scopedThen page level changes rest cursor
  | .column body, level, changes, rest, cursor =>
    (body cursor.column).scopedThen page level changes rest cursor
  | .columns body, level, changes, rest, cursor =>
    (body (some page.width.toNat)).scopedThen page level changes rest cursor
  | .nesting body, level, changes, rest, cursor =>
    (body level.toInt).scopedThen page level changes rest cursor
  | .styled change body, level, changes, rest, cursor =>
    let enter := Token.format (cursor.style.codesFor change)
    let leave := Token.format cursor.style.codes
    ⟨enter, changes⟩ :: body.scopedThen page level (changes ++ [change])
      (fun stop => ⟨leave, changes⟩ :: rest (stop.read leave)) (cursor.read enter)
  | .restore style, _, changes, rest, cursor =>
    ⟨.format style.codes, changes⟩ :: rest (cursor.read (.format style.codes))

/-- The layout of a document on a page, with the changes around every token. -/
def Doc.scopes (page : Page) (doc : Doc) : List Scoped :=
  doc.scopedThen page 0 [] (fun _ => []) {}

/-- A piece of text stands in a document, inside exactly these changes. -/
inductive Doc.Leaf (piece : Literal) : Doc → List Change → Prop where
  | literal : Leaf piece (.literal piece) []
  | broken {broken flat : Doc} {changes : List Change} (leaf : Leaf piece broken changes) :
    Leaf piece (.flatAlt broken flat) changes
  | left {left right : Doc} {changes : List Change} (leaf : Leaf piece left changes) :
    Leaf piece (.cat left right) changes
  | right {left right : Doc} {changes : List Change} (leaf : Leaf piece right changes) :
    Leaf piece (.cat left right) changes
  | nest {amount : Int} {body : Doc} {changes : List Change} (leaf : Leaf piece body changes) :
    Leaf piece (.nest amount body) changes
  | flat {flat broken : Doc} {changes : List Change} (leaf : Leaf piece flat changes) :
    Leaf piece (.union flat broken) changes
  | otherwise {flat broken : Doc} {changes : List Change} (leaf : Leaf piece broken changes) :
    Leaf piece (.union flat broken) changes
  | column {body : Nat → Doc} {changes : List Change} (start : Nat)
    (leaf : Leaf piece (body start) changes) : Leaf piece (.column body) changes
  | columns {body : Option Nat → Doc} {changes : List Change} (edge : Option Nat)
    (leaf : Leaf piece (body edge) changes) : Leaf piece (.columns body) changes
  | nesting {body : Int → Doc} {changes : List Change} (level : Int)
    (leaf : Leaf piece (body level) changes) : Leaf piece (.nesting body) changes
  | styled {change : Change} {body : Doc} {changes : List Change}
    (leaf : Leaf piece body changes) : Leaf piece (.styled change body) (change :: changes)

namespace Doc

/-- The tokens are those of the layout. -/
theorem token_scopedThen (page : Page) (doc : Doc) (level : Int64) (changes : List Change)
    {rest : Cursor → List Scoped} {plainRest : Cursor → List Token}
    (same : ∀ cursor, (rest cursor).map Scoped.token = plainRest cursor) (cursor : Cursor) :
    (doc.scopedThen page level changes rest cursor).map Scoped.token =
      doc.layoutThen page level plainRest cursor := by
  induction doc generalizing level changes rest plainRest cursor with
  | fail => rfl
  | empty => exact same cursor
  | literal piece => simp [scopedThen, layoutThen, Token.andThen, same]
  | newline => simp [scopedThen, layoutThen, Token.andThen, same]
  | flatAlt broken flat ihBroken ihFlat => exact ihBroken level changes same cursor
  | cat left right ihLeft ihRight =>
    exact ihLeft level changes (ihRight level changes same) cursor
  | nest amount body ih => exact ih _ changes same cursor
  | union flat broken ihFlat ihBroken =>
    simp only [scopedThen, layoutThen, ihFlat level changes same cursor]
    split
    · exact ihFlat level changes same cursor
    · exact ihBroken level changes same cursor
  | column body ih => exact ih _ level changes same cursor
  | columns body ih => exact ih _ level changes same cursor
  | nesting body ih => exact ih _ level changes same cursor
  | styled change body ih =>
    rw [scopedThen, layoutThen, List.map_cons]
    refine congrArg (_ :: ·) (ih level _ ?_ _)
    intro stop
    simp [Token.andThen, same]
  | restore style => simp [scopedThen, layoutThen, Token.andThen, same]

end Doc

/-- The style that changes make of the plain one, outermost first. -/
def scopeStyle (changes : List Change) : Style := changes.foldl Style.apply .plain

theorem scopeStyle_append (changes : List Change) (change : Change) :
    scopeStyle (changes ++ [change]) = (scopeStyle changes).apply change := by
  rw [scopeStyle, List.foldl_append]
  rfl

/-- From a style on, every text stands in the style of its scope, and unless they fail the tokens end
in the plain style. Nothing comes after a failure. -/
def InScope (style : Style) : List Scoped → Prop
  | [] => style = .plain
  | ⟨.text _, changes⟩ :: rest => style = scopeStyle changes ∧ InScope style rest
  | ⟨.format codes, _⟩ :: rest => InScope (style.readAll codes) rest
  | ⟨.line _, _⟩ :: rest => InScope style rest
  | ⟨.fail, _⟩ :: rest => rest = []

namespace Doc

/-- A document leaves the style as it found it: inside changes, from their style, its texts stand in
their scopes and what comes after it starts from the same style again. -/
theorem inScope_scopedThen (page : Page) (doc : Doc) (unrestored : doc.Unrestored) (level : Int64)
    (changes : List Change) {rest : Cursor → List Scoped}
    (after : ∀ stop, stop.style = scopeStyle changes → InScope stop.style (rest stop))
    (cursor : Cursor) (here : cursor.style = scopeStyle changes) :
    InScope cursor.style (doc.scopedThen page level changes rest cursor) := by
  induction doc generalizing level changes rest cursor with
  | fail => exact rfl
  | empty => exact after cursor here
  | literal piece => exact ⟨here, after (cursor.read (.text piece)) here⟩
  | newline => exact after (cursor.read (.line level.toNatClampNeg)) here
  | flatAlt broken flat ihBroken ihFlat =>
    exact ihBroken unrestored.2.1 level changes after cursor here
  | cat left right ihLeft ihRight =>
    have afterLeft := ihRight unrestored.2.2 level changes after
    exact ihLeft unrestored.2.1 level changes afterLeft cursor here
  | nest amount body ih => exact ih unrestored.2 (level + .ofInt amount) changes after cursor here
  | union flat broken ihFlat ihBroken =>
    rw [scopedThen]
    split
    · exact ihFlat unrestored.2.1 level changes after cursor here
    · exact ihBroken unrestored.2.2 level changes after cursor here
  | column body ih => exact ih _ (unrestored.2 _) level changes after cursor here
  | columns body ih => exact ih _ (unrestored.2 _) level changes after cursor here
  | nesting body ih => exact ih _ (unrestored.2 _) level changes after cursor here
  | styled change body ih =>
    have entered : (cursor.read (.format (cursor.style.codesFor change))).style =
        scopeStyle (changes ++ [change]) := by
      simp [Cursor.read, here, scopeStyle_append]
    refine ih unrestored.2 level (changes ++ [change]) ?_ _ entered
    intro stop _
    -- The codes on the way out establish the outer style whatever the inner one was.
    have left : (stop.read (.format cursor.style.codes)).style = scopeStyle changes := by
      simp [Cursor.read, here]
    exact after _ left
  | restore style => exact absurd rfl (unrestored style)

/-- A document stands in a whole one inside changes if each of its leaves does. Then a text of its
layout is a leaf of the whole inside exactly the changes that it carries, if that is so for the texts of
what comes after it. -/
theorem leaf_of_mem_scopedThen (page : Page) (whole doc : Doc) (level : Int64) (outer : List Change)
    {rest : Cursor → List Scoped} {cursor : Cursor} {piece : Literal} {changes : List Change}
    (inside : ∀ inner, doc.Leaf piece inner → whole.Leaf piece (outer ++ inner))
    (after : ∀ stop, ⟨.text piece, changes⟩ ∈ rest stop → whole.Leaf piece changes)
    (member : ⟨.text piece, changes⟩ ∈ doc.scopedThen page level outer rest cursor) :
    whole.Leaf piece changes := by
  induction doc generalizing level outer rest cursor with
  | fail => simp [scopedThen] at member
  | empty => exact after cursor member
  | literal other =>
    simp only [scopedThen, List.mem_cons, Scoped.mk.injEq, Token.text.injEq] at member
    obtain ⟨rfl, rfl⟩ | later := member
    · have leaf := inside [] .literal
      rwa [List.append_nil] at leaf
    · exact after _ later
  | newline =>
    simp only [scopedThen, List.mem_cons, Scoped.mk.injEq, reduceCtorEq, false_and,
      false_or] at member
    exact after _ member
  | flatAlt broken flat ihBroken ihFlat =>
    exact ihBroken level outer (fun inner leaf => inside inner (.broken leaf)) after member
  | cat left right ihLeft ihRight =>
    refine ihLeft level outer (fun inner leaf => inside inner (.left leaf)) ?_ member
    intro stop later
    exact ihRight level outer (fun inner leaf => inside inner (.right leaf)) after later
  | nest amount body ih =>
    exact ih _ outer (fun inner leaf => inside inner (.nest leaf)) after member
  | union flat broken ihFlat ihBroken =>
    rw [scopedThen] at member
    split at member
    · exact ihFlat level outer (fun inner leaf => inside inner (.flat leaf)) after member
    · exact ihBroken level outer (fun inner leaf => inside inner (.otherwise leaf)) after member
  | column body ih =>
    exact ih _ level outer (fun inner leaf => inside inner (.column _ leaf)) after member
  | columns body ih =>
    exact ih _ level outer (fun inner leaf => inside inner (.columns _ leaf)) after member
  | nesting body ih =>
    exact ih _ level outer (fun inner leaf => inside inner (.nesting _ leaf)) after member
  | styled change body ih =>
    simp only [scopedThen, List.mem_cons, Scoped.mk.injEq, reduceCtorEq, false_and,
      false_or] at member
    refine ih level (outer ++ [change]) ?_ ?_ member
    · intro inner leaf
      rw [List.append_assoc]
      exact inside (change :: inner) (.styled leaf)
    · intro stop later
      simp only [List.mem_cons, Scoped.mk.injEq, reduceCtorEq, false_and, false_or] at later
      exact after _ later
  | restore style =>
    simp only [scopedThen, List.mem_cons, Scoped.mk.injEq, reduceCtorEq, false_and,
      false_or] at member
    exact after _ member

/-- The tokens of the layout on a page are those that a document renders to. -/
theorem token_scopes (page : Page) (doc : Doc) :
    (doc.scopes page).map Scoped.token = (doc.render page).tokens := by
  rw [tokens_render]
  exact token_scopedThen page doc 0 [] (fun _ => rfl) {}

theorem inScope_scopes (page : Page) (doc : Doc) (unrestored : doc.Unrestored) :
    InScope .plain (doc.scopes page) := by
  have nothing : ∀ stop : Cursor, stop.style = scopeStyle [] → InScope stop.style [] :=
    fun _ plain => plain
  exact inScope_scopedThen page doc unrestored 0 [] nothing {} rfl

end Doc

/-- A text stands in its scope after whatever tokens come before it. -/
theorem InScope.style_before (cursor : Cursor) {before after : List Scoped} {piece : Literal}
    {changes : List Change}
    (inScope : InScope cursor.style (before ++ ⟨.text piece, changes⟩ :: after)) :
    (cursor.readAll (before.map Scoped.token)).style = scopeStyle changes := by
  induction before generalizing cursor with
  | nil => exact inScope.1
  | cons entry before ih =>
    obtain ⟨token, around⟩ := entry
    cases token with
    | text earlier => exact ih (cursor.read (.text earlier)) inScope.2
    | line indent => exact ih (cursor.read (.line indent)) inScope
    | format codes => exact ih (cursor.read (.format codes)) inScope
    | fail => exact absurd inScope (by simp [InScope])

/-- Unless they fail, the tokens end in the plain style. -/
theorem InScope.style_end (cursor : Cursor) {tokens : List Scoped}
    (inScope : InScope cursor.style tokens) (unfailed : .fail ∉ tokens.map Scoped.token) :
    (cursor.readAll (tokens.map Scoped.token)).style = .plain := by
  induction tokens generalizing cursor with
  | nil => exact inScope
  | cons entry rest ih =>
    obtain ⟨token, around⟩ := entry
    have unfailedRest : .fail ∉ rest.map Scoped.token :=
      fun failed => unfailed (List.mem_cons_of_mem _ failed)
    cases token with
    | text piece => exact ih (cursor.read (.text piece)) inScope.2 unfailedRest
    | line indent => exact ih (cursor.read (.line indent)) inScope unfailedRest
    | format codes => exact ih (cursor.read (.format codes)) inScope unfailedRest
    | fail => exact absurd List.mem_cons_self unfailed

/-- Styles are lexically scoped. The tokens of a document without restored styles carry the changes
around their places in it. When a medium that starts plain comes to a text, it is in the style that
these changes make, applied outermost first; and it is plain again at the end of a feasible document. -/
theorem styles_are_lexically_scoped (page : Page) (doc : Doc) (unrestored : doc.Unrestored) :
    (doc.scopes page).map Scoped.token = (doc.render page).tokens ∧
    (∀ before piece changes after,
      doc.scopes page = before ++ ⟨.text piece, changes⟩ :: after →
      doc.Leaf piece changes ∧
      (Cursor.readAll {} (before.map Scoped.token)).style = changes.foldl Style.apply .plain) ∧
    ((doc.render page).isFeasible = true →
      (Cursor.readAll {} (doc.render page).tokens).style = .plain) := by
  have inScope := doc.inScope_scopes page unrestored
  refine ⟨doc.token_scopes page, ?_, ?_⟩
  · intro before piece changes after split
    have member : ⟨.text piece, changes⟩ ∈ doc.scopes page := by simp [split]
    have leaf : doc.Leaf piece changes :=
      Doc.leaf_of_mem_scopedThen page doc doc 0 [] (fun _ leaf => leaf) (by simp) member
    rw [split] at inScope
    exact ⟨leaf, InScope.style_before {} inScope⟩
  · intro feasible
    have unfailed := (doc.isFeasible_render_iff page).mp feasible
    rw [← doc.token_scopes page] at unfailed ⊢
    exact InScope.style_end {} inScope unfailed

/-- A bold warning with a part that is not bold, and a choice about that part. -/
def warning : Doc :=
  .cat (.styled (.turn .bold true) (.cat (.literal (.ofString "mind "))
    (.union (.styled (.turn .bold false) (.literal (.ofString "the gap")))
      (.cat .newline (.literal (.ofString "gap"))))))
    (.literal (.ofString "!"))

theorem warning_is_scoped :
    warning.Unrestored ∧ (warning.render ⟨20, 20, .smart⟩).isFeasible = true ∧
      (∃ before after, warning.scopes ⟨20, 20, .smart⟩ =
          before ++ ⟨.text (.ofString "the gap"), [.turn .bold true, .turn .bold false]⟩ :: after ∧
        (Cursor.readAll {} (before.map Scoped.token)).style =
          [.turn .bold true, .turn .bold false].foldl Style.apply .plain) ∧
      (Cursor.readAll {} (warning.render ⟨20, 20, .smart⟩).tokens).style = .plain := by
  have unrestored : warning.Unrestored := by simp [warning, Doc.Unrestored, Doc.Every]
  have feasible : (warning.render ⟨20, 20, .smart⟩).isFeasible = true := by
    rw [Rendered.isFeasible, Doc.tokens_render]
    decide
  have layout : warning.scopes ⟨20, 20, .smart⟩ =
      [⟨.format [.effect .bold], []⟩, ⟨.text (.ofString "mind "), [.turn .bold true]⟩,
        ⟨.format [.reset], [.turn .bold true]⟩] ++
      ⟨.text (.ofString "the gap"), [.turn .bold true, .turn .bold false]⟩ ::
      [⟨.format [.reset, .effect .bold], [.turn .bold true]⟩, ⟨.format [.reset], []⟩,
        ⟨.text (.ofString "!"), []⟩] := by
    decide
  obtain ⟨-, texts, plainEnd⟩ := styles_are_lexically_scoped ⟨20, 20, .smart⟩ warning unrestored
  exact ⟨unrestored, feasible, ⟨_, _, layout, (texts _ _ _ _ layout).2⟩, plainEnd feasible⟩

end Typeset
