import Typeset.Proofs.Composition
import Typeset.Proofs.WellBuilt

/-! Where a layout comes to a part of its document, and what it is there. A part has a passage of the
layout to itself, which lies between what came before it and what comes after. The parts that a layout
comes to are those of the alternatives that it took, and those that functions gave it on the way; none of
them is one that was tried and given up. -/
namespace Typeset

@[simp] theorem Cursor.readAll_append (cursor : Cursor) (first second : List Token) :
    cursor.readAll (first ++ second) = (cursor.readAll first).readAll second :=
  List.foldl_append

/-- The tokens that a document itself has in its layout with what comes after it. -/
def Doc.passage (page : Page) : Doc → Int64 → (Cursor → List Token) → Cursor → List Token
  | .fail, _, _, _ => [.fail]
  | .empty, _, _, _ => []
  | .literal piece, _, _, _ => [.text piece]
  | .newline, level, _, _ => [.line level.toNatClampNeg]
  | .flatAlt broken _, level, rest, cursor => broken.passage page level rest cursor
  | .cat left right, level, rest, cursor =>
    continued (right.passage page level rest)
      (left.passage page level (right.layoutThen page level rest) cursor) cursor
  | .nest amount body, level, rest, cursor => body.passage page (level + .ofInt amount) rest cursor
  | .union flat broken, level, rest, cursor =>
    if page.fits cursor (flat.layoutThen page level rest cursor)
    then flat.passage page level rest cursor
    else broken.passage page level rest cursor
  | .column body, level, rest, cursor => (body cursor.column).passage page level rest cursor
  | .columns body, level, rest, cursor =>
    (body (some page.width.toNat)).passage page level rest cursor
  | .nesting body, level, rest, cursor => (body level.toInt).passage page level rest cursor
  | .styled change body, level, rest, cursor =>
    let enter := Token.format (cursor.style.codesFor change)
    let leave := Token.format cursor.style.codes
    enter :: continued (fun _ => [leave])
      (body.passage page level (leave.andThen rest) (cursor.read enter)) (cursor.read enter)
  | .restore style, _, _, _ => [.format style.codes]

/-- What comes after tokens that go on to others comes after the others. -/
theorem continued_continued (rest next : Cursor → List Token) (tokens : List Token)
    (cursor : Cursor) :
    continued rest (continued next tokens cursor) cursor =
      continued (fun stop => continued rest (next stop) stop) tokens cursor := by
  by_cases fails : .fail ∈ tokens
  · simp [continued, fails]
  · by_cases failsNext : .fail ∈ next (cursor.readAll tokens)
    · simp [continued, fails, failsNext]
    · simp [continued, fails, failsNext]

namespace Doc

/-- A layout is the passage of its document, and then what comes after it. -/
theorem layoutThen_eq_passage (page : Page) (doc : Doc) (level : Int64) (rest : Cursor → List Token)
    (cursor : Cursor) : doc.layoutThen page level rest cursor =
      continued rest (doc.passage page level rest cursor) cursor := by
  induction doc generalizing level rest cursor with
  | fail | empty | literal piece | newline | restore style => rfl
  | flatAlt broken flat ihBroken ihFlat => exact ihBroken level rest cursor
  | cat left right ihLeft ihRight =>
    have then_right : right.layoutThen page level rest = fun stop =>
        continued rest (right.passage page level rest stop) stop := funext (ihRight level rest)
    rw [layoutThen, ihLeft, passage, continued_continued, ← then_right]
  | nest amount body ih => exact ih _ rest cursor
  | union flat broken ihFlat ihBroken =>
    rw [layoutThen, passage]
    split
    · exact ihFlat level rest cursor
    · exact ihBroken level rest cursor
  | column body ih => exact ih _ level rest cursor
  | columns body ih => exact ih _ level rest cursor
  | nesting body ih => exact ih _ level rest cursor
  | styled change body ih =>
    rw [layoutThen, Token.andThen, ih, passage, continued_cons rest (by simp),
      continued_continued]
    rfl

/-- A document without failures has none in its passage. -/
theorem Unfailing.passage {doc : Doc} (unfailing : doc.Unfailing) (page : Page) (level : Int64)
    (rest : Cursor → List Token) (cursor : Cursor) :
    .fail ∉ doc.passage page level rest cursor := by
  induction doc generalizing level rest cursor with
  | fail => exact absurd rfl unfailing
  | empty | literal piece | newline | restore style => simp [Doc.passage]
  | flatAlt broken flat ihBroken ihFlat => exact ihBroken unfailing.2.1 level rest cursor
  | cat left right ihLeft ihRight =>
    have passedLeft := ihLeft unfailing.2.1 level (right.layoutThen page level rest) cursor
    rw [Doc.passage, continued_of_unfailing _ _ passedLeft, List.mem_append, not_or]
    exact ⟨passedLeft, ihRight unfailing.2.2 level rest _⟩
  | nest amount body ih => exact ih unfailing.2 (level + .ofInt amount) rest cursor
  | union flat broken ihFlat ihBroken =>
    rw [Doc.passage]
    split
    · exact ihFlat unfailing.2.1 level rest cursor
    · exact ihBroken unfailing.2.2 level rest cursor
  | column body ih => exact ih _ (unfailing.2 _) level rest cursor
  | columns body ih => exact ih _ (unfailing.2 _) level rest cursor
  | nesting body ih => exact ih _ (unfailing.2 _) level rest cursor
  | styled change body ih =>
    have passed := ih unfailing.2 level ((Token.format cursor.style.codes).andThen rest)
      (cursor.read (.format (cursor.style.codesFor change)))
    rw [Doc.passage, continued_of_unfailing _ _ passed]
    simpa using passed

end Doc

/-- The point of the output after tokens. -/
def pointAfter (before : List Token) : Cursor := Cursor.readAll {} before

@[simp] theorem pointAfter_append (before passage : List Token) :
    pointAfter (before ++ passage) = (pointAfter before).readAll passage :=
  Cursor.readAll_append {} before passage

/-- After some tokens, the layout of a whole document comes to a part of it at a level, with the rest of
the layout to come after the part. -/
inductive Doc.ComesTo (page : Page) (whole : Doc) :
    List Token → Doc → Int64 → (Cursor → List Token) → Prop where
  | whole : ComesTo page whole [] whole 0 fun _ => []
  | broken {before : List Token} {broken flat : Doc} {level : Int64} {rest : Cursor → List Token}
    (comes : ComesTo page whole before (.flatAlt broken flat) level rest) :
    ComesTo page whole before broken level rest
  | left {before : List Token} {left right : Doc} {level : Int64} {rest : Cursor → List Token}
    (comes : ComesTo page whole before (.cat left right) level rest) :
    ComesTo page whole before left level (right.layoutThen page level rest)
  /-- The layout comes to the right of two documents past the left one, unless that fails. -/
  | right {before : List Token} {left right : Doc} {level : Int64} {rest : Cursor → List Token}
    (comes : ComesTo page whole before (.cat left right) level rest)
    (unfailing : .fail ∉
      left.passage page level (right.layoutThen page level rest) (pointAfter before)) :
    ComesTo page whole (before ++
      left.passage page level (right.layoutThen page level rest) (pointAfter before)) right level rest
  | nest {before : List Token} {amount : Int} {body : Doc} {level : Int64} {rest : Cursor → List Token}
    (comes : ComesTo page whole before (.nest amount body) level rest) :
    ComesTo page whole before body (level + .ofInt amount) rest
  | flat {before : List Token} {flat broken : Doc} {level : Int64} {rest : Cursor → List Token}
    (comes : ComesTo page whole before (.union flat broken) level rest)
    (fits : page.fits (pointAfter before)
      (flat.layoutThen page level rest (pointAfter before)) = true) :
    ComesTo page whole before flat level rest
  | otherwise {before : List Token} {flat broken : Doc} {level : Int64} {rest : Cursor → List Token}
    (comes : ComesTo page whole before (.union flat broken) level rest)
    (overflows : page.fits (pointAfter before)
      (flat.layoutThen page level rest (pointAfter before)) = false) :
    ComesTo page whole before broken level rest
  | column {before : List Token} {body : Nat → Doc} {level : Int64} {rest : Cursor → List Token}
    (comes : ComesTo page whole before (.column body) level rest) :
    ComesTo page whole before (body (pointAfter before).column) level rest
  | columns {before : List Token} {body : Option Nat → Doc} {level : Int64}
    {rest : Cursor → List Token} (comes : ComesTo page whole before (.columns body) level rest) :
    ComesTo page whole before (body (some page.width.toNat)) level rest
  | nesting {before : List Token} {body : Int → Doc} {level : Int64} {rest : Cursor → List Token}
    (comes : ComesTo page whole before (.nesting body) level rest) :
    ComesTo page whole before (body level.toInt) level rest
  | styled {before : List Token} {change : Change} {body : Doc} {level : Int64}
    {rest : Cursor → List Token} (comes : ComesTo page whole before (.styled change body) level rest) :
    ComesTo page whole (before ++ [.format ((pointAfter before).style.codesFor change)]) body level
      ((Token.format (pointAfter before).style.codes).andThen rest)

namespace Doc.ComesTo
variable {page : Page} {whole : Doc} {before : List Token} {part : Doc} {level : Int64}
  {rest : Cursor → List Token}

/-- Where a layout comes to a part, the layout of the part with all that comes after it is what is left of
the output. -/
theorem tokens_render (comes : whole.ComesTo page before part level rest) :
    (whole.render page).tokens = before ++ part.layoutThen page level rest (pointAfter before) := by
  induction comes with
  | whole => exact Doc.tokens_render page whole
  | broken comes ih | left comes ih | nest comes ih | column comes ih | columns comes ih
  | nesting comes ih => exact ih
  | right comes unfailing ih =>
    rw [ih, layoutThen, layoutThen_eq_passage, continued_of_unfailing _ _ unfailing,
      pointAfter_append, List.append_assoc]
  | flat comes fits ih => rw [ih, layoutThen, if_pos fits]
  | otherwise comes overflows ih => rw [ih, layoutThen, if_neg (by simp [overflows])]
  | styled comes ih =>
    rw [ih, layoutThen, Token.andThen, pointAfter_append, List.append_assoc]
    rfl

/-- What a part has to itself stands in the output where the layout comes to the part. -/
theorem passage_prefix (comes : whole.ComesTo page before part level rest) :
    before ++ part.passage page level rest (pointAfter before) <+: (whole.render page).tokens := by
  rw [comes.tokens_render, layoutThen_eq_passage, continued]
  split
  · exact List.prefix_rfl
  · rw [← List.append_assoc]
    exact List.prefix_append _ _

/-- What a part has to itself in a feasible layout holds no failure. -/
theorem unfailing (comes : whole.ComesTo page before part level rest)
    (feasible : (whole.render page).isFeasible = true) :
    .fail ∉ part.passage page level rest (pointAfter before) := by
  have unfailing := (whole.isFeasible_render_iff page).mp feasible
  rw [comes.tokens_render, layoutThen_eq_passage] at unfailing
  intro fails
  rw [continued, if_pos fails] at unfailing
  exact unfailing (List.mem_append_right _ fails)

/-- A layout that comes to an aligned document comes to the document at the level of its column. -/
theorem align (comes : whole.ComesTo page before part.align level rest) :
    whole.ComesTo page before part (.ofNat (pointAfter before).column) rest := by
  have aligned := comes.column.nesting.nest
  rwa [aligned_level] at aligned

end Doc.ComesTo
end Typeset
