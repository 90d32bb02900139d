import Typeset.Proofs.StyleScopes

/-! What happens in a layout: its tokens, and between them the choices that were made. As a recursion
on the document this is the layout once more, with every choice left standing where it was made. -/
namespace Typeset

/-- What happens in a layout. -/
inductive Event where
  | token (token : Token)
  /-- One of the two documents of a choice is taken, the flat one or the broken one. -/
  | choice (tookFlat : Bool)
  deriving DecidableEq

/-- The tokens among events. -/
def tokensOf : List Event → List Token
  | [] => []
  | .token token :: rest => token :: tokensOf rest
  | .choice _ :: rest => tokensOf rest

@[simp] theorem tokensOf_nil : tokensOf [] = [] := rfl

@[simp] theorem tokensOf_token (token : Token) (rest : List Event) :
    tokensOf (.token token :: rest) = token :: tokensOf rest := rfl

@[simp] theorem tokensOf_choice (tookFlat : Bool) (rest : List Event) :
    tokensOf (.choice tookFlat :: rest) = tokensOf rest := rfl

@[simp] theorem tokensOf_append (first second : List Event) :
    tokensOf (first ++ second) = tokensOf first ++ tokensOf second := by
  induction first with
  | nil => rfl
  | cons event rest ih =>
    cases event with
    | token token => simp [ih]
    | choice tookFlat => simp [ih]

/-- A token, and then what happens from the point after it. -/
def Token.thenEvents (token : Token) (rest : Cursor → List Event) (cursor : Cursor) : List Event :=
  .token token :: rest (cursor.read token)

/-- What happens in the layout of a document at a level, from a point, and after it. -/
def Doc.eventsThen (page : Page) : Doc → Int64 → (Cursor → List Event) → Cursor → List Event
  | .fail, _, _, _ => [.token .fail]
  | .empty, _, rest, cursor => rest cursor
  | .literal piece, _, rest, cursor => (Token.text piece).thenEvents rest cursor
  | .newline, level, rest, cursor => (Token.line level.toNatClampNeg).thenEvents rest cursor
  | .flatAlt broken _, level, rest, cursor => broken.eventsThen page level rest cursor
  | .cat left right, level, rest, cursor =>
    left.eventsThen page level (right.eventsThen page level rest) cursor
  | .nest amount body, level, rest, cursor => body.eventsThen page (level + .ofInt amount) rest cursor
  | .union flat broken, level, rest, cursor =>
    if page.fits cursor (tokensOf (flat.eventsThen page level rest cursor))
    then .choice true :: flat.eventsThen page level rest cursor
    else .choice false :: broken.eventsThen page level rest cursor
  | .column body, level, rest, cursor => (body cursor.column).eventsThen page level rest cursor
  | .columns body, level, rest, cursor =>
    (body (some page.width.toNat)).eventsThen page level rest cursor
  | .nesting body, level, rest, cursor => (body level.toInt).eventsThen page level rest cursor
  | .styled change body, level, rest, cursor =>
    (Token.format (cursor.style.codesFor change)).thenEvents
      (body.eventsThen page level ((Token.format cursor.style.codes).thenEvents rest)) cursor
  | .restore style, _, rest, cursor => (Token.format style.codes).thenEvents rest cursor

/-- What happens in the layout of documents that come one after the other, from a point. -/
def Indented.eventsAll (page : Page) : List Indented → Cursor → List Event
  | [] => fun _ => []
  | first :: rest => first.doc.eventsThen page first.level (eventsAll page rest)

/-- What happens in the layout of all that is to come at a place. -/
def Place.events (page : Page) (place : Place) : List Event :=
  Indented.eventsAll page place.upcoming place.cursor

namespace Place

private theorem advance_events (page : Page) (place : Place) (upcoming : List Indented) :
    Indented.eventsAll page upcoming place.cursor =
      match place.advance page.width.toNat upcoming with
      | .done => []
      | .token token after => .token token :: after.events page
      | .choice level flat broken after =>
        if page.accepts after (tokensOf ((after.push level flat).events page))
        then .choice true :: (after.push level flat).events page
        else .choice false :: (after.push level broken).events page := by
  fun_induction place.advance page.width.toNat upcoming with
  | case1 => rfl
  | case2 => rfl
  | case3 level rest ih => exact ih
  | case4 => rfl
  | case5 => rfl
  | case6 level rest broken flat ih => exact ih
  | case7 level rest left right ih => exact ih
  | case8 level rest amount body ih => exact ih
  | case9 level rest flat broken =>
    simp only [accepts_eq_fits]
    rfl
  | case10 level rest body ih => exact ih
  | case11 level rest body ih => exact ih
  | case12 level rest body ih => exact ih
  | case13 level rest change body =>
    change Event.token (.format _) :: body.eventsThen page level _ (place.cursor.read _) = _
    rw [Cursor.read_codesFor]
    rfl
  | case14 level rest style =>
    change Event.token (.format _) :: Indented.eventsAll page rest (place.cursor.read _) = _
    rw [Cursor.read_codes]
    rfl

/-- What happens at a place is what happens next, and then the rest. -/
theorem events_eq (page : Page) (place : Place) :
    place.events page =
      match place.next page.width.toNat with
      | .done => []
      | .token token after => .token token :: after.events page
      | .choice level flat broken after =>
        if page.accepts after (tokensOf ((after.push level flat).events page))
        then .choice true :: (after.push level flat).events page
        else .choice false :: (after.push level broken).events page :=
  advance_events page place place.upcoming

end Place

namespace Doc

/-- The tokens among the events are those of the layout. -/
theorem tokensOf_eventsThen (page : Page) (doc : Doc) (level : Int64) {rest : Cursor → List Event}
    {tokenRest : Cursor → List Token} (same : ∀ cursor, tokensOf (rest cursor) = tokenRest cursor)
    (cursor : Cursor) :
    tokensOf (doc.eventsThen page level rest cursor) =
      doc.layoutThen page level tokenRest cursor := by
  induction doc generalizing level rest tokenRest cursor with
  | fail => rfl
  | empty => exact same cursor
  | literal piece => simp [eventsThen, layoutThen, Token.thenEvents, Token.andThen, same]
  | newline => simp [eventsThen, layoutThen, Token.thenEvents, Token.andThen, same]
  | flatAlt broken flat ihBroken ihFlat => exact ihBroken level same cursor
  | cat left right ihLeft ihRight => exact ihLeft level (ihRight level same) cursor
  | nest amount body ih => exact ih _ same cursor
  | union flat broken ihFlat ihBroken =>
    simp only [eventsThen, layoutThen, ihFlat level same cursor]
    split
    · exact ihFlat level same cursor
    · exact ihBroken level same cursor
  | column body ih => exact ih _ level same cursor
  | columns body ih => exact ih _ level same cursor
  | nesting body ih => exact ih _ level same cursor
  | styled change body ih =>
    refine congrArg (_ :: ·) (ih level ?_ _)
    intro stop
    exact congrArg (_ :: ·) (same _)
  | restore style => exact congrArg (_ :: ·) (same _)

end Doc

end Typeset
