import Typeset.Layout

/-! A layout by recursion on the document. What comes after a document is a function of the point at
which the document ends, so that the choices in it can be made without a stack of waiting documents.
The layout of a place is the same: facts about layouts become inductions on documents. -/
namespace Typeset

/-- A point of the output, as a medium sees it. -/
structure Cursor where
  lineIndent : Nat := 0
  column : Nat := 0
  style : Style := .plain

namespace Cursor

/-- The point after one more token. -/
def read (cursor : Cursor) : Token → Cursor
  | .text piece => { cursor with column := cursor.column + piece.width }
  | .line indent => { cursor with lineIndent := indent, column := indent }
  | .format codes => { cursor with style := cursor.style.readAll codes }
  | .fail => cursor

/-- After the codes of a change, what comes is in the changed style. -/
@[simp] theorem read_codesFor (cursor : Cursor) (change : Change) :
    cursor.read (.format (cursor.style.codesFor change)) =
      { cursor with style := cursor.style.apply change } := by
  simp [read]

@[simp] theorem read_codes (cursor : Cursor) (style : Style) :
    cursor.read (.format style.codes) = { cursor with style } := by
  simp [read]

/-- Two points at the same column of equally indented lines, whatever their styles. -/
def Aligned (cursor other : Cursor) : Prop :=
  cursor.lineIndent = other.lineIndent ∧ cursor.column = other.column

theorem Aligned.read {cursor other : Cursor} (aligned : cursor.Aligned other) (token : Token) :
    (cursor.read token).Aligned (other.read token) := by
  obtain ⟨sameIndent, sameColumn⟩ := aligned
  cases token with
  | text piece => exact ⟨sameIndent, congrArg (· + piece.width) sameColumn⟩
  | line indent => exact ⟨rfl, rfl⟩
  | format codes => exact ⟨sameIndent, sameColumn⟩
  | fail => exact ⟨sameIndent, sameColumn⟩

end Cursor

namespace Page

/-- The columns left on the line. -/
def room (page : Page) (cursor : Cursor) : Int := page.roomAt cursor.lineIndent cursor.column

/-- The lookahead over the rest of the line. -/
def lookahead (page : Page) (cursor : Cursor) : Lookahead :=
  { strategy := page.strategy, roomBelow := page.roomBelow,
    baseIndent := min cursor.lineIndent (signed cursor.column), room := page.room cursor
    pastLine := false }

/-- Whether tokens fit: there is room to begin with, and the lookahead accepts them. -/
def fits (page : Page) (cursor : Cursor) (tokens : List Token) : Bool :=
  decide (0 ≤ page.room cursor) && (page.lookahead cursor).accepts tokens

theorem fits_iff (page : Page) (cursor : Cursor) (tokens : List Token) :
    page.fits cursor tokens = true ↔
      0 ≤ page.room cursor ∧ (page.lookahead cursor).accepts tokens = true := by
  simp [fits]

/-- A text takes its width from the room, if there is any. -/
theorem room_text {page : Page} {cursor : Cursor} (some : 0 ≤ page.room cursor) (piece : Literal) :
    page.room (cursor.read (.text piece)) = page.room cursor - piece.width := by
  obtain ⟨page, ribbon⟩ := Int.le_min.mp some
  have smallPage := lt_of_signed page
  have smallRibbon := lt_of_signed ribbon
  simp only [room, roomAt, Cursor.read]
  rw [signed_eq smallPage, signed_eq smallRibbon, signed_eq (by omega), signed_eq (by omega)]
  omega

/-- There is no more room than the columns up to the edge of the page and on the ribbon. -/
theorem room_le (page : Page) (cursor : Cursor) : page.room cursor ≤
    min (page.width.toNat - cursor.column : Int)
      (page.ribbon.toNat - cursor.column + cursor.lineIndent) := by
  have left := signed_le (page.width.toNat - cursor.column)
  have onRibbon := signed_le (page.ribbon.toNat - cursor.column + cursor.lineIndent)
  rw [room, roomAt]
  omega

theorem column_le_of_room {page : Page} {cursor : Cursor} (some : 0 ≤ page.room cursor) :
    cursor.column ≤ page.width.toNat := by
  have left := page.room_le cursor
  omega

/-- On a page of less than 2^63 columns a column counts as it is, where there is room. -/
theorem signed_column {page : Page} {cursor : Cursor} (small : page.width.toNat < UInt64.size / 2)
    (some : 0 ≤ page.room cursor) : signed cursor.column = cursor.column :=
  signed_eq (Int.ofNat_lt.mpr (Nat.lt_of_le_of_lt (column_le_of_room some) small))

theorem room_aligned (page : Page) {cursor other : Cursor} (aligned : cursor.Aligned other) :
    page.room cursor = page.room other := by
  rw [room, room, aligned.1, aligned.2]

theorem lookahead_aligned (page : Page) {cursor other : Cursor} (aligned : cursor.Aligned other) :
    page.lookahead cursor = page.lookahead other := by
  rw [lookahead, lookahead, page.room_aligned aligned, aligned.1, aligned.2]

end Page

/-- A token, and then what comes at the point after it. -/
def Token.andThen (token : Token) (rest : Cursor → List Token) (cursor : Cursor) : List Token :=
  token :: rest (cursor.read token)

/-- The layout of a document at a level, from a point, and of what comes after it. -/
def Doc.layoutThen (page : Page) : Doc → Int64 → (Cursor → List Token) → Cursor → List Token
  | .fail, _, _, _ => [.fail]
  | .empty, _, rest, cursor => rest cursor
  | .literal piece, _, rest, cursor => (Token.text piece).andThen rest cursor
  | .newline, level, rest, cursor => (Token.line level.toNatClampNeg).andThen rest cursor
  | .flatAlt broken _, level, rest, cursor => broken.layoutThen page level rest cursor
  | .cat left right, level, rest, cursor =>
    left.layoutThen page level (right.layoutThen page level rest) cursor
  | .nest amount body, level, rest, cursor => body.layoutThen page (level + .ofInt amount) rest cursor
  | .union flat broken, level, rest, cursor =>
    if page.fits cursor (flat.layoutThen page level rest cursor)
    then flat.layoutThen page level rest cursor
    else broken.layoutThen page level rest cursor
  | .column body, level, rest, cursor => (body cursor.column).layoutThen page level rest cursor
  | .columns body, level, rest, cursor =>
    (body (some page.width.toNat)).layoutThen page level rest cursor
  | .nesting body, level, rest, cursor => (body level.toInt).layoutThen page level rest cursor
  | .styled change body, level, rest, cursor =>
    (Token.format (cursor.style.codesFor change)).andThen
      (body.layoutThen page level ((Token.format cursor.style.codes).andThen rest)) cursor
  | .restore style, _, rest, cursor => (Token.format style.codes).andThen rest cursor

/-- Wherever it stands, a document that is nested by what its column is beyond its level gets the column
for its level, as far as a signed word holds it. -/
theorem aligned_level (level : Int64) (column : Nat) :
    level + .ofInt (column - level.toInt) = .ofNat column := by
  rw [Int64.ofInt_sub, Int64.ofInt_toInt, Int64.ofInt_eq_ofNat, Int64.add_comm, Int64.sub_add_cancel]

/-- The level of what is nested by an amount is the sum, where that is a signed word. -/
theorem nested_level {level : Int64} {amount : Int}
    (lower : -(UInt64.size / 2 : Nat) ≤ level.toInt + amount)
    (upper : level.toInt + amount < (UInt64.size / 2 : Nat)) :
    (level + .ofInt amount).toInt = level.toInt + amount := by
  rw [← Int64.toInt_ofInt_of_le lower upper, Int64.ofInt_add, Int64.ofInt_toInt]

/-- The layout of documents that come one after the other, from a point. -/
def Indented.layoutAll (page : Page) : List Indented → Cursor → List Token
  | [] => fun _ => []
  | first :: rest => first.doc.layoutThen page first.level (layoutAll page rest)

namespace Place

/-- The point of the output at a place. -/
def cursor (place : Place) : Cursor := ⟨place.lineIndent, place.column, place.style⟩

theorem accepts_eq_fits (page : Page) (place : Place) (tokens : List Token) :
    page.accepts place tokens = page.fits place.cursor tokens := by
  by_cases some : 0 ≤ page.room place.cursor
  · have started : page.lookahead? place = Option.some (page.lookahead place.cursor) :=
      if_neg (Int.not_lt.mpr some)
    rw [Page.accepts, started, Page.fits, decide_eq_true some, Bool.true_and]
  · have refused : page.lookahead? place = none := if_pos (Int.not_le.mp some)
    rw [Page.accepts, refused, Page.fits, decide_eq_false some, Bool.false_and]

private theorem advance_layout (page : Page) (place : Place) (upcoming : List Indented) :
    Indented.layoutAll page upcoming place.cursor =
      match place.advance page.width.toNat upcoming with
      | .done => []
      | .token token after => token :: Indented.layoutAll page after.upcoming after.cursor
      | .choice level flat broken after =>
        if page.fits after.cursor
            (flat.layoutThen page level (Indented.layoutAll page after.upcoming) after.cursor)
        then flat.layoutThen page level (Indented.layoutAll page after.upcoming) after.cursor
        else broken.layoutThen page level (Indented.layoutAll page after.upcoming) after.cursor := by
  fun_induction place.advance page.width.toNat upcoming with
  | case1 => rfl
  | case2 => rfl
  | case3 level rest ih => exact ih
  | case4 => rfl
  | case5 => rfl
  | case6 level rest broken flat ih => exact ih
  | case7 level rest left right ih => exact ih
  | case8 level rest amount body ih => exact ih
  | case9 => rfl
  | case10 level rest body ih => exact ih
  | case11 level rest body ih => exact ih
  | case12 level rest body ih => exact ih
  | case13 level rest change body =>
    change Token.format _ :: body.layoutThen page level _ (place.cursor.read _) = _
    rw [Cursor.read_codesFor]
    rfl
  | case14 level rest style =>
    change Token.format _ :: Indented.layoutAll page rest (place.cursor.read _) = _
    rw [Cursor.read_codes]
    rfl

/-- The layout of a place is that of the documents to come. -/
theorem layout_eq_layoutAll (page : Page) (place : Place) :
    place.layout page = Indented.layoutAll page place.upcoming place.cursor := by
  have goesOn := fun place : Place => advance_layout page place place.upcoming
  fun_induction place.layout page with
  | case1 place found =>
    rw [next] at found
    rw [goesOn, found]
  | case2 place token after found ih =>
    rw [next] at found
    rw [goesOn, found, ih]
  | case3 place level flat broken after found flatTokens accepted ih =>
    rw [next] at found
    have same : flatTokens =
        flat.layoutThen page level (Indented.layoutAll page after.upcoming) after.cursor := ih
    rw [accepts_eq_fits] at accepted
    rw [goesOn, found]
    simp only [← same, accepted, ↓reduceIte]
  | case4 place level flat broken after found flatTokens refused ihFlat ihBroken =>
    rw [next] at found
    have same : flatTokens =
        flat.layoutThen page level (Indented.layoutAll page after.upcoming) after.cursor := ihFlat
    rw [accepts_eq_fits] at refused
    rw [goesOn, found]
    simp only [← same, refused]
    exact ihBroken

end Place

/-- The layout of a document, with nothing after it. -/
theorem Doc.layout_eq_layoutThen (page : Page) (doc : Doc) :
    doc.layout page = doc.layoutThen page 0 (fun _ => []) {} :=
  Place.layout_eq_layoutAll page (.start doc)

end Typeset
