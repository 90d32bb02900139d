import Typeset.Doc.Enclose
import Typeset.Doc.Fill
import Typeset.Proofs.Backtracking
import Typeset.Proofs.Fit

/-! Indentation translates a layout. On a page that is wider by an amount, a document indented by that
amount is laid out as it is without, every line so much further right. Each part of a choice moves
along: the edge of the page, the room on the ribbon, the base that the smart strategy compares the next
line with, and the columns and levels that functions are called with. All of this is so as long as no
level is moved past the largest word. -/
namespace Typeset

/-- A token so many columns further right. Only a newline says where it is. -/
def Token.indented (amount : Nat) : Token → Token
  | .line indent => .line (indent + amount)
  | token => token

/-- A point so many columns further right, on a line indented by so many more. -/
def Cursor.indented (amount : Nat) (cursor : Cursor) : Cursor :=
  { cursor with lineIndent := cursor.lineIndent + amount, column := cursor.column + amount }

theorem Cursor.read_indented (amount : Nat) (cursor : Cursor) (token : Token) :
    (cursor.indented amount).read (token.indented amount) = (cursor.read token).indented amount := by
  cases token with
  | text piece => simp only [indented, read, Token.indented, Nat.add_right_comm]
  | line indent => rfl
  | format codes => rfl
  | fail => rfl

/-- A token moves along with the point at which it comes. -/
theorem Token.andThen_indented (amount : Nat) (token : Token) {rest restMoved : Cursor → List Token}
    (cursor : Cursor) (after : restMoved ((cursor.read token).indented amount) =
      (rest (cursor.read token)).map (Token.indented amount)) :
    (token.indented amount).andThen restMoved (cursor.indented amount) =
      (token.andThen rest cursor).map (Token.indented amount) := by
  rw [andThen, andThen, List.map_cons, Cursor.read_indented, after]

/-- A page of so many more columns, with the same ribbon. -/
def Page.widened (page : Page) (amount : Nat) : Page :=
  { page with width := .ofNat (page.width.toNat + amount) }

/-- The first line is as wide wherever it stands. -/
theorem lineFits_indented (amount : Nat) (room : Int) (tokens : List Token) :
    LineFits room (tokens.map (Token.indented amount)) ↔ LineFits room tokens := by
  induction tokens generalizing room with
  | nil => rfl
  | cons token rest ih =>
    cases token with
    | text piece => simpa only [List.map_cons, Token.indented, lineFits_text] using ih _
    | format codes => simpa only [List.map_cons, Token.indented, lineFits_format] using ih _
    | line indent => simp only [List.map_cons, Token.indented, lineFits_line]
    | fail => simp only [List.map_cons, Token.indented, lineFits_fail]

/-- The next line is as far beyond the base, and as far from the edge of the page. -/
theorem nextLineFits_indented (amount : Nat) {roomBelow moved : Nat → Int}
    (edge : ∀ indent, moved (indent + amount) = roomBelow indent) (baseIndent : Int)
    (tokens : List Token) :
    NextLineFits moved (baseIndent + amount) (tokens.map (Token.indented amount)) ↔
      NextLineFits roomBelow baseIndent tokens := by
  induction tokens with
  | nil => simp
  | cons token rest ih =>
    cases token with
    | text piece => exact ih
    | format codes => exact ih
    | fail => exact ih
    | line indent =>
      have deeper : baseIndent + amount < (indent + amount : Nat) ↔ baseIndent < indent := by omega
      simp only [List.map_cons, Token.indented, nextLineFits_line, deeper, edge, lineFits_indented]

section
variable {page : Page} {amount : Nat} (small : page.width.toNat + amount < UInt64.size / 2)
include small

theorem Page.width_widened : (page.widened amount).width.toNat = page.width.toNat + amount := by
  have word : page.width.toNat + amount < UInt64.size := by
    simp only [UInt64.size] at small ⊢
    omega
  exact UInt64.toNat_ofNat_of_lt' word

theorem Page.roomBelow_widened (indent : Nat) :
    (page.widened amount).roomBelow (indent + amount) = page.roomBelow indent := by
  have left : ((page.width.toNat + amount : Nat) : Int) - (indent + amount : Nat) =
      page.width.toNat - indent := by omega
  rw [roomBelow, roomBelow, width_widened small, left]

theorem Page.room_widened (cursor : Cursor) :
    (page.widened amount).room (cursor.indented amount) = page.room cursor := by
  have ribbon : (page.widened amount).ribbon = page.ribbon := rfl
  have left : (page.width.toNat + amount : Nat) - (cursor.column + amount : Nat) =
      (page.width.toNat - cursor.column : Int) := by omega
  have onRibbon : (page.ribbon.toNat : Int) - (cursor.column + amount : Nat) +
      (cursor.lineIndent + amount : Nat) = page.ribbon.toNat - cursor.column + cursor.lineIndent := by
    omega
  simp only [room, roomAt, width_widened small, ribbon, Cursor.indented, left, onRibbon]

theorem Page.fits_widened (cursor : Cursor) (tokens : List Token) :
    (page.widened amount).fits (cursor.indented amount) (tokens.map (Token.indented amount)) =
      page.fits cursor tokens := by
  have strategy : (page.widened amount).strategy = page.strategy := rfl
  rw [Bool.eq_iff_iff, fits_iff_lines, fits_iff_lines, room_widened small, lineFits_indented, strategy]
  refine and_congr_right fun line => forall_congr' fun smart => ?_
  -- Where there is room a column is at most the width, and so is a word on either page.
  have within := column_le_of_room line.room_nonneg
  have base : min ((cursor.indented amount).lineIndent : Int) (signed (cursor.indented amount).column) =
      min (cursor.lineIndent : Int) (signed cursor.column) + amount := by
    simp only [Cursor.indented]
    rw [signed_eq (by omega), signed_eq (by omega)]
    omega
  rw [base]
  exact nextLineFits_indented amount (roomBelow_widened small) _ tokens

end

/-- Two documents that are laid out alike, the first at a level, and the second so many columns further
right. What their functions give is compared for places that are so far from each other. The first
document starts at most at a column `start` and ends at most at a column `stop`, and no level at which
the second breaks a line is more than a word. -/
inductive Doc.Translated (amount : Nat) : (start level stop : Nat) → Doc → Doc → Prop where
  | fail {start level stop : Nat} : Translated amount start level stop .fail .fail
  | empty {start level stop : Nat} (ends : start ≤ stop) :
    Translated amount start level stop .empty .empty
  | literal {start level stop : Nat} (piece : Literal) (ends : start + piece.width ≤ stop) :
    Translated amount start level stop (.literal piece) (.literal piece)
  | newline {start level stop : Nat} (ends : level ≤ stop)
    (word : level + amount < UInt64.size / 2) : Translated amount start level stop .newline .newline
  | flatAlt {start level stop : Nat} {broken flat otherBroken otherFlat : Doc}
    (moved : Translated amount start level stop broken otherBroken)
    (movedFlat : Translated amount start level stop flat otherFlat) :
    Translated amount start level stop (.flatAlt broken flat) (.flatAlt otherBroken otherFlat)
  | cat {start level stop : Nat} {left right otherLeft otherRight : Doc} (between : Nat)
    (movedLeft : Translated amount start level between left otherLeft)
    (movedRight : Translated amount between level stop right otherRight) :
    Translated amount start level stop (.cat left right) (.cat otherLeft otherRight)
  | nest {start level stop inner : Nat} {more : Int} (nested : level + more = inner) {body other : Doc}
    (moved : Translated amount start inner stop body other) :
    Translated amount start level stop (.nest more body) (.nest more other)
  | union {start level stop : Nat} {flat broken otherFlat otherBroken : Doc}
    (movedFlat : Translated amount start level stop flat otherFlat)
    (movedBroken : Translated amount start level stop broken otherBroken) :
    Translated amount start level stop (.union flat broken) (.union otherFlat otherBroken)
  | column {start level stop : Nat} {body other : Nat → Doc}
    (moved : ∀ column ≤ start,
      Translated amount column level stop (body column) (other (column + amount))) :
    Translated amount start level stop (.column body) (.column other)
  | nesting {start level stop : Nat} (word : level + amount < UInt64.size / 2)
    {body other : Int → Doc}
    (moved : Translated amount start level stop (body level) (other (level + amount))) :
    Translated amount start level stop (.nesting body) (.nesting other)
  | styled {start level stop : Nat} (change : Change) {body other : Doc}
    (moved : Translated amount start level stop body other) :
    Translated amount start level stop (.styled change body) (.styled change other)

namespace Doc.Translated
variable {amount start level stop : Nat} {doc other : Doc}

/-- Documents that are laid out alike are so on one line too. -/
theorem flatten (moved : Translated amount start level stop doc other) :
    Translated amount start level stop doc.flatten other.flatten := by
  induction moved with
  | fail =>
    rw [flatten_fail]
    exact .fail
  | empty ends =>
    rw [flatten_empty]
    exact .empty ends
  | literal piece ends =>
    rw [flatten_literal]
    exact .literal piece ends
  | newline ends word =>
    rw [flatten_newline]
    exact .fail
  | flatAlt moved movedFlat ih ihFlat =>
    rw [flatten_flatAlt, flatten_flatAlt]
    exact movedFlat
  | cat between movedLeft movedRight ihLeft ihRight =>
    rw [flatten_cat, flatten_cat]
    exact .cat between ihLeft ihRight
  | nest nested moved ih =>
    rw [flatten_nest, flatten_nest]
    exact .nest nested ih
  | union movedFlat movedBroken ihFlat ihBroken =>
    rw [flatten_union, flatten_union]
    exact ihFlat
  | column moved ih =>
    rw [flatten_column, flatten_column]
    exact .column ih
  | nesting word moved ih =>
    rw [flatten_nesting, flatten_nesting]
    exact .nesting word ih
  | styled change moved ih =>
    rw [flatten_styled, flatten_styled]
    exact .styled change ih

theorem group (moved : Translated amount start level stop doc other) :
    Translated amount start level stop doc.group other.group := .union moved.flatten moved

/-- On the wider page the second document has the layout of the first, moved along, if that is so of
what comes after them. -/
theorem layoutThen_widened (moved : Translated amount start level stop doc other) {page : Page}
    (small : page.width.toNat + amount < UInt64.size / 2) {rest restMoved : Cursor → List Token}
    (after : ∀ ended : Cursor, ended.column ≤ stop →
      restMoved (ended.indented amount) = (rest ended).map (Token.indented amount))
    (cursor : Cursor) (starts : cursor.column ≤ start) :
    other.layoutThen (page.widened amount) (.ofNat (level + amount)) restMoved
        (cursor.indented amount) =
      (doc.layoutThen page (.ofNat level) rest cursor).map (Token.indented amount) := by
  induction moved generalizing rest restMoved cursor with
  | fail => rfl
  | empty ends => exact after cursor (Nat.le_trans starts ends)
  | literal piece ends =>
    have within := Nat.le_trans (Nat.add_le_add_right starts piece.width) ends
    exact Token.andThen_indented amount (.text piece) cursor (after _ within)
  | @newline start level stop ends word =>
    -- A level beyond the words would come out to the left of the page.
    rw [layoutThen, layoutThen, Int64.toNatClampNeg_ofNat_of_lt word,
      Int64.toNatClampNeg_ofNat_of_lt (Nat.lt_of_le_of_lt (Nat.le_add_right _ _) word)]
    exact Token.andThen_indented amount (.line level) cursor (after _ ends)
  | flatAlt moved movedFlat ih ihFlat => exact ih after cursor starts
  | cat between movedLeft movedRight ihLeft ihRight =>
    exact ihLeft (fun ended within => ihRight after ended within) cursor starts
  | @nest start level stop inner more nested body other moved ih =>
    have under : (.ofNat level : Int64) + .ofInt more = .ofNat inner := by
      rw [← Int64.ofInt_eq_ofNat, ← Int64.ofInt_eq_ofNat, ← Int64.ofInt_add, nested]
    have underMoved : (.ofNat (level + amount) : Int64) + .ofInt more = .ofNat (inner + amount) := by
      rw [← Int64.ofInt_eq_ofNat, ← Int64.ofInt_eq_ofNat, ← Int64.ofInt_add]
      congr 1
      omega
    rw [layoutThen, layoutThen, under, underMoved]
    exact ih after cursor starts
  | union movedFlat movedBroken ihFlat ihBroken =>
    -- The flat layouts are the same but for their place, and so is what there is room for.
    simp only [layoutThen, ihFlat after cursor starts, ihBroken after cursor starts,
      Page.fits_widened small]
    split <;> rfl
  | column moved ih => exact ih cursor.column starts after cursor (Nat.le_refl _)
  | nesting word moved ih =>
    rw [layoutThen, layoutThen, Int64.toInt_ofNat_of_lt word,
      Int64.toInt_ofNat_of_lt (Nat.lt_of_le_of_lt (Nat.le_add_right _ _) word)]
    exact ih after cursor starts
  | styled change moved ih =>
    refine Token.andThen_indented amount (.format (cursor.style.codesFor change)) cursor ?_
    refine ih (fun ended within => ?_) _ starts
    exact Token.andThen_indented amount (.format cursor.style.codes) ended (after _ within)

/-- What is aligned stands at the level of its column, whatever the level around it. -/
theorem align (word : level + amount < UInt64.size / 2)
    (moved : ∀ column ≤ start, Translated amount column column stop doc other) :
    Translated amount start level stop doc.align other.align := by
  refine .column fun column within => .nesting word ?_
  have same : ((column + amount : Nat) : Int) - (level + amount) = column - level := by omega
  rw [same]
  exact .nest (by omega) (moved column within)

theorem text {content : String} (ends : start + Text.displayWidth content ≤ stop) :
    Translated amount start level stop (.text content) (.text content) := by
  unfold Doc.text
  split
  · exact .empty (by omega)
  · exact .literal _ ends

theorem spaces {count : Nat} (ends : start + count ≤ stop) :
    Translated amount start level stop (.spaces count) (.spaces count) :=
  .text (by rwa [Text.displayWidth_spaces])

end Doc.Translated

/-- The columns that documents ask for together. -/
def Doc.totalColumns (columns : Doc → Nat) : List Doc → Nat
  | [] => 0
  | doc :: docs => columns doc + totalColumns columns docs

/-- A document put together by combinators that see of a place no more than how far it is from another
one, and that indent to the right only. It asks for no more than so many columns: those of its texts,
and those by which it is indented and padded. -/
inductive Doc.Movable : (columns : Nat) → Doc → Prop where
  | text (content : String) : Movable (Text.displayWidth content) (.text content)
  | empty : Movable 0 .empty
  | hardline : Movable 0 .newline
  | line : Movable 1 .line
  | linebreak : Movable 0 .linebreak
  | softline : Movable 1 .softline
  | softbreak : Movable 0 .softbreak
  | flatAlt {columns : Nat} {broken flat : Doc} (movable : Movable columns broken)
    (movableFlat : Movable columns flat) : Movable columns (.flatAlt broken flat)
  | beside {columns columnsRight : Nat} {left right : Doc} (movableLeft : Movable columns left)
    (movableRight : Movable columnsRight right) : Movable (columns + columnsRight) (left + right)
  | nest {columns : Nat} (amount : Nat) {body : Doc} (movable : Movable columns body) :
    Movable (amount + columns) (.nest amount body)
  | hang {columns : Nat} (amount : Nat) {body : Doc} (movable : Movable columns body) :
    Movable (amount + columns) (.hang amount body)
  | group {columns : Nat} {body : Doc} (movable : Movable columns body) :
    Movable columns (.group body)
  | styled {columns : Nat} (change : Change) {body : Doc} (movable : Movable columns body) :
    Movable columns (.styled change body)
  | align {columns : Nat} {body : Doc} (movable : Movable columns body) :
    Movable columns (.align body)
  | indent {columns : Nat} (amount : Nat) {body : Doc} (movable : Movable columns body) :
    Movable (amount + columns) (.indent amount body)
  | encloseSep {columnsLeft columnsRight columnsSeparator : Nat} {left right separator : Doc}
    {docs : List Doc} (columns : Doc → Nat) (movableLeft : Movable columnsLeft left)
    (movableRight : Movable columnsRight right)
    (movableSeparator : Movable columnsSeparator separator)
    (movable : ∀ doc ∈ docs, Movable (columns doc) doc) :
    Movable (columnsLeft + totalColumns (columnsSeparator + columns ·) docs + columnsRight)
      (.encloseSep left right separator docs)
  | fill {columns : Nat} (target : Nat) {body : Doc} (movable : Movable columns body) :
    Movable (columns + target) (.fill target body)
  | fillBreak {columns : Nat} (target : Nat) {body : Doc} (movable : Movable columns body) :
    Movable (columns + target) (.fillBreak target body)
  | atMost {columns more : Nat} (le : columns ≤ more) {body : Doc} (movable : Movable columns body) :
    Movable more body

/-- At every level a document is laid out as it is so many columns further right, if the columns that it
asks for go no further than a word. -/
structure Doc.Moves (amount columns : Nat) (doc : Doc) : Prop where
  translated {start level stop : Nat} : start + columns ≤ stop → level + columns ≤ stop →
    stop + amount < UInt64.size / 2 → Translated amount start level stop doc doc

namespace Doc.Moves
variable {amount columns columnsOther : Nat} {doc other : Doc}

theorem of_le (moves : doc.Moves amount columns) (le : columns ≤ columnsOther) :
    doc.Moves amount columnsOther :=
  ⟨fun starts levels word => moves.translated (by omega) (by omega) word⟩

theorem text (content : String) : (Doc.text content).Moves amount (Text.displayWidth content) :=
  ⟨fun starts _ _ => .text starts⟩

theorem spaces (count : Nat) : (Doc.spaces count).Moves amount count :=
  ⟨fun starts _ _ => .spaces starts⟩

theorem empty : Doc.empty.Moves amount 0 := ⟨fun starts _ _ => .empty starts⟩

theorem newline : Doc.newline.Moves amount 0 := ⟨fun _ levels word => .newline levels (by omega)⟩

theorem flatAlt (moves : doc.Moves amount columns) (movesOther : other.Moves amount columns) :
    (Doc.flatAlt doc other).Moves amount columns :=
  ⟨fun starts levels word =>
    .flatAlt (moves.translated starts levels word) (movesOther.translated starts levels word)⟩

theorem line : Doc.line.Moves amount 1 := (newline.of_le (Nat.zero_le 1)).flatAlt (text " ")

theorem linebreak : Doc.linebreak.Moves amount 0 := newline.flatAlt empty

theorem beside (moves : doc.Moves amount columns) (movesOther : other.Moves amount columnsOther) :
    (doc + other).Moves amount (columns + columnsOther) := by
  refine ⟨@fun start level stop starts levels word => .cat (stop - columnsOther) ?_ ?_⟩
  · exact moves.translated (by omega) (by omega) (by omega)
  · exact movesOther.translated (by omega) (by omega) word

theorem group (moves : doc.Moves amount columns) : doc.group.Moves amount columns :=
  ⟨fun starts levels word => (moves.translated starts levels word).group⟩

theorem styled (change : Change) (moves : doc.Moves amount columns) :
    (Doc.styled change doc).Moves amount columns :=
  ⟨fun starts levels word => .styled change (moves.translated starts levels word)⟩

theorem nest (more : Nat) (moves : doc.Moves amount columns) :
    (Doc.nest more doc).Moves amount (more + columns) :=
  ⟨fun starts levels word => .nest rfl (moves.translated (by omega) (by omega) word)⟩

/-- What is aligned stands at the level of its column, and the column is further right too. -/
theorem align (moves : doc.Moves amount columns) : doc.align.Moves amount columns := by
  refine ⟨fun starts levels word => .align (by omega) fun column within => ?_⟩
  exact moves.translated (by omega) (by omega) word

/-- The first line is indented by spaces, and the others by their level. -/
theorem indent (more : Nat) (moves : doc.Moves amount columns) :
    (Doc.indent more doc).Moves amount (more + columns) := by
  refine ⟨fun starts levels word => .align (by omega) fun column within => .nest rfl ?_⟩
  refine .cat (column + more) (.spaces (Nat.le_refl _)) ?_
  exact moves.translated (by omega) (by omega) word

/-- A width is a distance between two columns, which is the same further right. -/
theorem width (moves : doc.Moves amount columns) {after : Nat → Doc}
    (movesAfter : ∀ taken, (after taken).Moves amount columnsOther) :
    (doc.width after).Moves amount (columns + columnsOther) := by
  refine ⟨@fun start level stop starts levels word => .column fun column within =>
    .cat (stop - columnsOther) ?_ (.column fun ended before => ?_)⟩
  · exact moves.translated (by omega) (by omega) (by omega)
  · rw [Nat.add_sub_add_right]
    exact (movesAfter _).translated (by omega) (by omega) word

theorem joinWith_aboveBreak_cons {docs : List Doc} (moves : doc.Moves amount columns)
    (movesOthers : (joinWith aboveBreak docs).Moves amount columnsOther) :
    (joinWith aboveBreak (doc :: docs)).Moves amount (columns + columnsOther) := by
  cases docs with
  | nil => exact moves.of_le (Nat.le_add_right _ _)
  | cons next docs => exact (moves.beside linebreak).beside movesOthers

theorem joinWith_aboveBreak {columns : Doc → Nat} {docs : List Doc} (entry : Doc → Doc)
    (moves : ∀ doc ∈ docs, (entry doc).Moves amount (columns doc)) :
    (joinWith aboveBreak (docs.map entry)).Moves amount (totalColumns columns docs) := by
  induction docs with
  | nil => exact empty
  | cons doc docs ih =>
    obtain ⟨first, others⟩ := List.forall_mem_cons.mp moves
    exact joinWith_aboveBreak_cons first (ih others)

/-- A list in brackets is aligned with its first bracket, which is further right too. -/
theorem encloseSep {left right separator : Doc} {columnsLeft columnsRight columnsSeparator : Nat}
    (columns : Doc → Nat) (docs : List Doc) (movesLeft : left.Moves amount columnsLeft)
    (movesRight : right.Moves amount columnsRight)
    (movesSeparator : separator.Moves amount columnsSeparator)
    (moves : ∀ doc ∈ docs, doc.Moves amount (columns doc)) :
    (Doc.encloseSep left right separator docs).Moves amount
      (columnsLeft + totalColumns (columnsSeparator + columns ·) docs + columnsRight) := by
  match docs with
  | [] => exact movesLeft.beside movesRight
  | [only] =>
    have movesOnly := moves only List.mem_cons_self
    refine ((movesLeft.beside movesOnly).beside movesRight).of_le ?_
    simp only [totalColumns]
    omega
  | first :: second :: rest =>
    obtain ⟨movesFirst, movesOthers⟩ := List.forall_mem_cons.mp moves
    have others : (joinWith aboveBreak ((second :: rest).map (separator + ·))).Moves amount
        (totalColumns (columnsSeparator + columns ·) (second :: rest)) :=
      joinWith_aboveBreak (separator + ·) fun doc mem => movesSeparator.beside (movesOthers doc mem)
    have all := joinWith_aboveBreak_cons (movesLeft.beside movesFirst) others
    refine (all.group.beside movesRight).align.of_le ?_
    simp only [totalColumns]
    omega

end Doc.Moves

theorem Doc.Movable.moves {columns : Nat} {doc : Doc} (movable : doc.Movable columns)
    (amount : Nat) : doc.Moves amount columns := by
  induction movable with
  | text content => exact .text content
  | empty => exact .empty
  | hardline => exact .newline
  | line => exact .line
  | linebreak => exact .linebreak
  | softline => exact Moves.line.group
  | softbreak => exact Moves.linebreak.group
  | flatAlt movable movableFlat ih ihFlat => exact ih.flatAlt ihFlat
  | beside movableLeft movableRight ihLeft ihRight => exact ihLeft.beside ihRight
  | nest more movable ih => exact ih.nest more
  | hang more movable ih => exact (ih.nest more).align
  | group movable ih => exact ih.group
  | styled change movable ih => exact ih.styled change
  | align movable ih => exact ih.align
  | indent more movable ih => exact ih.indent more
  | encloseSep columns movableLeft movableRight movableSeparator movable ihLeft ihRight ihSeparator ih =>
    exact .encloseSep columns _ ihLeft ihRight ihSeparator ih
  | fill target movable ih =>
    refine ih.width fun taken => ?_
    split
    · exact Moves.empty.of_le (Nat.zero_le _)
    · exact (Moves.spaces _).of_le (Nat.sub_le _ _)
  | fillBreak target movable ih =>
    refine ih.width fun taken => ?_
    split
    · exact Moves.linebreak.nest target
    · exact (Moves.spaces _).of_le (Nat.sub_le _ _)
  | atMost le movable ih => exact ih.of_le le

/-- Indentation translates the layout. On a page that is wider by an amount, with the same ribbon, what
stands below a newline that is indented by the amount is laid out as it is on its own, with every line
further right by the amount. The page and the columns for which the document asks have to go no further
than a signed word, or a level would be negative on one of the pages. -/
theorem indentation_translates_layout (page : Page) (amount : Nat)
    (small : page.width.toNat + amount < UInt64.size / 2) {columns : Nat} (doc : Doc)
    (movable : doc.Movable columns) (word : columns + amount < UInt64.size / 2) :
    ((Doc.nest amount (.newline + doc)).render (page.widened amount)).tokens =
      .line amount :: (doc.render page).tokens.map (Token.indented amount) := by
  have level : (0 : Int64) + .ofInt amount = .ofNat (0 + amount) := by
    rw [Int64.ofInt_eq_ofNat, Int64.zero_add, Nat.zero_add]
  have start : Cursor.read {} (.line amount) = Cursor.indented amount {} := by
    simp only [Cursor.read, Cursor.indented, Nat.zero_add]
  have moved : Doc.Translated amount 0 0 columns doc doc :=
    (movable.moves amount).translated (by omega) (by omega) word
  have below : doc.layoutThen (page.widened amount) (.ofNat (0 + amount)) (fun _ => [])
      (Cursor.indented amount {}) = (doc.layoutThen page 0 (fun _ => []) {}).map
        (Token.indented amount) :=
    moved.layoutThen_widened small (fun _ _ => rfl) {} (Nat.le_refl 0)
  have indent : ((0 : Int64) + .ofInt amount).toNatClampNeg = amount := by
    rw [level, Nat.zero_add]
    exact Int64.toNatClampNeg_ofNat_of_lt (Nat.lt_of_le_of_lt (Nat.le_add_left _ _) word)
  rw [Doc.tokens_render, Doc.tokens_render, ← below, ← start]
  change Token.line ((0 : Int64) + .ofInt amount).toNatClampNeg ::
    doc.layoutThen _ ((0 : Int64) + .ofInt amount) _ (Cursor.read {} (.line _)) = _
  rw [indent, level]

/-- A list of a padded entry and a pair of words that may stand on two lines. -/
def inventory : Doc :=
  .encloseSep (.text "[") (.text "]") (.text ",")
    [.fill 3 (.text "a"), .hang 1 (.text "bb" + .softline + .text "c")]

theorem inventory_moves :
    6 + 4 < UInt64.size / 2 ∧ inventory.Movable 14 ∧ 14 + 4 < UInt64.size / 2 ∧
      ((Doc.nest 4 (.newline + inventory)).render (Page.widened ⟨6, 5, .smart⟩ 4)).tokens =
        .line 4 :: (inventory.render ⟨6, 5, .smart⟩).tokens.map (Token.indented 4) := by
  have entries : ∀ doc ∈ [Doc.fill 3 (.text "a"), .hang 1 (.text "bb" + .softline + .text "c")],
      doc.Movable 5 := by
    intro doc mem
    simp only [List.mem_cons, List.not_mem_nil, or_false] at mem
    rcases mem with rfl | rfl
    · exact .atMost (by decide) (.fill 3 (.text "a"))
    · exact .atMost (by decide) (.hang 1 (.beside (.beside (.text "bb") .softline) (.text "c")))
  have movable : inventory.Movable 14 :=
    .atMost (by decide) (.encloseSep (fun _ => 5) (.text "[") (.text "]") (.text ",") entries)
  exact ⟨by decide, movable, by decide,
    indentation_translates_layout ⟨6, 5, .smart⟩ 4 (by decide) inventory movable (by decide)⟩

/-- A newline aligned with the end of a text that ends at the column 2^63. -/
def outpost : Doc := .nest 9223372036854775806 .newline + .text "ab" + .align .newline

/-- The column is negative as a level, and so the line stands at the margin wherever the text is. -/
theorem outpost_stays_at_margin :
    let page : Page := ⟨1, 1, .pretty⟩
    page.width.toNat + 1 < UInt64.size / 2 ∧ outpost.Movable 9223372036854775808 ∧
      (outpost.render page).tokens =
        [.line 9223372036854775806, .text (.ofString "ab"), .line 0] ∧
      ((Doc.nest (1 : Nat) (.newline + outpost)).render (page.widened 1)).tokens =
        [.line 1, .line 9223372036854775807, .text (.ofString "ab"), .line 0] ∧
      ((Doc.nest (1 : Nat) (.newline + outpost)).render (page.widened 1)).tokens ≠
        .line 1 :: (outpost.render page).tokens.map (Token.indented 1) := by
  intro page
  have movable : outpost.Movable 9223372036854775808 :=
    .atMost (by decide)
      (.beside (.beside (.nest 9223372036854775806 .hardline) (.text "ab")) (.align .hardline))
  have alone : (outpost.render page).tokens =
      [.line 9223372036854775806, .text (.ofString "ab"), .line 0] := by
    rw [Doc.tokens_render]
    decide
  have moved : ((Doc.nest (1 : Nat) (.newline + outpost)).render (page.widened 1)).tokens =
      [.line 1, .line 9223372036854775807, .text (.ofString "ab"), .line 0] := by
    rw [Doc.tokens_render]
    decide
  refine ⟨by decide, movable, alone, moved, ?_⟩
  rw [moved, alone]
  decide

end Typeset
