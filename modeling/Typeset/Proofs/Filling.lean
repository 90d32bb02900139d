import Typeset.Proofs.Groups
import Typeset.Proofs.Phrases

/-! Lines filled with words. Between two words there is a choice, and a choice is tried with everything
that comes after it, later choices included. Yet only the next word counts: wherever that ends within
the line there may be a newline, which the later choices take if they have to. So words are put on lines
greedily, one at a time. -/
namespace Typeset

/-- How lines are filled: the columns of the page and of its ribbon, the indentation of all lines but
the first, and the spaces between two words of a line. -/
structure Filling where
  width : Nat
  ribbon : Nat
  indent : Nat
  gap : Nat

namespace Filling

/-- The words after a column of an indented line, put on lines greedily. A word stays on the line, after
the gap, if it ends there within the page and within the ribbon, and otherwise begins a new line. -/
def wordsFrom (filling : Filling) (lineIndent column : Nat) : List String → List Char
  | [] => []
  | word :: words =>
    let stop := column + filling.gap + Text.displayWidth word
    if stop ≤ min filling.width (filling.ribbon + lineIndent) then
      List.replicate filling.gap ' ' ++ word.toList ++ filling.wordsFrom lineIndent stop words
    else
      '\n' :: List.replicate filling.indent ' ' ++ word.toList ++
        filling.wordsFrom filling.indent (filling.indent + Text.displayWidth word) words

section

variable (filling : Filling) (lineIndent column : Nat) (word : String) (words : List String)

theorem wordsFrom_of_le (onLine : column + filling.gap + Text.displayWidth word ≤
      min filling.width (filling.ribbon + lineIndent)) :
    filling.wordsFrom lineIndent column (word :: words) =
      List.replicate filling.gap ' ' ++ word.toList ++
        filling.wordsFrom lineIndent (column + filling.gap + Text.displayWidth word) words :=
  if_pos onLine

theorem wordsFrom_of_not_le (beyond : ¬ column + filling.gap + Text.displayWidth word ≤
      min filling.width (filling.ribbon + lineIndent)) :
    filling.wordsFrom lineIndent column (word :: words) =
      '\n' :: List.replicate filling.indent ' ' ++ word.toList ++
        filling.wordsFrom filling.indent (filling.indent + Text.displayWidth word) words :=
  if_neg beyond

end

/-- Words put on lines greedily, the first of them at the start of a page. -/
def fill (filling : Filling) (first : String) (words : List String) : List Char :=
  first.toList ++ filling.wordsFrom 0 (Text.displayWidth first) words

end Filling

/-- The filling of the lines of a page. -/
def Page.filling (page : Page) (indent gap : Nat) : Filling :=
  { width := page.width.toNat, ribbon := page.ribbon.toNat, indent, gap }

namespace Doc

/-- A place between two words: so many spaces if what follows fits, and otherwise a newline. -/
def softGap (gap : Nat) : Doc := group (flatAlt newline (spaces gap))

/-- As many documents on a line as fit, with so many spaces between them. -/
def filled (gap : Nat) (docs : List Doc) : Doc :=
  joinWith (fun left right => left + softGap gap + right) docs

theorem fillSep_eq (docs : List Doc) : fillSep docs = filled 1 docs := rfl

theorem fillCat_eq (docs : List Doc) : fillCat docs = filled 0 docs := rfl

/-- The layout of words that follow another word. -/
def furtherWords (page : Page) (level : Int64) (gap : Nat) : List String → Cursor → List Token
  | [] => fun _ => []
  | word :: words =>
    (softGap gap).layoutThen page level
      ((text word).layoutThen page level (furtherWords page level gap words))

theorem layoutThen_filled (page : Page) (level : Int64) (gap : Nat) (first : String)
    (words : List String) :
    (filled gap ((first :: words).map text)).layoutThen page level (fun _ => []) =
      (text first).layoutThen page level (furtherWords page level gap words) := by
  induction words generalizing first with
  | nil => rfl
  | cons second words ih => rw [furtherWords, ← ih]; rfl

/-- The spaces are taken where they fit together with all that comes after them. -/
theorem layoutThen_softGap (page : Page) (level : Int64) (gap : Nat) (rest : Cursor → List Token)
    (cursor : Cursor) :
    let onLine := (Phrase.spaces gap).tokens cursor.style ++ rest (cursor.past gap)
    (softGap gap).layoutThen page level rest cursor =
      if page.fits cursor onLine then onLine
      else (Token.line level.toNatClampNeg).andThen rest cursor := by
  intro onLine
  have flat : (flatAlt newline (spaces gap)).flatten.layoutThen page level rest cursor = onLine := by
    rw [flatten_flatAlt, ← Phrase.doc_spaces, Phrase.layoutThen_doc, Phrase.width_spaces]
  simp only [softGap, group, layoutThen, flat]

end Doc

/-- What follows a word that ends at a point is filled greedily, and nothing in it makes the line end
later than the word does. -/
structure FilledFrom (page : Page) (filling : Filling) (words : List String) (cursor : Cursor)
    (tokens : List Token) : Prop where
  fits : LineFits (page.room cursor) tokens ↔ 0 ≤ page.room cursor
  spelled : spelling .bare tokens = filling.wordsFrom cursor.lineIndent cursor.column words
  indented : ∀ indent, .line indent ∈ tokens → indent = filling.indent

/-- There is room left of where the page or the ribbon ends. -/
theorem Page.room_nonneg_iff {page : Page} (small : page.width.toNat < UInt64.size / 2)
    (within : page.ribbon ≤ page.width) {cursor : Cursor}
    (right : cursor.lineIndent ≤ cursor.column) : 0 ≤ page.room cursor ↔
      cursor.column ≤ min page.width.toNat (page.ribbon.toNat + cursor.lineIndent) := by
  rw [room_eq small within right]
  omega

namespace FilledFrom

variable {page : Page} {indent gap : Nat} {words : List String} {cursor : Cursor}
  {tokens : List Token}

/-- Nothing follows the last word. -/
theorem nil : FilledFrom page (page.filling indent gap) [] cursor [] :=
  ⟨lineFits_nil _, rfl, fun _ none => absurd none List.not_mem_nil⟩

/-- The phrases before what follows a word have no newlines. -/
theorem indented_next {gapBefore word : Phrase} {style : Style}
    (filled : FilledFrom page (page.filling indent gap) words cursor tokens) {other : Nat}
    (isLine : .line other ∈ gapBefore.tokens style ++ (word.tokens style ++ tokens)) :
    other = indent :=
  filled.indented other (Phrase.mem_of_line_mem_append (Phrase.mem_of_line_mem_append isLine))

section

variable (small : page.width.toNat < UInt64.size / 2) (within : page.ribbon ≤ page.width)
  (word : String) (style : Style) (right : cursor.lineIndent ≤ cursor.column)
include small within right

/-- The next word fits with all that follows it exactly if there is room up to its own end. -/
theorem lineFits_next (filled : FilledFrom page (page.filling indent gap) words
      (cursor.past (gap + Text.displayWidth word)) tokens) :
    LineFits (page.room cursor)
        ((Phrase.spaces gap).tokens style ++ ((Phrase.text word).tokens style ++ tokens)) ↔
      0 ≤ page.room (cursor.past (gap + Text.displayWidth word)) := by
  have left : page.room (cursor.past (gap + Text.displayWidth word)) =
      page.room cursor - (gap + Text.displayWidth word : Nat) :=
    Page.room_further small within right _
  rw [Phrase.lineFits_tokens, Phrase.lineFits_tokens, Phrase.width_spaces, Phrase.width, Int.sub_sub,
    ← Int.natCast_add, ← left, filled.fits]

/-- The next word stays on the line where there is room for it. -/
theorem stay (room : 0 ≤ page.room (cursor.past (gap + Text.displayWidth word)))
    (filled : FilledFrom page (page.filling indent gap) words
      (cursor.past (gap + Text.displayWidth word)) tokens) :
    FilledFrom page (page.filling indent gap) (word :: words) cursor
      ((Phrase.spaces gap).tokens style ++ ((Phrase.text word).tokens style ++ tokens)) := by
  have onLine : cursor.column + gap + Text.displayWidth word ≤
      min page.width.toNat (page.ribbon.toNat + cursor.lineIndent) := by
    simpa [Nat.add_assoc] using
      (Page.room_nonneg_iff small within (Cursor.lineIndent_le_past right _)).mp room
  have line := (lineFits_next small within word style right filled).mpr room
  constructor
  case fits => exact ⟨LineFits.room_nonneg, fun _ => line⟩
  case spelled =>
    rw [(page.filling indent gap).wordsFrom_of_le cursor.lineIndent cursor.column word words onLine]
    simp [filled.spelled, Page.filling, Phrase.chars, Nat.add_assoc]
  case indented => exact fun other isLine => filled.indented_next isLine

/-- The next word begins a new line where there is no room for it. -/
theorem wrap (none : ¬ 0 ≤ page.room (cursor.past (gap + Text.displayWidth word)))
    (filled : FilledFrom page (page.filling indent gap) words
      ((cursor.read (.line indent)).past (Text.displayWidth word)) tokens) :
    FilledFrom page (page.filling indent gap) (word :: words) cursor
      (.line indent :: ((Phrase.text word).tokens style ++ tokens)) := by
  have beyond : ¬ cursor.column + gap + Text.displayWidth word ≤
      min page.width.toNat (page.ribbon.toNat + cursor.lineIndent) := by
    simpa [Nat.add_assoc] using
      none ∘ (Page.room_nonneg_iff small within (Cursor.lineIndent_le_past right _)).mpr
  constructor
  case fits => exact lineFits_line ..
  case spelled =>
    rw [(page.filling indent gap).wordsFrom_of_not_le cursor.lineIndent cursor.column word words
      beyond]
    simp [filled.spelled, Page.filling, Phrase.chars, Token.spelled, Cursor.read]
  case indented =>
    intro other isLine
    rcases List.mem_cons.mp isLine with same | inWord
    · cases same
      rfl
    · exact filled.indented other (Phrase.mem_of_line_mem_append inWord)

end

/-- Every layout of words after a word is filled, with the smart strategy if no line is indented. -/
theorem furtherWords (small : page.width.toNat < UInt64.size / 2) (within : page.ribbon ≤ page.width)
    (signed : indent < UInt64.size / 2) (margin : page.strategy = .smart → indent = 0)
    (words : List String) {cursor : Cursor} (right : cursor.lineIndent ≤ cursor.column) :
    FilledFrom page (page.filling indent gap) words cursor
      (Doc.furtherWords page (.ofNat indent) gap words cursor) := by
  induction words generalizing cursor with
  | nil => exact nil
  | cons word words ih =>
    let stop := cursor.past (gap + Text.displayWidth word)
    have stopRight : stop.lineIndent ≤ stop.column := Cursor.lineIndent_le_past right _
    have laidOut : ∀ start : Cursor, (Doc.text word).layoutThen page (.ofNat indent)
          (Doc.furtherWords page (.ofNat indent) gap words) start =
        (Phrase.text word).tokens start.style ++
          Doc.furtherWords page (.ofNat indent) gap words (start.past (Text.displayWidth word)) :=
      (Phrase.text word).layoutThen_doc page (.ofNat indent) _
    rw [Doc.furtherWords, Doc.layoutThen_softGap, laidOut, Cursor.past_past, Cursor.style_past]
    have verdict : page.fits cursor ((Phrase.spaces gap).tokens cursor.style ++
        ((Phrase.text word).tokens cursor.style ++
          Doc.furtherWords page (.ofNat indent) gap words stop)) = true ↔ 0 ≤ page.room stop := by
      rw [Page.fits_iff_of_margin small cursor,
        lineFits_next small within word cursor.style right (ih stopRight)]
      intro smart other isLine
      exact ((ih stopRight).indented_next isLine).trans (margin smart)
    by_cases room : 0 ≤ page.room stop
    · rw [if_pos (verdict.mpr room)]
      exact stay small within word cursor.style right room (ih stopRight)
    · rw [if_neg (room ∘ verdict.mp), Token.andThen, laidOut,
        Int64.toNatClampNeg_ofNat_of_lt signed]
      have below : (cursor.read (.line indent)).lineIndent ≤ (cursor.read (.line indent)).column :=
        Nat.le_refl indent
      exact wrap small within word cursor.style right room (ih (Cursor.lineIndent_le_past below _))

end FilledFrom

theorem Doc.displayable_softGap (gap : Nat) : (softGap gap).Displayable := by
  have blank : (Literal.ofString (String.ofList (List.replicate gap ' '))).IsOneLine := by
    simp [Literal.IsOneLine, Literal.isOneLine]
  exact (Displayable.newlineOr blank).group

section

variable (page : Page) (small : page.width.toNat < UInt64.size / 2)
  (within : page.ribbon ≤ page.width) {indent : Nat} (signed : indent < UInt64.size / 2)
  (base : page.strategy = .pretty ∨ indent = 0) (first : String) (words : List String)
  (oneLine : ∀ word ∈ first :: words, (Literal.ofString word).IsOneLine)
include small within signed base oneLine

theorem Doc.displays_filled (gap : Nat) :
    Displays ((Doc.nest indent (Doc.filled gap ((first :: words).map Doc.text))).render? page)
      ((page.filling indent gap).fill first words) := by
  let doc : Doc := .nest indent (.filled gap ((first :: words).map .text))
  let stop := Cursor.past {} (Text.displayWidth first)
  have displayable : doc.Displayable := by
    refine .nest _ (.joinWith (displayable_softGap gap) fun word member => ?_)
    obtain ⟨content, isWord, same⟩ := List.mem_map.mp member
    rw [← same]
    exact .text (oneLine content isWord)
  have tokens : (doc.render page).tokens = (Phrase.text first).tokens .plain ++
      furtherWords page (.ofNat indent) gap words stop := by
    rw [tokens_render, layoutThen, Int64.zero_add, Int64.ofInt_eq_ofNat, layoutThen_filled]
    exact (Phrase.text first).layoutThen_doc ..
  have margin : page.strategy = .smart → indent = 0 := by
    intro smart
    exact base.resolve_left (by simp [smart])
  have filled : FilledFrom page (page.filling indent gap) words stop _ :=
    .furtherWords small within signed margin words (Nat.zero_le _)
  have shown := displayable.displays_render page
  have column : stop.column = Text.displayWidth first := Nat.zero_add _
  rw [tokens, spelling_append, Phrase.spelling_tokens, filled.spelled, column] at shown
  exact shown

/-- Words fill lines greedily. Let words without newlines be put in a row, with spaces or with nothing
between them, and be indented by an amount. On a page with the pretty strategy, and with either strategy
if the amount is zero, they are rendered without an error, and what is displayed is the greedy filling:
each word stays on the line if it ends there within the page and the ribbon, and otherwise begins a new
line. The amount is a signed word. -/
theorem words_fill_lines_greedily :
    Displays ((Doc.nest indent (Doc.fillSep ((first :: words).map Doc.text))).render? page)
      ((page.filling indent 1).fill first words) ∧
    Displays ((Doc.nest indent (Doc.fillCat ((first :: words).map Doc.text))).render? page)
      ((page.filling indent 0).fill first words) := by
  constructor
  · rw [Doc.fillSep_eq]
    exact Doc.displays_filled page small within signed base first words oneLine 1
  · rw [Doc.fillCat_eq]
    exact Doc.displays_filled page small within signed base first words oneLine 0

end

/-- On ten columns of which eight are the ribbon, a line indented by two may hold ten. The empty word
takes a place of its own, and the long one is too wide for any. -/
theorem proverb_fills_lines :
    (10 : UInt64).toNat < UInt64.size / 2 ∧ (8 : UInt64) ≤ 10 ∧ 2 < UInt64.size / 2 ∧
      Displays ((Doc.nest 2 (Doc.fillSep (["many", "hands", "", "make", "lightestwork"].map
          Doc.text))).render? ⟨10, 8, .pretty⟩)
        "many\n  hands \n  make\n  lightestwork".toList := by
  have oneLine : ∀ word ∈ ["many", "hands", "", "make", "lightestwork"],
      (Literal.ofString word).IsOneLine := by
    simp [Literal.IsOneLine, Literal.isOneLine]
  have amount : 2 < UInt64.size / 2 := by decide
  have shown := (words_fill_lines_greedily ⟨10, 8, .pretty⟩ (by decide) (by decide) amount (.inl rfl)
    "many" ["hands", "", "make", "lightestwork"] oneLine).1
  have filled : (Page.filling ⟨10, 8, .pretty⟩ 2 1).fill "many"
      ["hands", "", "make", "lightestwork"] =
        "many\n  hands \n  make\n  lightestwork".toList := by decide
  rw [filled] at shown
  exact ⟨by decide, by decide, amount, shown⟩

end Typeset
