import Typeset.Proofs.Displayed
import Typeset.Proofs.Passages

/-! Phrases: texts, one after the other and in styles. A phrase is laid out in one way only. It stays on
its line, takes the columns of its texts, and leaves the style as it found it, so that a layout goes on
from a point that is known. Phrases in a row, with a phrase between them, are a phrase again; with
newlines between them they stand below each other. -/
namespace Typeset

/-- The point so many columns further on its line. -/
def Cursor.past (cursor : Cursor) (columns : Nat) : Cursor :=
  { cursor with column := cursor.column + columns }

namespace Cursor

variable (cursor : Cursor) (columns : Nat)

@[simp] theorem style_past : (cursor.past columns).style = cursor.style := rfl

@[simp] theorem lineIndent_past : (cursor.past columns).lineIndent = cursor.lineIndent := rfl

@[simp] theorem column_past : (cursor.past columns).column = cursor.column + columns := rfl

@[simp] theorem past_past (more : Nat) :
    (cursor.past columns).past more = cursor.past (columns + more) := by
  simp only [past, Nat.add_assoc]

/-- A point right of the indentation of its line has others right of it further on. -/
theorem lineIndent_le_past {cursor : Cursor} (right : cursor.lineIndent ≤ cursor.column)
    (columns : Nat) : (cursor.past columns).lineIndent ≤ (cursor.past columns).column :=
  Nat.le_trans right (Nat.le_add_right _ _)

end Cursor

/-- Texts, one after the other and in styles. -/
inductive Phrase where
  | text (content : String)
  | beside (left right : Phrase)
  | styled (change : Change) (body : Phrase)

namespace Phrase

def doc : Phrase → Doc
  | text content => .text content
  | beside left right => left.doc + right.doc
  | styled change body => .styled change body.doc

/-- The characters of the texts. -/
def chars : Phrase → List Char
  | text content => content.toList
  | beside left right => left.chars ++ right.chars
  | styled _ body => body.chars

/-- The columns that the texts take together. -/
def width : Phrase → Nat
  | text content => Text.displayWidth content
  | beside left right => left.width + right.width
  | styled _ body => body.width

/-- The layout of a phrase where a style is in effect. -/
def tokens : Phrase → Style → List Token
  | text content, _ => if content.isEmpty then [] else [.text (.ofString content)]
  | beside left right, style => left.tokens style ++ right.tokens style
  | styled change body, style =>
    .format (style.codesFor change) :: (body.tokens (style.apply change) ++ [.format style.codes])

theorem lineFits_tokens (phrase : Phrase) (style : Style) (room : Int) (rest : List Token) :
    LineFits room (phrase.tokens style ++ rest) ↔ LineFits (room - phrase.width) rest := by
  induction phrase generalizing style room rest with
  | text content =>
    simp only [tokens, width]
    split
    · rename_i isEmpty
      simp [String.isEmpty_iff.mp isEmpty]
    · simp
  | beside left right ihLeft ihRight =>
    rw [tokens, List.append_assoc, ihLeft, ihRight, width, Int.natCast_add, Int.sub_sub]
  | styled change body ih =>
    rw [tokens, List.cons_append, lineFits_format, List.append_assoc, ih, List.singleton_append,
      lineFits_format, width]

@[simp] theorem spelling_tokens (phrase : Phrase) (style : Style) :
    spelling .bare (phrase.tokens style) = phrase.chars := by
  induction phrase generalizing style with
  | text content =>
    rw [tokens, chars]
    split
    · rename_i isEmpty
      simp [String.isEmpty_iff.mp isEmpty]
    · simp [Token.spelled]
  | beside left right ihLeft ihRight => rw [tokens, spelling_append, ihLeft, ihRight, chars]
  | styled change body ih => simp [tokens, chars, ih]

/-- A phrase holds texts and codes, and so no newline. -/
theorem unbroken_tokens (phrase : Phrase) (style : Style) : Unbroken (phrase.tokens style) := by
  induction phrase generalizing style with
  | text content =>
    rw [tokens]
    split <;> simp [Unbroken, Token.isLine]
  | beside left right ihLeft ihRight =>
    exact List.forall_mem_append.mpr ⟨ihLeft style, ihRight style⟩
  | styled change body ih =>
    refine Unbroken.cons rfl (List.forall_mem_append.mpr ⟨ih _, ?_⟩)
    simp [Token.isLine]

theorem unfailing_tokens (phrase : Phrase) (style : Style) : .fail ∉ phrase.tokens style := by
  have line := (phrase.lineFits_tokens style phrase.width []).mpr (by simp)
  rw [List.append_nil, LineFits, (phrase.unbroken_tokens style).firstLine_eq] at line
  exact line.1

/-- A phrase ends its columns further on, in the style in which it starts. -/
theorem readAll_tokens (phrase : Phrase) (cursor : Cursor) :
    cursor.readAll (phrase.tokens cursor.style) = cursor.past phrase.width := by
  induction phrase generalizing cursor with
  | text content =>
    rw [tokens]
    split
    · rename_i isEmpty
      rw [String.isEmpty_iff.mp isEmpty]
      rfl
    · rfl
  | beside left right ihLeft ihRight =>
    have ends := ihRight (cursor.past left.width)
    rw [Cursor.style_past] at ends
    rw [tokens, Cursor.readAll_append, ihLeft, ends, Cursor.past_past, width]
  | styled change body ih =>
    have entered := cursor.read_codesFor change
    have ends := ih (cursor.read (.format (cursor.style.codesFor change)))
    rw [entered] at ends
    change (cursor.read _).readAll (body.tokens _ ++ [.format cursor.style.codes]) = _
    rw [Cursor.readAll_append, entered, ends]
    exact Cursor.read_codes _ cursor.style

/-- The passage of a phrase is its tokens, whatever comes after it. -/
theorem passage_doc (phrase : Phrase) (page : Page) (level : Int64) (rest : Cursor → List Token)
    (cursor : Cursor) : phrase.doc.passage page level rest cursor = phrase.tokens cursor.style := by
  induction phrase generalizing rest cursor with
  | text content =>
    rw [doc, Doc.text, tokens]
    split <;> rfl
  | beside left right ihLeft ihRight =>
    change continued (right.doc.passage page level rest) (left.doc.passage page level _ cursor) _ = _
    rw [ihLeft, continued_of_unfailing _ _ (left.unfailing_tokens _), ihRight, readAll_tokens,
      Cursor.style_past, tokens]
  | styled change body ih =>
    rw [doc, Doc.passage, ih, continued_of_unfailing _ _ (body.unfailing_tokens _),
      Cursor.read_codesFor, tokens]

/-- A phrase is laid out to its tokens, and what comes after it starts where its columns end. -/
theorem layoutThen_doc (phrase : Phrase) (page : Page) (level : Int64) (rest : Cursor → List Token)
    (cursor : Cursor) : phrase.doc.layoutThen page level rest cursor =
      phrase.tokens cursor.style ++ rest (cursor.past phrase.width) := by
  rw [Doc.layoutThen_eq_passage, passage_doc, continued_of_unfailing _ _ (phrase.unfailing_tokens _),
    readAll_tokens]

theorem mem_of_line_mem_append {phrase : Phrase} {style : Style} {indent : Nat}
    {tokens : List Token} (isLine : .line indent ∈ phrase.tokens style ++ tokens) :
    .line indent ∈ tokens := by
  rcases List.mem_append.mp isLine with inPhrase | later
  · exact absurd (phrase.unbroken_tokens style _ inPhrase) (by simp [Token.isLine])
  · exact later

/-- A phrase with nothing after it fits where there is room for its columns. -/
theorem fits_tokens_iff (phrase : Phrase) (style : Style) (page : Page) (cursor : Cursor) :
    page.fits cursor (phrase.tokens style) = true ↔ phrase.width ≤ page.room cursor := by
  rw [page.fits_unbroken_iff cursor (phrase.unbroken_tokens style)]
  have line := phrase.lineFits_tokens style (page.room cursor) []
  rw [List.append_nil, lineFits_nil] at line
  rw [line]
  omega

/-- A phrase is on one line already. -/
@[simp] theorem flatten_doc (phrase : Phrase) : phrase.doc.flatten = phrase.doc := by
  induction phrase with
  | text content => exact Doc.flatten_text content
  | beside left right ihLeft ihRight =>
    change Doc.flatten (.cat left.doc right.doc) = .cat left.doc right.doc
    rw [Doc.flatten_cat, ihLeft, ihRight]
  | styled change body ih => rw [doc, Doc.flatten_styled, ih]

/-- Nothing goes wrong with a phrase whose texts go on one line. -/
theorem displayable {phrase : Phrase} (oneLine : phrase.doc.Texts Literal.IsOneLine) :
    phrase.doc.Displayable := by
  refine ⟨?_, oneLine⟩
  clear oneLine
  induction phrase with
  | text content => exact .text content
  | beside left right ihLeft ihRight => exact .cat ihLeft ihRight
  | styled change body ih => exact .styled change ih

theorem lineless_doc (phrase : Phrase) : phrase.doc.Lineless := by
  induction phrase with
  | text content =>
    rw [doc, Doc.text]
    split <;> simp [Doc.Lineless, Doc.Every]
  | beside left right ihLeft ihRight => exact ⟨by simp, ihLeft, ihRight⟩
  | styled change body ih => exact ⟨by simp, ih⟩

/-- So many spaces. -/
def spaces (count : Nat) : Phrase := text (String.ofList (List.replicate count ' '))

@[simp] theorem doc_spaces (count : Nat) : (spaces count).doc = .spaces count := rfl

@[simp] theorem chars_spaces (count : Nat) : (spaces count).chars = List.replicate count ' ' :=
  String.toList_ofList

@[simp] theorem width_spaces (count : Nat) : (spaces count).width = count :=
  Text.displayWidth_spaces count

/-- Phrases in a row, with a phrase between them. -/
def join (gap : Phrase) : Phrase → List Phrase → Phrase
  | first, [] => first
  | first, second :: rest => beside (beside first gap) (join gap second rest)

/-- The columns that phrases take together. -/
def totalWidth : List Phrase → Nat
  | [] => 0
  | first :: rest => first.width + totalWidth rest

section

variable (gap first : Phrase) (rest : List Phrase)

theorem chars_join :
    (join gap first rest).chars = first.chars ++ rest.flatMap (gap.chars ++ chars ·) := by
  induction rest generalizing first with
  | nil => simp [join]
  | cons second rest ih => simp [join, chars, ih]

theorem width_join :
    (join gap first rest).width = totalWidth (first :: rest) + rest.length * gap.width := by
  induction rest generalizing first with
  | nil => simp [join, totalWidth]
  | cons second rest ih =>
    simp only [join, width, ih, totalWidth, List.length_cons, Nat.succ_mul]
    omega

/-- Phrases in a row are on one line what their separators are there. -/
theorem flatten_row {separator : Doc} (flat : separator.flatten = gap.doc) :
    (Doc.joinWith (fun left right => left + separator + right) ((first :: rest).map doc)).flatten =
      (join gap first rest).doc := by
  induction rest generalizing first with
  | nil => exact first.flatten_doc
  | cons second rest ih =>
    change Doc.flatten (.cat (.cat first.doc separator) (Doc.joinWith _ _)) = _
    rw [Doc.flatten_cat, Doc.flatten_cat, flatten_doc, flat, ih]
    rfl

end

/-- The tokens of phrases below each other, the first of them wherever it starts. -/
def stacked (indent : Nat) (style : Style) (first : Phrase) (rest : List Phrase) : List Token :=
  first.tokens style ++ rest.flatMap fun phrase => .line indent :: phrase.tokens style

section

variable (indent : Nat) (style : Style) (first : Phrase) (rest : List Phrase)

theorem stacked_cons (second : Phrase) : stacked indent style first (second :: rest) =
    first.tokens style ++ .line indent :: stacked indent style second rest := by
  simp [stacked]

theorem spelling_stacked : spelling .bare (stacked indent style first rest) =
    first.chars ++ rest.flatMap fun phrase =>
      '\n' :: (List.replicate indent ' ' ++ phrase.chars) := by
  induction rest generalizing first with
  | nil => simp [stacked]
  | cons second rest ih => simp [stacked_cons, Token.spelled, ih]

/-- Phrases with separators that break are laid out below each other, and the style is the same after
them. -/
theorem layoutThen_stacked {page : Page} {separator : Doc}
    (breaks : separator.layoutThen page = Doc.newline.layoutThen page) (level : Int64)
    (after : Cursor → List Token) (cursor : Cursor) :
    ∃ stop : Cursor, stop.style = cursor.style ∧
      (Doc.joinWith (fun left right => left + separator + right)
        ((first :: rest).map doc)).layoutThen page level after cursor =
          stacked level.toNatClampNeg cursor.style first rest ++ after stop := by
  induction rest generalizing first cursor with
  | nil =>
    refine ⟨cursor.past first.width, rfl, ?_⟩
    rw [stacked, List.flatMap_nil, List.append_nil]
    exact first.layoutThen_doc page level after cursor
  | cons second rest ih =>
    let below := (cursor.past first.width).read (.line level.toNatClampNeg)
    obtain ⟨stop, sameStyle, laidOut⟩ := ih second below
    refine ⟨stop, sameStyle, ?_⟩
    change first.doc.layoutThen page level (separator.layoutThen page level _) cursor = _
    rw [layoutThen_doc, breaks, stacked_cons, List.append_assoc, List.cons_append]
    exact congrArg (fun tokens => _ ++ .line level.toNatClampNeg :: tokens) laidOut

end

/-- A group of phrases in a row, with a phrase after it: all are on one line if they fit there together,
and otherwise the phrases of the group stand below each other. -/
theorem layoutThen_group_row {page : Page} {separator : Doc} {gap : Phrase}
    (flat : separator.flatten = gap.doc)
    (breaks : separator.layoutThen page = Doc.newline.layoutThen page) (first : Phrase)
    (rest : List Phrase) (ending : Phrase) (level : Int64) (after : Cursor → List Token)
    (cursor : Cursor)
    (ends : ∀ stop : Cursor, stop.style = cursor.style → after stop = ending.tokens cursor.style) :
    let row := Doc.joinWith (fun left right => left + separator + right) ((first :: rest).map doc)
    let onLine := (join gap first rest).beside ending
    row.group.layoutThen page level after cursor =
      if onLine.width ≤ page.room cursor then onLine.tokens cursor.style
      else stacked level.toNatClampNeg cursor.style first rest ++ ending.tokens cursor.style := by
  intro row onLine
  have flatTokens : row.flatten.layoutThen page level after cursor = onLine.tokens cursor.style := by
    rw [flatten_row gap first rest flat, layoutThen_doc, ends]
    · rfl
    · rfl
  obtain ⟨stop, sameStyle, brokenTokens⟩ := layoutThen_stacked first rest breaks level after cursor
  rw [ends stop sameStyle] at brokenTokens
  simp only [Doc.group, Doc.layoutThen, flatTokens, fits_tokens_iff]
  exact congrArg (ite _ _) brokenTokens

end Phrase

end Typeset
