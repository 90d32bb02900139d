import Typeset.Doc.Lines
import Typeset.Proofs.AllBroken
import Typeset.Proofs.ForcedBreaks
import Typeset.Proofs.Groups
import Typeset.Proofs.Phrases

/-! Texts that hold newlines, and what becomes of them. A text is taken apart into its lines, which are
put in a row again; a layout writes a newline with its indentation between two of them, or a space where
all go on one line. In every case the text comes back with its newlines replaced. -/
namespace Typeset

namespace Text

/-- A text with other characters in place of every newline. -/
def replaceNewlines (new text : List Char) : List Char :=
  text.flatMap fun char => if char = '\n' then new else [char]

theorem replaceNewlines_newline (text : List Char) : replaceNewlines ['\n'] text = text := by
  induction text with
  | nil => rfl
  | cons char rest ih =>
    rw [replaceNewlines] at ih ⊢
    rw [List.flatMap_cons, ih]
    split <;> simp_all

/-- The first line of a text, and the others. -/
theorem exists_splitLines (text : List Char) : ∃ line lines, splitLines text = line :: lines :=
  List.exists_cons_of_ne_nil (splitLines_ne_nil text)

/-- Newlines are what stands between the lines of a text. -/
theorem replaceNewlines_eq (new : List Char) {text line : List Char} {lines : List (List Char)}
    (split : splitLines text = line :: lines) :
    replaceNewlines new text = line ++ lines.flatMap (new ++ ·) ∧
      lines.length = text.count '\n' := by
  induction text generalizing line lines with
  | nil =>
    cases split
    exact ⟨rfl, rfl⟩
  | cons char rest ih =>
    obtain ⟨next, others, splitRest⟩ := exists_splitLines rest
    obtain ⟨replaced, count⟩ := ih splitRest
    rw [replaceNewlines] at replaced ⊢
    rw [splitLines, splitRest] at split
    by_cases newline : char = '\n'
    · rw [if_pos newline] at split
      cases split
      simp [newline, replaced, count]
    · rw [if_neg newline] at split
      cases split
      simp [newline, replaced, count]

end Text

namespace Doc

variable (content : String)

/-- The lines of a text as phrases. -/
def linePhrases : List Phrase :=
  (Text.splitLines content.toList).map fun line => .text (String.ofList line)

theorem pieces_eq : pieces content = (linePhrases content).map Phrase.doc := by
  simp [pieces, linePhrases, Phrase.doc, Function.comp_def]

/-- There is a first line, and with other characters in place of the newlines before the others, the
lines are the text again. -/
theorem exists_linePhrases : ∃ first rest, linePhrases content = first :: rest ∧
    (∀ new, first.chars ++ rest.flatMap (fun phrase => new ++ phrase.chars) =
      Text.replaceNewlines new content.toList) ∧
    rest.length = content.toList.count '\n' := by
  obtain ⟨line, lines, split⟩ := Text.exists_splitLines content.toList
  refine ⟨.text (String.ofList line), lines.map fun line => .text (String.ofList line), ?_, ?_, ?_⟩
  · rw [linePhrases, split, List.map_cons]
  · intro new
    rw [(Text.replaceNewlines_eq new split).1]
    simp [Phrase.chars, List.flatMap_map]
  · rw [List.length_map, (Text.replaceNewlines_eq [] split).2]

theorem isOneLine_piece {line : List Char} (isLine : line ∈ Text.splitLines content.toList) :
    (Literal.ofString (String.ofList line)).IsOneLine := by
  have free := Text.newline_not_mem_splitLines content.toList line isLine
  simpa [Literal.IsOneLine, Literal.isOneLine] using free

theorem mapM_text? {lines : List (List Char)}
    (oneLine : ∀ line ∈ lines, (Literal.ofString (String.ofList line)).IsOneLine) :
    lines.mapM (fun line => text? (String.ofList line)) =
      .ok (lines.map fun line => text (String.ofList line)) := by
  induction lines with
  | nil => rfl
  | cons line lines ih =>
    rw [List.mapM_cons, text?_eq_ok _ (oneLine line List.mem_cons_self),
      ih fun other later => oneLine other (List.mem_cons_of_mem _ later)]
    rfl

/-- No line of a text is refused. -/
theorem mapM_text?_splitLines :
    (Text.splitLines content.toList).mapM (fun line => text? (String.ofList line)) =
      .ok (pieces content) :=
  mapM_text? fun _ isLine => isOneLine_piece content isLine

variable {separator : Doc}

/-- The lines of a text in a row, with separators that nothing can go wrong with. -/
theorem displayable_row (between : separator.Displayable) :
    (joinWith (fun left right => left + separator + right) (pieces content)).Displayable := by
  refine .joinWith between fun doc isPiece => ?_
  obtain ⟨line, isLine, rfl⟩ := List.mem_map.mp isPiece
  exact .text (isOneLine_piece content isLine)

/-- The lines of a text in a row, with separators that break, are spelt as the text, each newline being
followed by the indentation. -/
theorem spelling_layoutThen_row {page : Page}
    (breaks : separator.layoutThen page = newline.layoutThen page) (level : Int64) (cursor : Cursor) :
    spelling .bare ((joinWith (fun left right => left + separator + right)
      (pieces content)).layoutThen page level (fun _ => []) cursor) =
        Text.replaceNewlines ('\n' :: List.replicate level.toNatClampNeg ' ') content.toList := by
  obtain ⟨first, rest, phrases, replaced, -⟩ := exists_linePhrases content
  obtain ⟨stop, -, laidOut⟩ :=
    Phrase.layoutThen_stacked first rest breaks level (fun _ => []) cursor
  rw [pieces_eq, phrases, laidOut, List.append_nil, Phrase.spelling_stacked]
  exact replaced ('\n' :: List.replicate level.toNatClampNeg ' ')

theorem spelling_lines (page : Page) (cursor : Cursor) :
    spelling .bare ((lines content).layoutThen page 0 (fun _ => []) cursor) = content.toList :=
  (spelling_layoutThen_row content rfl 0 cursor).trans (Text.replaceNewlines_newline _)

/-- Documents in a row are broken one by one, and so are their separators. -/
theorem allBroken_joinWith (broken : separator.allBroken = newline) {docs : List Doc}
    (same : ∀ doc ∈ docs, doc.allBroken = doc) :
    (joinWith (fun left right => left + separator + right) docs).allBroken =
      joinWith atop docs := by
  induction docs with
  | nil => rfl
  | cons first rest ih =>
    have later := ih fun doc member => same doc (List.mem_cons_of_mem _ member)
    cases rest with
    | nil => exact same first List.mem_cons_self
    | cons second rest =>
      change Doc.cat (.cat first.allBroken separator.allBroken) (allBroken (joinWith _ _)) = _
      rw [same first List.mem_cons_self, broken, later]
      rfl

theorem allBroken_text (written : String) : (text written).allBroken = text written := by
  unfold text
  split <;> rfl

/-- Broken, the lines of a text have newlines between them. -/
theorem allBroken_row (broken : separator.allBroken = newline) :
    (joinWith (fun left right => left + separator + right) (pieces content)).allBroken =
      lines content := by
  refine allBroken_joinWith broken fun doc isPiece => ?_
  obtain ⟨line, -, rfl⟩ := List.mem_map.mp isPiece
  exact allBroken_text _

variable {content}

/-- Whatever comes to the lines of a text when it is broken is displayed as the text without a page. -/
theorem Displayable.displays_compact_text {doc : Doc} (displayable : doc.Displayable)
    (broken : doc.allBroken = lines content) : Displays doc.compact? content.toList := by
  have shown := displayable.displays_compact
  let page : Page := ⟨80, 80, .pretty⟩
  have spelt : spelling .bare doc.compact.tokens = content.toList := by
    rw [← tokens_render_allBroken page, broken, tokens_render]
    exact spelling_lines content page {}
  rwa [spelt] at shown

/-- A group around lines that newlines keep apart makes no difference. -/
theorem layoutThen_group_lines (content : String) (page : Page) :
    (lines content).group.layoutThen page = (lines content).layoutThen page := by
  obtain ⟨first, rest, phrases, -, -⟩ := exists_linePhrases content
  have row : lines content = joinWith atop ((first :: rest).map Phrase.doc) := by
    rw [← phrases, ← pieces_eq, lines]
  cases rest with
  | nil =>
    -- A single line is as flat as it is broken, so that it does not matter whether it fits.
    have flat : (lines content).flatten = lines content := by
      rw [row]
      exact first.flatten_doc
    funext level rest cursor
    rw [group, layoutThen, flat, ite_self]
  | cons second rest =>
    have fails : (lines content).flatten.FailsOnLine := by
      rw [row]
      change FailsOnLine (flatten (.cat (.cat first.doc newline) _))
      rw [flatten_cat, flatten_cat, flatten_newline, Phrase.flatten_doc]
      exact .left (.right first.lineless_doc .fail) _
    exact fails.layoutThen_group page

/-- A group around the lines of a text in a row is on one line if they fit it with a space between any
two of them. -/
theorem spelling_group_string (content : String) (page : Page) (cursor : Cursor) :
    spelling .bare ((string content).group.layoutThen page 0 (fun _ => []) cursor) =
      if (Phrase.totalWidth (linePhrases content) + content.toList.count '\n' : Nat) ≤
          page.room cursor then
        Text.replaceNewlines [' '] content.toList
      else content.toList := by
  obtain ⟨first, rest, phrases, replaced, count⟩ := exists_linePhrases content
  have flat : line.flatten = (Phrase.spaces 1).doc := flatten_flatAlt ..
  have row : string content = joinWith (fun left right => left + line + right)
      ((first :: rest).map Phrase.doc) := by
    rw [← phrases, ← pieces_eq, string]
    rfl
  have broken : spelling .bare (Phrase.stacked 0 cursor.style first rest) = content.toList := by
    rw [Phrase.spelling_stacked, ← Text.replaceNewlines_newline content.toList]
    exact replaced ['\n']
  have columns : ((Phrase.join (.spaces 1) first rest).beside (.text "")).width =
      Phrase.totalWidth (first :: rest) + content.toList.count '\n' := by
    simp [Phrase.width, Phrase.width_join, count]
  have chars : ((Phrase.join (.spaces 1) first rest).beside (.text "")).chars =
      Text.replaceNewlines [' '] content.toList := by
    rw [← replaced, Phrase.chars, Phrase.chars_join]
    exact List.append_nil _
  have laidOut := Phrase.layoutThen_group_row flat (rfl : line.layoutThen page = _) first rest
    (.text "") 0 (fun _ => []) cursor fun _ _ => rfl
  rw [phrases, row, laidOut, columns]
  split
  · rw [Phrase.spelling_tokens, chars]
  · rw [spelling_append, Phrase.spelling_tokens]
    exact (List.append_nil _).trans broken

/-- The lines of a text in a row are displayed as the text wherever they are broken: on every page with
the indentation after each newline, and without a page as they are. -/
structure Reproduces (doc : Doc) (content : String) : Prop where
  indented : ∀ (page : Page) (indent : Nat), indent < UInt64.size / 2 →
    Displays ((nest indent doc).render? page)
    (Text.replaceNewlines ('\n' :: List.replicate indent ' ') content.toList)
  compact : Displays doc.compact? content.toList
  compactGroup : Displays doc.group.compact? content.toList
  compactNest : ∀ amount, Displays (nest amount doc).compact? content.toList

theorem Reproduces.row (between : separator.Displayable)
    (breaks : ∀ page, separator.layoutThen page = newline.layoutThen page)
    (broken : separator.allBroken = newline) :
    (joinWith (fun left right => left + separator + right) (pieces content)).Reproduces content := by
  have displayable := displayable_row content between
  have allBroken := allBroken_row content broken
  constructor
  case indented =>
    intro page indent signed
    have shown := (displayable.nest indent).displays_render page
    rw [tokens_render, layoutThen, Int64.zero_add, Int64.ofInt_eq_ofNat,
      spelling_layoutThen_row content (breaks page), Int64.toNatClampNeg_ofNat_of_lt signed] at shown
    exact shown
  case compact => exact displayable.displays_compact_text allBroken
  case compactGroup => exact displayable.group.displays_compact_text allBroken
  case compactNest => exact fun amount => (displayable.nest amount).displays_compact_text allBroken

theorem displayable_lines (content : String) : (lines content).Displayable :=
  displayable_row content .newline

theorem displayable_string (content : String) : (string content).Displayable :=
  displayable_row content .line

end Doc

/-- Texts with newlines are reproduced. No line of a text is refused. With newlines between them the
lines are displayed as the text, on every page with the indentation after each newline, and without a
page as they are; that is so of newlines that a group could take away and of those that it could not. A
group around the latter changes nothing. A group around the former is displayed with a space for each
newline if the lines and the spaces fit the page and the ribbon, and otherwise as the text. -/
theorem texts_are_reproduced (content : String) :
    (Text.splitLines content.toList).mapM (fun line => Doc.text? (String.ofList line)) =
      .ok (Doc.pieces content) ∧
    (Doc.lines content).Reproduces content ∧ (Doc.string content).Reproduces content ∧
    (∀ page : Page, Displays ((Doc.lines content).group.render? page) content.toList) ∧
    ∀ page : Page, page.width.toNat < UInt64.size / 2 → page.ribbon ≤ page.width →
      let columns := Phrase.totalWidth (Doc.linePhrases content) + content.toList.count '\n'
      (columns ≤ min page.width.toNat page.ribbon.toNat →
        Displays ((Doc.string content).group.render? page)
          (Text.replaceNewlines [' '] content.toList)) ∧
      (¬ columns ≤ min page.width.toNat page.ribbon.toNat →
        Displays ((Doc.string content).group.render? page) content.toList) := by
  refine ⟨Doc.mapM_text?_splitLines content, .row .newline (fun _ => rfl) rfl, ?_, ?_, ?_⟩
  · exact .row .line (fun _ => rfl) rfl
  · intro page
    have shown := (Doc.displayable_lines content).group.displays_render page
    rwa [Doc.tokens_render, Doc.layoutThen_group_lines, Doc.spelling_lines] at shown
  · intro page small within columns
    have shown := (Doc.displayable_string content).group.displays_render page
    rw [Doc.tokens_render, Doc.spelling_group_string, Page.room_start small within] at shown
    constructor
    · intro fits
      rwa [if_pos (Int.ofNat_le.mpr fits)] at shown
    · intro overflows
      rwa [if_neg (overflows ∘ Int.ofNat_le.mp)] at shown

/-- A note of three lines, the second of them empty. -/
def note : String := "one\n\ntwo"

/-- The note takes eight columns on one line, with a space for each newline. -/
theorem note_is_reproduced :
    (8 : UInt64).toNat < UInt64.size / 2 ∧ (8 : UInt64) ≤ 8 ∧ (7 : UInt64) ≤ 8 ∧
      Displays ((Doc.nest 2 (.string note)).render? ⟨8, 7, .smart⟩) "one\n  \n  two".toList ∧
      Displays ((Doc.lines note).group.render? ⟨8, 8, .smart⟩) note.toList ∧
      Displays ((Doc.string note).group.render? ⟨8, 8, .smart⟩) "one  two".toList ∧
      Displays ((Doc.string note).group.render? ⟨8, 7, .pretty⟩) note.toList := by
  obtain ⟨-, -, reproduced, lines, grouped⟩ := texts_are_reproduced note
  have columns : Phrase.totalWidth (Doc.linePhrases note) + note.toList.count '\n' = 8 := by decide
  have onOneLine := (grouped ⟨8, 8, .smart⟩ (by decide) (by decide)).1
  have onMore := (grouped ⟨8, 7, .pretty⟩ (by decide) (by decide)).2
  rw [columns] at onOneLine onMore
  exact ⟨by decide, by decide, by decide, reproduced.indented ⟨8, 7, .smart⟩ 2 (by decide),
    lines ⟨8, 8, .smart⟩, onOneLine (by decide), onMore (by decide)⟩

end Typeset
