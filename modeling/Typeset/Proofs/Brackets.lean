import Typeset.Doc.Enclose
import Typeset.Doc.Lines
import Typeset.Proofs.Algebra
import Typeset.Proofs.Groups
import Typeset.Proofs.JsonText
import Typeset.Proofs.Phrases

/-! Bracketed lists. A list of phrases between brackets has two layouts, on one line and with an item a
line, and which of them is taken depends on the line as a whole: what stands before the list counts, and
so do the closing bracket and the text after it, which are outside the group. -/
namespace Typeset

namespace Phrase

/-- The first item after the opening bracket. -/
abbrev opened (left first : Phrase) : Phrase := beside left first

/-- The other items, each after the separator. -/
def separated (separator : Phrase) (rest : List Phrase) : List Phrase := rest.map (beside separator)

section

variable (left right separator first second : Phrase) (others : List Phrase)

theorem totalWidth_separated (rest : List Phrase) : totalWidth (separated separator rest) =
    totalWidth rest + rest.length * separator.width := by
  induction rest with
  | nil => simp [separated, totalWidth]
  | cons item rest ih =>
    simp only [separated, List.map_cons, totalWidth, width, List.length_cons, Nat.succ_mul] at ih ⊢
    omega

/-- A bracketed list of phrases is a group of phrases in a row, and the closing bracket after it. -/
theorem encloseSep_eq : Doc.encloseSep left.doc right.doc separator.doc
    ((first :: second :: others).map doc) =
      ((Doc.joinWith (fun upper lower => upper + .linebreak + lower)
        ((opened left first :: separated separator (second :: others)).map doc)).group +
          right.doc).align := by
  simp only [List.map_cons, Doc.encloseSep, Doc.adjoin, Doc.vcat, separated, doc, List.map_map]
  rfl

/-- The layout of a bracketed list, with a text after it. -/
theorem layoutThen_encloseSep (page : Page) (level : Int64) (finish : String) {cursor : Cursor}
    (word : cursor.column < UInt64.size / 2) :
    let entries := separated separator (second :: others)
    let ending := beside right (.text finish)
    let onLine := (join (spaces 0) (opened left first) entries).beside ending
    (Doc.encloseSep left.doc right.doc separator.doc
      ((first :: second :: others).map doc)).layoutThen page level
        ((Doc.text finish).layoutThen page level fun _ => []) cursor =
      if onLine.width ≤ page.room cursor then onLine.tokens cursor.style
      else stacked cursor.column cursor.style (opened left first) entries ++
        ending.tokens cursor.style := by
  intro entries ending onLine
  have flat : Doc.linebreak.flatten = (spaces 0).doc := Doc.flatten_flatAlt ..
  have ends : ∀ stop : Cursor, stop.style = cursor.style →
      right.doc.layoutThen page (.ofNat cursor.column)
        ((Doc.text finish).layoutThen page level fun _ => []) stop = ending.tokens cursor.style := by
    intro stop sameStyle
    have finishes : (Doc.text finish).layoutThen page level (fun _ => []) (stop.past right.width) =
        (text finish).tokens stop.style ++ [] :=
      (text finish).layoutThen_doc ..
    rw [layoutThen_doc, finishes, List.append_nil, sameStyle]
    rfl
  have indent : (Int64.ofNat cursor.column).toNatClampNeg = cursor.column :=
    Int64.toNatClampNeg_ofNat_of_lt word
  rw [encloseSep_eq, Doc.layoutThen_align]
  refine (layoutThen_group_row flat rfl (opened left first) entries ending _ _ cursor ends).trans ?_
  rw [indent]

/-- The columns of a bracketed list on one line, with a text after it. -/
theorem width_onLine (finish : String) :
    ((join (spaces 0) (opened left first) (separated separator (second :: others))).beside
      (beside right (.text finish))).width =
    left.width + totalWidth (first :: second :: others) +
      ((first :: second :: others).length - 1) * separator.width + right.width +
      Text.displayWidth finish := by
  have entries := totalWidth_separated separator (second :: others)
  simp only [width, width_join, width_spaces, totalWidth, entries, List.length_cons,
    Nat.add_sub_cancel, Nat.mul_zero]
  omega

/-- On one line a bracketed list reads as its items with separators between them. -/
theorem chars_onLine (finish : String) :
    ((join (spaces 0) (opened left first) (separated separator (second :: others))).beside
      (beside right (.text finish))).chars =
    left.chars ++ separator.chars.intercalate ((first :: second :: others).map chars) ++
      right.chars ++ finish.toList := by
  rw [List.map_cons, Json.intercalate_cons_eq]
  simp [chars, chars_join, separated, List.flatMap_map]

/-- Otherwise its items are lines of their own. -/
theorem spelling_lines (finish : String) (indent : Nat) (style : Style) :
    spelling .bare (stacked indent style (opened left first)
        (separated separator (second :: others)) ++ (beside right (.text finish)).tokens style) =
      Text.joinLines ((left.chars ++ first.chars) :: (second :: others).map fun item =>
        List.replicate indent ' ' ++ separator.chars ++ item.chars) ++ right.chars ++
          finish.toList := by
  rw [Text.joinLines_cons, spelling_append, spelling_stacked, spelling_tokens]
  simp [chars, separated, List.flatMap_map]

end

end Phrase

/-- Nothing goes wrong with a bracketed list if nothing does with its parts. -/
theorem Doc.Displayable.encloseSep {left right separator first second : Doc} {others : List Doc}
    (displayableLeft : left.Displayable) (displayableRight : right.Displayable)
    (displayableSeparator : separator.Displayable)
    (each : ∀ doc ∈ first :: second :: others, doc.Displayable) :
    (Doc.encloseSep left right separator (first :: second :: others)).Displayable := by
  refine .align (.cat (.group (.joinWith .linebreak ?_)) displayableRight)
  intro doc member
  rcases List.mem_cons.mp member with rfl | later
  · exact .cat displayableLeft (each first List.mem_cons_self)
  · obtain ⟨item, isItem, rfl⟩ := List.mem_map.mp later
    exact .cat displayableSeparator (each item (List.mem_cons_of_mem _ isItem))

/-- Bracketed lists have exactly two layouts. Let a list have two items or more, and let them, the
brackets and the separator be phrases. On every page whose width counts as itself, and with either
strategy, the list between two texts is rendered without an error. If all of it fits the page and the
ribbon it is displayed on one line; and otherwise it has one line for each item, of which those after
the first begin with the separator below the opening bracket. The column of that bracket has to be a
signed word, as the columns of every text are that a memory holds. -/
theorem bracketed_lists_have_two_layouts (page : Page) (small : page.width.toNat < UInt64.size / 2)
    (within : page.ribbon ≤ page.width) (lead finish : String)
    (word : Text.displayWidth lead < UInt64.size / 2)
    (left right separator first second : Phrase) (others : List Phrase)
    (oneLine : ∀ phrase ∈ [.text lead, .text finish, left, right, separator] ++
      first :: second :: others, phrase.doc.Texts Literal.IsOneLine) :
    let items := first :: second :: others
    let doc : Doc := .text lead +
      .encloseSep left.doc right.doc separator.doc (items.map Phrase.doc) + .text finish
    let total := Text.displayWidth lead + left.width + Phrase.totalWidth items +
      (items.length - 1) * separator.width + right.width + Text.displayWidth finish
    (total ≤ min page.width.toNat page.ribbon.toNat →
      Displays (doc.render? page) (lead.toList ++ left.chars ++
        separator.chars.intercalate (items.map Phrase.chars) ++ right.chars ++ finish.toList)) ∧
    (¬ total ≤ min page.width.toNat page.ribbon.toNat →
      Displays (doc.render? page) (Text.joinLines ((lead.toList ++ left.chars ++ first.chars) ::
        (second :: others).map fun item => List.replicate (Text.displayWidth lead) ' ' ++
          separator.chars ++ item.chars) ++ right.chars ++ finish.toList)) := by
  intro items doc total
  let start := Cursor.past {} (Text.displayWidth lead)
  let entries := Phrase.separated separator (second :: others)
  let ending := Phrase.beside right (.text finish)
  let onLine := (Phrase.join (.spaces 0) (.opened left first) entries).beside ending
  have fits : onLine.width ≤ page.room start ↔ total ≤ min page.width.toNat page.ribbon.toNat := by
    have columns : total = Text.displayWidth lead + onLine.width := by
      simp only [total, items, onLine, entries, ending, Phrase.width_onLine]
      omega
    have further : page.room start = page.room {} - Text.displayWidth lead :=
      Page.room_further small within (Nat.le_refl 0) _
    rw [further, Page.room_start small within, columns]
    omega
  have tokens : (doc.render page).tokens = (Phrase.text lead).tokens .plain ++
      if onLine.width ≤ page.room start then onLine.tokens .plain
      else Phrase.stacked (Text.displayWidth lead) .plain (.opened left first) entries ++
        ending.tokens .plain := by
    have column : start.column = Text.displayWidth lead := Nat.zero_add _
    have list := Phrase.layoutThen_encloseSep left right separator first second others page 0 finish
      (column ▸ word)
    rw [Doc.tokens_render, ← column]
    exact ((Phrase.text lead).layoutThen_doc ..).trans (congrArg _ list)
  have displayable : doc.Displayable := by
    have phrases := fun phrase member => Phrase.displayable (oneLine phrase member)
    refine .cat (.cat (phrases (.text lead) (by simp)) ?_) (phrases (.text finish) (by simp))
    refine .encloseSep (phrases left (by simp)) (phrases right (by simp))
      (phrases separator (by simp)) fun item member => ?_
    have amongItems : item ∈ items.map Phrase.doc := member
    obtain ⟨phrase, isItem, rfl⟩ := List.mem_map.mp amongItems
    exact phrases phrase (List.mem_append.mpr (.inr isItem))
  have shown := displayable.displays_render page
  rw [tokens, spelling_append, Phrase.spelling_tokens] at shown
  constructor
  · intro onOneLine
    rw [if_pos (fits.mpr onOneLine), Phrase.spelling_tokens, Phrase.chars_onLine] at shown
    simpa [Phrase.chars, items] using shown
  · intro onMore
    rw [if_neg (onMore ∘ fits.mp), Phrase.spelling_lines] at shown
    simpa [Phrase.chars, Text.joinLines_cons] using shown

/-- Three words in brackets, one of them bold, assigned to a name. -/
def assignment : Doc :=
  .text "xs = " + .encloseSep (.text "[") (.text "]") (.text ",")
    [.text "one", .styled (.turn .bold true) (.text "two"), .text "six"] + .text ";"

/-- The assignment takes nineteen columns on one line. With one less on the ribbon it takes three
lines. -/
theorem assignment_has_two_layouts :
    Displays (assignment.render? ⟨19, 19, .smart⟩) "xs = [one,two,six];".toList ∧
      Displays (assignment.render? ⟨30, 18, .pretty⟩)
        "xs = [one\n     ,two\n     ,six];".toList := by
  have oneLine : ∀ phrase ∈ [Phrase.text "xs = ", .text ";", .text "[", .text "]", .text ","] ++
      [.text "one", .styled (.turn .bold true) (.text "two"), .text "six"],
        phrase.doc.Texts Literal.IsOneLine := by
    simp [Phrase.doc, Doc.text, Doc.Texts, Doc.Every, Literal.IsOneLine, Literal.isOneLine]
  have layouts := fun page small within => bracketed_lists_have_two_layouts page small within
    "xs = " ";" (by decide) (.text "[") (.text "]") (.text ",") (.text "one")
    (.styled (.turn .bold true) (.text "two")) [.text "six"] oneLine
  constructor
  · exact (layouts ⟨19, 19, .smart⟩ (by decide) (by decide)).1 (by decide)
  · exact (layouts ⟨30, 18, .pretty⟩ (by decide) (by decide)).2 (by decide)

end Typeset
