import Typeset.Proofs.Contexts
import Typeset.Proofs.Passages
import Typeset.Proofs.Phrases

/-! Second columns. A phrase that is padded to a width has the same passage wherever a layout comes to it:
its own tokens, and then spaces, or a newline where it is wider than that. What comes after it starts at
the column that the width leads to, whatever the indentation around it; an aligned document needs that
column only to go on with it on the next line, where the column is a level and so has to be a signed
word. -/
namespace Typeset

/-- Style codes take no columns. -/
theorem Cursor.column_readAll_codes (cursor : Cursor) {codes : List Token}
    (areCodes : ∀ token ∈ codes, token.isFormat = true) :
    (cursor.readAll codes).column = cursor.column := by
  induction codes generalizing cursor with
  | nil => rfl
  | cons token rest ih =>
    obtain ⟨isCodes, restCodes⟩ := List.forall_mem_cons.mp areCodes
    cases token with
    | format codes => exact ih (cursor.read (.format codes)) restCodes
    | text piece | line indent | fail => cases isCodes

namespace Phrase
variable (phrase : Phrase)

/-- What is given for the width of a phrase comes after it. -/
theorem passage_width (after : Nat → Doc) (page : Page) (level : Int64) (rest : Cursor → List Token)
    (cursor : Cursor) : (phrase.doc.width after).passage page level rest cursor =
      phrase.tokens cursor.style ++
        (after phrase.width).passage page level rest (cursor.past phrase.width) := by
  change continued (Doc.passage page (.column fun stop => after (stop - cursor.column)) level rest)
    (phrase.doc.passage page level _ cursor) cursor = _
  rw [passage_doc, continued_of_unfailing _ _ (phrase.unfailing_tokens _), readAll_tokens]
  change _ ++ (after (cursor.column + phrase.width - cursor.column)).passage page level rest _ = _
  rw [Nat.add_sub_cancel_left]

/-- The spaces that a phrase lacks of a width; none if it has it. -/
def padding (target : Nat) : Phrase := spaces (target - phrase.width)

theorem column_readAll_padded (target : Nat) (cursor : Cursor) :
    (cursor.readAll (phrase.tokens cursor.style ++
      (phrase.padding target).tokens cursor.style)).column = cursor.column + max target phrase.width := by
  have after := (phrase.beside (phrase.padding target)).readAll_tokens cursor
  rw [tokens] at after
  rw [after, Cursor.column_past, width, padding, width_spaces]
  omega

theorem passage_fill (target : Nat) (page : Page) (level : Int64) (rest : Cursor → List Token)
    (cursor : Cursor) : (phrase.doc.fill target).passage page level rest cursor =
      phrase.tokens cursor.style ++ (phrase.padding target).tokens cursor.style := by
  rw [Doc.fill, passage_width]
  split
  · rename_i wide
    rw [padding, Nat.sub_eq_zero_of_le wide]
    rfl
  · rw [← doc_spaces, passage_doc]
    rfl

theorem passage_fillBreak (target : Nat) (page : Page) (level : Int64) (rest : Cursor → List Token)
    (cursor : Cursor) : (phrase.doc.fillBreak target).passage page level rest cursor =
      phrase.tokens cursor.style ++
        if phrase.width ≤ target then (phrase.padding target).tokens cursor.style
        else [.line (level + .ofInt target).toNatClampNeg] := by
  rw [Doc.fillBreak, passage_width]
  by_cases narrow : phrase.width ≤ target
  · rw [if_neg (Nat.not_lt.mpr narrow), if_pos narrow, ← doc_spaces, passage_doc]
    rfl
  · rw [if_pos (Nat.lt_of_not_le narrow), if_neg narrow]
    rfl

end Phrase

namespace Doc

/-- The first leaf of a document is a text, on whichever side of a choice and whatever its functions are
given. -/
def BeginsWithText : Doc → Prop
  | .literal _ => True
  | .cat left right => left.BeginsWithText ∨ left = .empty ∧ right.BeginsWithText
  | .flatAlt body _ | .nest _ body | .styled _ body => body.BeginsWithText
  | .union flat broken => flat.BeginsWithText ∧ broken.BeginsWithText
  | .column body => ∀ start, (body start).BeginsWithText
  | .columns body => ∀ width, (body width).BeginsWithText
  | .nesting body => ∀ level, (body level).BeginsWithText
  | .fail | .empty | .newline | .restore _ => False

/-- Tokens that begin with a text, after style codes at most. -/
def TextFirst (tokens : List Token) : Prop :=
  ∃ codes piece later, tokens = codes ++ .text piece :: later ∧ ∀ token ∈ codes, token.isFormat = true

theorem TextFirst.append {tokens : List Token} (first : TextFirst tokens) (later : List Token) :
    TextFirst (tokens ++ later) := by
  obtain ⟨codes, piece, own, rfl, areCodes⟩ := first
  exact ⟨codes, piece, own ++ later, by simp, areCodes⟩

theorem TextFirst.continued {tokens : List Token} (first : TextFirst tokens)
    (after : Cursor → List Token) (cursor : Cursor) : TextFirst (continued after tokens cursor) := by
  rw [Typeset.continued]
  split
  · exact first
  · exact first.append _

theorem BeginsWithText.passage {doc : Doc} (begins : doc.BeginsWithText) (page : Page) (level : Int64)
    (rest : Cursor → List Token) (cursor : Cursor) :
    TextFirst (doc.passage page level rest cursor) := by
  induction doc generalizing level rest cursor with
  | fail | empty | newline | restore style => exact absurd begins id
  | literal piece => exact ⟨[], piece, [], rfl, by simp⟩
  | flatAlt broken flat ihBroken ihFlat => exact ihBroken begins level rest cursor
  | cat left right ihLeft ihRight =>
    rcases begins with begins | ⟨rfl, begins⟩
    · exact (ihLeft begins level _ cursor).continued _ cursor
    · exact ihRight begins level rest cursor
  | nest amount body ih => exact ih begins (level + .ofInt amount) rest cursor
  | union flat broken ihFlat ihBroken =>
    rw [Doc.passage]
    split
    · exact ihFlat begins.1 level rest cursor
    · exact ihBroken begins.2 level rest cursor
  | column body ih => exact ih _ (begins _) level rest cursor
  | columns body ih => exact ih _ (begins _) level rest cursor
  | nesting body ih => exact ih _ (begins _) level rest cursor
  | styled change body ih =>
    obtain ⟨codes, piece, later, passes, areCodes⟩ := (ih begins level _ _).continued _ _
    rw [Doc.passage, passes]
    exact ⟨_ :: codes, piece, later, rfl, List.forall_mem_cons.mpr ⟨rfl, areCodes⟩⟩

/-- After some tokens a layout comes to a part that begins with a text there, at a column. -/
def FirstTextAt (page : Page) (whole part : Doc) (before : List Token) (column : Nat) : Prop :=
  ∃ level rest codes piece later, whole.ComesTo page before part level rest ∧
    part.passage page level rest (pointAfter before) = codes ++ .text piece :: later ∧
    (∀ token ∈ codes, token.isFormat = true) ∧
    (pointAfter (before ++ codes)).column = column ∧
    before ++ codes ++ [.text piece] <+: (whole.render page).tokens

section
variable {page : Page} {whole part : Doc} {before : List Token} {level : Int64}
  {rest : Cursor → List Token}

/-- Where a layout comes to a part that begins with a text, the text starts right there. -/
theorem BeginsWithText.firstTextAt (begins : part.BeginsWithText)
    (comes : whole.ComesTo page before part level rest) {column : Nat}
    (starts : (pointAfter before).column = column) : whole.FirstTextAt page part before column := by
  obtain ⟨codes, piece, later, passes, areCodes⟩ := begins.passage page level rest (pointAfter before)
  refine ⟨level, rest, codes, piece, later, comes, passes, areCodes, ?_, ?_⟩
  · rw [pointAfter_append, Cursor.column_readAll_codes _ areCodes, starts]
  · have own := comes.passage_prefix
    rw [passes] at own
    exact List.IsPrefix.trans ⟨later, by simp⟩ own

/-- A layout that comes to two documents comes to the second one past the passage of the first. -/
theorem ComesTo.past {first second : Doc}
    (comes : whole.ComesTo page before (first + second) level rest) {own : List Token}
    (passes : first.passage page level (second.layoutThen page level rest) (pointAfter before) = own)
    (unfailing : .fail ∉ own) : whole.ComesTo page (before ++ own) second level rest := by
  subst passes
  exact comes.right unfailing

namespace Context

/-- The hole is in no group, and nothing that stands before it fails. -/
def Reached : Context → Prop
  | hole => True
  | catLeft left _ => left.Reached
  | catRight left right => left.Unfailing ∧ right.Reached
  | nest _ body | styled _ body | align body => body.Reached
  | group _ => False

/-- A layout that comes to a document around a hole comes to what is in the hole. -/
theorem Reached.comesTo {context : Context} (reached : context.Reached)
    (comes : whole.ComesTo page before (context.fill part) level rest) :
    ∃ before level rest, whole.ComesTo page before part level rest := by
  induction context generalizing before level rest with
  | hole => exact ⟨before, level, rest, comes⟩
  | catLeft left right ih => exact ih reached comes.left
  | catRight left right ih => exact ih reached.2 (comes.right (reached.1.passage page level _ _))
  | nest amount body ih => exact ih reached comes.nest
  | styled change body ih => exact ih reached comes.styled
  | group body ih => exact absurd reached id
  | align body ih => exact ih reached comes.align

end Context
end
end Doc

section
variable {page : Page} {whole rest : Doc} {before : List Token} {level : Int64}
  {following : Cursor → List Token} (phrase : Phrase) (target : Nat)

private theorem fill_lines_up (begins : rest.BeginsWithText)
    (comes : whole.ComesTo page before (.fill target phrase.doc + rest) level following) :
    whole.FirstTextAt page rest
      (before ++ (phrase.tokens (pointAfter before).style ++
        (phrase.padding target).tokens (pointAfter before).style))
      ((pointAfter before).column + max target phrase.width) := by
  refine begins.firstTextAt (comes.past (phrase.passage_fill target page level _ _) ?_) ?_
  · exact List.not_mem_append (phrase.unfailing_tokens _) ((phrase.padding target).unfailing_tokens _)
  · rw [pointAfter_append, phrase.column_readAll_padded]

private theorem fillBreak_lines_up (begins : rest.BeginsWithText)
    (word : phrase.width ≤ target ∨ (pointAfter before).column + target < UInt64.size / 2)
    (comes : whole.ComesTo page before (.align (.fillBreak target phrase.doc + rest)) level following) :
    whole.FirstTextAt page rest
      (before ++ (phrase.tokens (pointAfter before).style ++
        if phrase.width ≤ target then (phrase.padding target).tokens (pointAfter before).style
        else [.line ((pointAfter before).column + target)]))
      ((pointAfter before).column + target) := by
  refine begins.firstTextAt (comes.align.past ?_ ?_) ?_
  · rw [phrase.passage_fillBreak]
    by_cases narrow : phrase.width ≤ target
    · rw [if_pos narrow, if_pos narrow]
    · have level : (.ofNat (pointAfter before).column : Int64) + .ofInt target =
          .ofNat ((pointAfter before).column + target) := by
        rw [Int64.ofInt_eq_ofNat, ← Int64.ofNat_add]
      rw [if_neg narrow, if_neg narrow, level,
        Int64.toNatClampNeg_ofNat_of_lt (word.resolve_left narrow)]
  · split
    · exact List.not_mem_append (phrase.unfailing_tokens _) ((phrase.padding target).unfailing_tokens _)
    · exact List.not_mem_append (phrase.unfailing_tokens _) (by simp)
  · rw [pointAfter_append]
    split
    · rename_i narrow
      rw [phrase.column_readAll_padded, Nat.max_eq_left narrow]
    · rw [Cursor.readAll_append]
      rfl

end

/-- Padding lines up a second column. Wherever a layout comes to an aligned document of a phrase, padded to
a width or broken off, and of another one that begins with a text, that text starts at the width from the
column of the phrase: on the same line if the phrase is not wider, and past a single newline if it is.
The next line has to be indented by a signed word for that. Where the phrase is only padded, the text
starts at the width, or past the phrase if that is wider, on the same line. Whatever stands around them,
a layout comes to them if they are in no group and nothing before them fails. -/
theorem padding_lines_up_a_second_column (page : Page) (phrase : Phrase) (target : Nat) {rest : Doc}
    (begins : rest.BeginsWithText) :
    (∀ (whole : Doc) (before : List Token) (level : Int64) (following : Cursor → List Token),
      whole.ComesTo page before (.align (.fillBreak target phrase.doc + rest)) level following →
      (phrase.width ≤ target ∨ (pointAfter before).column + target < UInt64.size / 2) →
        let start := pointAfter before
        let own := phrase.tokens start.style
        let gap := if phrase.width ≤ target then (phrase.padding target).tokens start.style
          else [.line (start.column + target)]
        Unbroken own ∧ (phrase.width ≤ target → Unbroken gap) ∧
          whole.FirstTextAt page rest (before ++ (own ++ gap)) (start.column + target)) ∧
    (∀ (whole : Doc) (before : List Token) (level : Int64) (following : Cursor → List Token),
      whole.ComesTo page before (.fill target phrase.doc + rest) level following →
        let start := pointAfter before
        let own := phrase.tokens start.style
        let gap := (phrase.padding target).tokens start.style
        Unbroken (own ++ gap) ∧
          whole.FirstTextAt page rest (before ++ (own ++ gap))
            (start.column + max target phrase.width)) ∧
    ∀ context : Doc.Context, context.Reached → ∀ part, ∃ before level following,
      (context.fill part).ComesTo page before part level following := by
  refine ⟨?_, ?_, ?_⟩
  · intro whole before level following comes word start own gap
    refine ⟨phrase.unbroken_tokens _, fun narrow => ?_,
      fillBreak_lines_up phrase target begins word comes⟩
    rw [show gap = (phrase.padding target).tokens start.style from if_pos narrow]
    exact (phrase.padding target).unbroken_tokens _
  · intro whole before level following comes start own gap
    have unbroken := (phrase.beside (phrase.padding target)).unbroken_tokens start.style
    exact ⟨unbroken, fill_lines_up phrase target begins comes⟩
  · intro context reached part
    exact reached.comesTo .whole

/-- What a word means, in gray. -/
def meaning : Doc := .styled (.colour (some .gray)) (.literal (.ofString "sense"))

/-- A word in bold with its meaning in a second column. -/
def Phrase.glossed (word : Phrase) : Doc := .align (.fillBreak 3 word.doc + meaning)

/-- The second line of a list, less indented than the first one. -/
def secondLine : Doc.Context :=
  .catRight (.cat (.literal (.ofString "list")) .newline)
    (.nest (-1) (.catRight (.literal (.ofString "- ")) .hole))

theorem meanings_line_up :
    let page : Page := ⟨80, 80, .smart⟩
    let before : List Token := [.text (.ofString "list"), .line 0, .text (.ofString "- ")]
    let short := Phrase.styled (.turn .bold true) (.text "to")
    let long := Phrase.styled (.turn .bold true) (.text "word")
    meaning.BeginsWithText ∧ secondLine.Reached ∧
      (∀ word : Phrase, (secondLine.fill word.glossed).ComesTo page before word.glossed (-1)
        fun _ => []) ∧
      (secondLine.fill short.glossed).FirstTextAt page meaning
        (before ++ (short.tokens .plain ++ [.text (.ofString " ")])) 5 ∧
      (secondLine.fill long.glossed).FirstTextAt page meaning
        (before ++ (long.tokens .plain ++ [.line 5])) 5 ∧
      ∃ before level following, (secondLine.fill meaning).ComesTo page before meaning level following := by
  intro page before short long
  have begins : meaning.BeginsWithText := trivial
  have reached : secondLine.Reached := by
    simp [secondLine, Doc.Context.Reached, Doc.Unfailing, Doc.Every]
  have comes (word : Phrase) : (secondLine.fill word.glossed).ComesTo page before word.glossed (-1)
      fun _ => [] := by
    have atStart : (secondLine.fill word.glossed).ComesTo page [] (secondLine.fill word.glossed) 0
      fun _ => [] := .whole
    have below := atStart.right (reached.1.passage page _ _ _)
    exact below.nest.right (reached.2.1.passage page _ _ _)
  refine ⟨begins, reached, comes, ?_, ?_, ?_⟩
  · exact ((padding_lines_up_a_second_column page short 3 begins).1 _ _ _ _ (comes short)
      (.inl (by decide))).2.2
  · exact ((padding_lines_up_a_second_column page long 3 begins).1 _ _ _ _ (comes long)
      (.inr (by decide))).2.2
  · exact (padding_lines_up_a_second_column page short 3 begins).2.2 secondLine reached meaning

/-- Two letters that are broken off at the column 2^63, with a letter after them. -/
def farEntry : Doc :=
  .cat (.nest 9223372036854775807 .newline)
    (.cat (.literal (.ofString "a"))
      (.align (.fillBreak 1 (Phrase.text "bb").doc + .literal (.ofString "c"))))

/-- The column is negative as a level, so that the last letter stands at the margin. -/
theorem farEntry_is_not_lined_up :
    let page : Page := ⟨80, 80, .pretty⟩
    let rest : Doc := .literal (.ofString "c")
    let before : List Token := [.line 9223372036854775807, .text (.ofString "a")]
    let start := pointAfter before
    rest.BeginsWithText ∧
      (∃ level following, farEntry.ComesTo page before
        (.align (.fillBreak 1 (Phrase.text "bb").doc + rest)) level following) ∧
      start.column = 9223372036854775808 ∧
      (farEntry.render page).tokens = [.line 9223372036854775807, .text (.ofString "a"),
        .text (.ofString "bb"), .line 0, .text (.ofString "c")] ∧
      ¬ farEntry.FirstTextAt page rest
        (before ++ ((Phrase.text "bb").tokens start.style ++ [.line (start.column + 1)]))
        (start.column + 1) := by
  intro page rest before start
  have tokens : (farEntry.render page).tokens = [.line 9223372036854775807, .text (.ofString "a"),
      .text (.ofString "bb"), .line 0, .text (.ofString "c")] := by
    rw [Doc.tokens_render]
    decide
  have comes : ∃ level following, farEntry.ComesTo page before
      (.align (.fillBreak 1 (Phrase.text "bb").doc + rest)) level following := by
    have atStart : farEntry.ComesTo page [] farEntry 0 fun _ => [] := .whole
    have below := atStart.right (by decide)
    exact ⟨_, _, below.right (by decide)⟩
  refine ⟨trivial, comes, by decide, tokens, ?_⟩
  rintro ⟨_, _, codes, piece, _, -, -, -, -, shown⟩
  rw [tokens] at shown
  simp [before, start, Phrase.tokens, pointAfter, Cursor.readAll, Cursor.read] at shown

end Typeset
