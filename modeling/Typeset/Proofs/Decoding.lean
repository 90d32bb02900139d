import Mathlib.Data.List.Nodup
import Typeset.Proofs.Spelling

/-! Reading a written document back. A medium shows the characters of a text, apart from the sequences in
it, and takes each sequence for a code. Whatever texts, newlines and codes a document has, a medium shows
the document without its codes and reads exactly its codes, in order, if no text of the document starts a
sequence of its own. What makes it so is that every code is one sequence and that no two are the same. -/
namespace Typeset

namespace Code

/-- All codes. -/
def all : List Code := .reset :: (Effect.all.map .effect ++ Colour.all.map .colour)

theorem mem_all (code : Code) : code ∈ all := by
  cases code with
  | colour colour => simp [all, colour.mem_all]
  | effect effect => cases effect <;> simp [all, Effect.all]
  | reset => simp [all]

end Code

/-- A medium that takes sequences in a text for codes. A sequence goes from a mark up to the next character
that may end one. Every code is spelt as one sequence, and different codes are spelt differently. -/
structure Medium where
  escape : Escape
  /-- The character that starts a sequence. -/
  mark : Char
  /-- Whether a character ends the sequence in which it stands. -/
  ends : Char → Bool
  isSequence : ∀ code, ∃ body last, (escape.spell code).toList = mark :: (body ++ [last]) ∧
    (∀ char ∈ body, ends char = false) ∧ ends last = true
  distinct : (Code.all.map fun code => (escape.spell code).toList).Nodup
  visible : mark ≠ '\n' ∧ mark ≠ ' '

/-- A part of a written text. -/
inductive TextPart where
  | shown (char : Char)
  | sequence (chars : List Char)
  deriving DecidableEq

namespace TextPart

def shown? : TextPart → Option Char
  | shown char => some char
  | sequence _ => none

def sequence? : TextPart → Option (List Char)
  | shown _ => none
  | sequence chars => some chars

theorem shown_map (chars : List Char) : (chars.map shown).filterMap shown? = chars := by
  induction chars with
  | nil => rfl
  | cons char chars ih => rw [List.map_cons, List.filterMap_cons, ih]; rfl

theorem sequences_shown (chars : List Char) : (chars.map shown).filterMap sequence? = [] := by
  simp [sequence?]

section

variable {α : Type} (spelt : α → List Char) (codes : List α)

theorem shown_sequences : (codes.map fun code => sequence (spelt code)).filterMap shown? = [] := by
  simp [shown?]

theorem sequences_map :
    (codes.map fun code => sequence (spelt code)).filterMap sequence? = codes.map spelt := by
  induction codes with
  | nil => rfl
  | cons code codes ih => rw [List.map_cons, List.filterMap_cons, ih]; rfl

end

end TextPart

namespace Escape

/-- There is no `m` in the sequence for a code before its end. -/
theorem isSequence_ansi (code : Code) :
    ∃ body last, (ansi.spell code).toList = escapeMark :: (body ++ [last]) ∧
      (∀ char ∈ body, (char == 'm') = false) ∧ (last == 'm') = true := by
  refine ⟨'[' :: (ansiParameters code).toList, 'm', by simp [ansi], ?_, rfl⟩
  intro char member
  have free := not_mem_ansiParameters code
  rcases List.mem_cons.mp member with rfl | parameter
  · rfl
  · exact beq_false_of_ne fun same => free (same ▸ parameter)

/-- No two codes are spelt alike. -/
theorem distinct_sectionSign : (Code.all.map fun code => (sectionSign.spell code).toList).Nodup := by
  decide +kernel

theorem distinct_ansi : (Code.all.map fun code => (ansi.spell code).toList).Nodup := by
  decide +kernel

/-- No mark is laid out as a newline or an indentation. -/
theorem visible_sectionMark : sectionMark ≠ '\n' ∧ sectionMark ≠ ' ' := by decide

theorem visible_escapeMark : escapeMark ≠ '\n' ∧ escapeMark ≠ ' ' := by decide

end Escape

namespace Medium

/-- The game's text: a section sign makes a sequence with the character after it, whatever that is. -/
def game : Medium where
  escape := .sectionSign
  mark := Escape.sectionMark
  ends _ := true
  isSequence code := ⟨[], Escape.codeChar code, by simp [Escape.sectionSign]⟩
  distinct := Escape.distinct_sectionSign
  visible := Escape.visible_sectionMark

/-- A terminal: a sequence goes from an escape character up to the next `m`. -/
def terminal : Medium where
  escape := .ansi
  mark := Escape.escapeMark
  ends char := char == 'm'
  isSequence := Escape.isSequence_ansi
  distinct := Escape.distinct_ansi
  visible := Escape.visible_escapeMark

variable (medium : Medium)

/-- The parts of a text that starts in a sequence of which so much is begun, or in none. -/
def parts : Option (List Char) → List Char → List TextPart
  | none, [] => []
  | some begun, [] => [.sequence begun]
  | none, char :: rest =>
    if char = medium.mark then parts (some [char]) rest else .shown char :: parts none rest
  | some begun, char :: rest =>
    if medium.ends char then .sequence (begun ++ [char]) :: parts none rest
    else parts (some (begun ++ [char])) rest

/-- The characters outside sequences. -/
def shown (text : List Char) : List Char := (medium.parts none text).filterMap TextPart.shown?

/-- The sequences, from left to right. -/
def sequences (text : List Char) : List (List Char) :=
  (medium.parts none text).filterMap TextPart.sequence?

/-- The code that is spelt as a sequence. -/
def code? (sequence : List Char) : Option Code :=
  Code.all.find? fun code => (medium.escape.spell code).toList == sequence

variable {medium : Medium}

/-- Characters without a mark are shown. -/
theorem parts_append {chars : List Char} (unmarked : medium.mark ∉ chars) (rest : List Char) :
    medium.parts none (chars ++ rest) = chars.map .shown ++ medium.parts none rest := by
  induction chars with
  | nil => rfl
  | cons char chars ih =>
    obtain ⟨notHere, notLater⟩ := List.ne_and_not_mem_of_not_mem_cons unmarked
    rw [List.cons_append, parts, if_neg notHere.symm, ih notLater]
    rfl

/-- A sequence that is begun goes on up to the next character that ends it. -/
theorem parts_begun {body : List Char} {last : Char}
    (unended : ∀ char ∈ body, medium.ends char = false) (ended : medium.ends last = true)
    (begun rest : List Char) :
    medium.parts (some begun) (body ++ last :: rest) =
      .sequence (begun ++ body ++ [last]) :: medium.parts none rest := by
  induction body generalizing begun with
  | nil => rw [List.nil_append, parts, if_pos ended, List.append_nil]
  | cons char body ih =>
    have goesOn : ¬ medium.ends char = true := by simp [unended char List.mem_cons_self]
    rw [List.cons_append, parts, if_neg goesOn,
      ih fun other later => unended other (List.mem_cons_of_mem _ later)]
    simp

variable (codes : List Code) (rest : List Char)

/-- A code is one sequence, whatever comes after it. -/
theorem parts_spell (code : Code) :
    medium.parts none ((medium.escape.spell code).toList ++ rest) =
      .sequence (medium.escape.spell code).toList :: medium.parts none rest := by
  obtain ⟨body, last, spelt, unended, ended⟩ := medium.isSequence code
  have goesOn := parts_begun unended ended [medium.mark] rest
  rw [spelt, List.cons_append, List.append_assoc, parts, if_pos rfl]
  exact goesOn

theorem parts_spellings :
    medium.parts none ((codes.flatMap fun code => (medium.escape.spell code).toList) ++ rest) =
      codes.map (fun code => .sequence (medium.escape.spell code).toList) ++
        medium.parts none rest := by
  induction codes with
  | nil => rfl
  | cons code codes ih =>
    rw [List.flatMap_cons, List.append_assoc, parts_spell, ih]
    rfl

/-- What a medium makes of a token. -/
def partsOf (medium : Medium) : Token → List TextPart
  | .format codes => codes.map fun code => .sequence (medium.escape.spell code).toList
  | token => (token.spelled .bare).map .shown

/-- Tokens are read one by one: no text takes part in a sequence, and no sequence in a text. -/
theorem parts_spelling {tokens : List Token}
    (unmarked : ∀ piece, .text piece ∈ tokens → medium.mark ∉ piece.text.toList) :
    medium.parts none (spelling medium.escape tokens) = tokens.flatMap medium.partsOf := by
  induction tokens with
  | nil => rfl
  | cons token rest ih =>
    have goesOn := ih fun piece later => unmarked piece (List.mem_cons_of_mem _ later)
    rw [spelling_cons, List.flatMap_cons, ← goesOn]
    cases token with
    | text piece => exact parts_append (unmarked piece List.mem_cons_self) _
    | line indent =>
      refine parts_append ?_ _
      simp [Token.spelled, medium.visible.1, medium.visible.2]
    | format codes => exact parts_spellings codes _
    | fail => rfl

/-- What is shown of a text that is written for a medium is the text that is written without codes. -/
theorem shown_spelling {tokens : List Token}
    (unmarked : ∀ piece, .text piece ∈ tokens → medium.mark ∉ piece.text.toList) :
    medium.shown (spelling medium.escape tokens) = spelling .bare tokens := by
  have each (token : Token) : (medium.partsOf token).filterMap TextPart.shown? = token.spelled .bare := by
    cases token with
    | format codes => rw [Token.spelled_bare_format]; exact TextPart.shown_sequences _ codes
    | text piece | line indent | fail => exact TextPart.shown_map _
  rw [shown, parts_spelling unmarked, List.filterMap_flatMap, spelling]
  simp only [each]

/-- Its sequences are the spellings of the codes. -/
theorem sequences_spelling {tokens : List Token}
    (unmarked : ∀ piece, .text piece ∈ tokens → medium.mark ∉ piece.text.toList) :
    medium.sequences (spelling medium.escape tokens) =
      (Rendered.codeRuns ⟨tokens⟩).flatten.map fun code => (medium.escape.spell code).toList := by
  rw [sequences, parts_spelling unmarked]
  clear unmarked
  induction tokens with
  | nil => rfl
  | cons token rest ih =>
    rw [List.flatMap_cons, List.filterMap_append, ih]
    cases token with
    | format codes =>
      rw [partsOf, TextPart.sequences_map, ← List.map_append]
      rfl
    | text piece | line indent | fail => exact congrArg (· ++ _) (TextPart.sequences_shown _)

/-- The code that is read is the one that was spelt. -/
theorem code?_spell (code : Code) : medium.code? (medium.escape.spell code).toList = some code := by
  have sameCode := List.inj_on_of_nodup_map medium.distinct
  rw [code?]
  cases found : Code.all.find? _ with
  | none =>
    have missed := List.find?_eq_none.mp found code code.mem_all
    exact absurd (beq_self_eq_true _) missed
  | some other =>
    have sameSpelling := List.find?_some found
    exact congrArg some (sameCode other.mem_all code.mem_all (beq_iff_eq.mp sameSpelling))

theorem sequences_spellAll (codes : List Code) :
    medium.sequences (medium.escape.spellAll codes).toList =
      codes.map fun code => (medium.escape.spell code).toList := by
  have spelt := @parts_spellings medium codes []
  rw [List.append_nil] at spelt
  rw [sequences, Escape.toList_spellAll, spelt, List.filterMap_append, TextPart.sequences_map]
  exact List.append_nil _

/-- Codes are read back from their spelling. -/
theorem spellAll_injective (medium : Medium) {first second : List Code}
    (same : medium.escape.spellAll first = medium.escape.spellAll second) : first = second := by
  have sameSequences := congrArg (fun text => medium.sequences text.toList) same
  simp only [sequences_spellAll] at sameSequences
  have sameCodes := congrArg (List.map medium.code?) sameSequences
  simp only [List.map_map, Function.comp_def, code?_spell] at sameCodes
  exact List.map_injective_iff.mpr (fun _ _ => Option.some.inj) sameCodes

/-- A rendered document that is written out for a medium reads back: apart from its sequences it is the
document written out without codes, and its sequences are those of the codes, in order. -/
def ReadsBack (medium : Medium) (rendered : Rendered) : Prop :=
  ∃ written bare, rendered.write? medium.escape = .ok written ∧ rendered.write? .bare = .ok bare ∧
    medium.shown written.toList = bare.toList ∧
    (medium.sequences written.toList).map medium.code? = rendered.codeRuns.flatten.map some

theorem readsBack {rendered : Rendered} (unfailing : .fail ∉ rendered.tokens)
    (unmarked : ∀ piece, .text piece ∈ rendered.tokens → medium.mark ∉ piece.text.toList) :
    medium.ReadsBack rendered := by
  obtain ⟨written, wrote, chars⟩ := Rendered.write_spelling medium.escape unfailing
  obtain ⟨bare, wroteBare, bareChars⟩ := Rendered.write_spelling .bare unfailing
  refine ⟨written, bare, wrote, wroteBare, ?_, ?_⟩
  · rw [chars, bareChars, shown_spelling unmarked]
  · rw [chars, sequences_spelling unmarked, List.map_map]
    simp only [Function.comp_def, code?_spell]

end Medium

/-- Codes can be taken out of a written document and read back. If no text of it holds a section sign, that
is so for the game, where a sequence is a section sign and the character after it; and if no text holds an
escape character, it is so for a terminal, where a sequence goes from an escape character up to the next
`m`. In both, different lists of codes are spelt differently. -/
theorem written_codes_read_back (rendered : Rendered) (unfailing : .fail ∉ rendered.tokens) :
    ((∀ piece, .text piece ∈ rendered.tokens → '§' ∉ piece.text.toList) →
      Medium.game.ReadsBack rendered) ∧
    ((∀ piece, .text piece ∈ rendered.tokens → '\x1b' ∉ piece.text.toList) →
      Medium.terminal.ReadsBack rendered) ∧
    Function.Injective Escape.sectionSign.spellAll ∧ Function.Injective Escape.ansi.spellAll :=
  ⟨fun unmarked => Medium.readsBack unfailing unmarked,
    fun unmarked => Medium.readsBack unfailing unmarked,
    fun _ _ same => Medium.game.spellAll_injective same,
    fun _ _ same => Medium.terminal.spellAll_injective same⟩

/-- A banner whose texts, next to its codes, could be read as parts of sequences. -/
def banner : Rendered where
  tokens := [.format [.reset, .colour .gold], .text (.ofString "[1m"), .line 2, .text (.ofString "m"),
    .format [.effect .strikethrough, .colour .gold], .text (.ofString "lk")]

theorem banner_reads_back :
    .fail ∉ banner.tokens ∧
      (∀ piece, .text piece ∈ banner.tokens → '§' ∉ piece.text.toList ∧ '\x1b' ∉ piece.text.toList) ∧
      banner.write? .sectionSign = .ok "§r§6[1m\n  m§m§6lk" ∧
      Medium.game.ReadsBack banner ∧ Medium.terminal.ReadsBack banner := by
  have unmarked : ∀ piece, .text piece ∈ banner.tokens →
      '§' ∉ piece.text.toList ∧ '\x1b' ∉ piece.text.toList := by
    simp [banner]
  obtain ⟨game, terminal, -⟩ := written_codes_read_back banner (by decide)
  exact ⟨by decide, unmarked, by decide, game fun piece member => (unmarked piece member).1,
    terminal fun piece member => (unmarked piece member).2⟩

end Typeset
