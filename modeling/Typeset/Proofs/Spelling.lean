import Typeset.Proofs.Unstyled
import Typeset.Rendered

/-! Rendered documents in characters. Every token is written out as characters of its own, whatever
stands before it, so that what holds of the written text is said token by token. A terminal takes
escape sequences for codes and shows the rest: reading a text without them undoes the spelling of the
codes, if no text of the document starts a sequence of its own. -/
namespace Typeset

/-- The characters as which a token is written. -/
def Token.spelled (escape : Escape) : Token → List Char
  | .text piece => piece.text.toList
  | .line indent => '\n' :: List.replicate indent ' '
  | .format codes => codes.flatMap fun code => (escape.spell code).toList
  | .fail => []

/-- The characters as which tokens are written. -/
def spelling (escape : Escape) (tokens : List Token) : List Char :=
  tokens.flatMap (Token.spelled escape)

section

variable (escape : Escape)

@[simp] theorem spelling_nil : spelling escape [] = [] := rfl

@[simp] theorem spelling_cons (token : Token) (rest : List Token) :
    spelling escape (token :: rest) = token.spelled escape ++ spelling escape rest := rfl

@[simp] theorem spelling_append (first second : List Token) :
    spelling escape (first ++ second) = spelling escape first ++ spelling escape second := by
  simp [spelling]

theorem Escape.toList_spellAll (codes : List Code) :
    (escape.spellAll codes).toList = codes.flatMap fun code => (escape.spell code).toList := by
  have after : ∀ before : String,
      (codes.foldl (fun text code => text ++ escape.spell code) before).toList =
        before.toList ++ codes.flatMap fun code => (escape.spell code).toList := by
    induction codes with
    | nil => simp
    | cons code codes ih => simp [ih]
  exact after ""

theorem toList_pushn (text : String) (char : Char) (count : Nat) :
    (text.pushn char count).toList = text.toList ++ List.replicate count char := by
  rw [String.pushn]
  induction count with
  | zero => simp [Nat.repeat]
  | succ count ih => simp [Nat.repeat, ih, List.replicate_succ']

/-- Tokens without a failure are written out, as the characters of each in turn. -/
theorem Rendered.writeAfter_spelling (before : String) {tokens : List Token}
    (unfailing : .fail ∉ tokens) :
    ∃ text, writeAfter escape before tokens = .ok text ∧
      text.toList = before.toList ++ spelling escape tokens := by
  induction tokens generalizing before with
  | nil => exact ⟨before, rfl, by simp⟩
  | cons token rest ih =>
    have unfailingRest : .fail ∉ rest := fun fails => unfailing (List.mem_cons_of_mem _ fails)
    cases token with
    | text piece =>
      obtain ⟨text, written, chars⟩ := ih (before ++ piece.text) unfailingRest
      exact ⟨text, written, by simp [chars, Token.spelled]⟩
    | line indent =>
      obtain ⟨text, written, chars⟩ := ih ((before.push '\n').pushn ' ' indent) unfailingRest
      exact ⟨text, written, by simp [chars, toList_pushn, Token.spelled]⟩
    | format codes =>
      obtain ⟨text, written, chars⟩ := ih (before ++ escape.spellAll codes) unfailingRest
      exact ⟨text, written, by simp [chars, Escape.toList_spellAll, Token.spelled]⟩
    | fail => exact absurd List.mem_cons_self unfailing

theorem Rendered.write_spelling {rendered : Rendered} (unfailing : .fail ∉ rendered.tokens) :
    ∃ text, rendered.write? escape = .ok text ∧ text.toList = spelling escape rendered.tokens := by
  obtain ⟨text, written, chars⟩ := writeAfter_spelling escape "" unfailing
  exact ⟨text, written, by simpa using chars⟩

end

@[simp] theorem Token.spelled_bare_format (codes : List Code) : spelled .bare (.format codes) = [] := by
  simp [spelled, Escape.bare]

/-- Without a spelling of the codes it makes no difference whether there are any. -/
theorem spelling_bare_unformatted (tokens : List Token) :
    spelling .bare (unformatted tokens) = spelling .bare tokens := by
  induction tokens with
  | nil => rfl
  | cons token rest ih =>
    cases token with
    | text piece => simp [ih]
    | line indent => simp [ih]
    | format codes => simp [ih]
    | fail => simp [ih]

namespace Escape

/-- The character that starts a sequence. -/
abbrev escapeMark : Char := '\x1b'

mutual

/-- The characters outside escape sequences. A sequence starts with an escape character and a bracket,
and ends with the next `m`. -/
def withoutSequences : List Char → List Char
  | '\x1b' :: '[' :: rest => afterSequence rest
  | char :: rest => char :: withoutSequences rest
  | [] => []

/-- The characters outside sequences after the sequence in which the characters start. -/
def afterSequence : List Char → List Char
  | 'm' :: rest => withoutSequences rest
  | _ :: rest => afterSequence rest
  | [] => []

end

theorem withoutSequences_cons {char : Char} (plain : char ≠ escapeMark) (rest : List Char) :
    withoutSequences (char :: rest) = char :: withoutSequences rest := by
  rw [withoutSequences]
  rintro _ rfl
  exact absurd rfl plain

/-- Characters among which no sequence starts stay as they are. -/
theorem withoutSequences_append {chars : List Char} (plain : escapeMark ∉ chars)
    (rest : List Char) :
    withoutSequences (chars ++ rest) = chars ++ withoutSequences rest := by
  induction chars with
  | nil => rfl
  | cons char chars ih =>
    obtain ⟨notHere, notLater⟩ := List.ne_and_not_mem_of_not_mem_cons plain
    rw [List.cons_append, withoutSequences_cons notHere.symm, ih notLater]
    rfl

theorem afterSequence_append {parameters : List Char} (unended : 'm' ∉ parameters)
    (rest : List Char) :
    afterSequence (parameters ++ 'm' :: rest) = withoutSequences rest := by
  induction parameters with
  | nil => rw [List.nil_append, afterSequence]
  | cons char parameters ih =>
    obtain ⟨notHere, notLater⟩ := List.ne_and_not_mem_of_not_mem_cons unended
    rw [List.cons_append, afterSequence, ih notLater]
    exact notHere.symm

/-- No parameters of a code end its sequence. -/
theorem not_mem_ansiParameters (code : Code) : 'm' ∉ (ansiParameters code).toList := by
  cases code with
  | colour colour => cases colour <;> decide
  | effect effect => cases effect <;> decide
  | reset => decide

/-- A code that is spelt for a terminal is one sequence. -/
theorem withoutSequences_spell (code : Code) (rest : List Char) :
    withoutSequences ((ansi.spell code).toList ++ rest) = withoutSequences rest := by
  have spelt : (ansi.spell code).toList ++ rest =
      '\x1b' :: '[' :: ((ansiParameters code).toList ++ 'm' :: rest) := by
    simp [ansi]
  rw [spelt, withoutSequences, afterSequence_append (not_mem_ansiParameters code)]

theorem withoutSequences_spellings (codes : List Code) (rest : List Char) :
    withoutSequences ((codes.flatMap fun code => (ansi.spell code).toList) ++ rest) =
      withoutSequences rest := by
  induction codes with
  | nil => rfl
  | cons code codes ih =>
    rw [List.flatMap_cons, List.append_assoc, withoutSequences_spell, ih]

/-- Reading a text without the escape sequences of a terminal is reading it without its codes, if no
piece of text holds an escape character. -/
theorem withoutSequences_spelling {tokens : List Token}
    (plain : ∀ piece, .text piece ∈ tokens → escapeMark ∉ piece.text.toList) :
    withoutSequences (spelling ansi tokens) = spelling bare tokens := by
  induction tokens with
  | nil => rw [spelling_nil, spelling_nil, withoutSequences]
  | cons token rest ih =>
    have goesOn := ih fun piece later => plain piece (List.mem_cons_of_mem _ later)
    rw [spelling_cons, spelling_cons, ← goesOn]
    cases token with
    | text piece => exact withoutSequences_append (plain piece List.mem_cons_self) _
    | line indent => exact withoutSequences_append (by simp [Token.spelled, escapeMark]) _
    | format codes =>
      rw [Token.spelled_bare_format]
      exact withoutSequences_spellings codes _
    | fail => rfl

example : withoutSequences "\x1b[38;2;0;170;0mgo\x1b[0m on".toList = "go on".toList := by decide

end Escape
end Typeset
