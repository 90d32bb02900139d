import Typeset.Options
import Typeset.Proofs.AllBroken

/-! Failures, from the layout to the written text. Whatever renders a document stops at its first
failure, so the last token alone tells whether there is one; and there is one exactly if nothing can be
written out, however a medium writes its codes. -/
namespace Typeset

/-- Where nothing comes after a failure, there is one failure at most. -/
theorem FailLast.count_le_one {tokens : List Token} (ends : FailLast tokens) :
    tokens.count .fail ≤ 1 := by
  induction tokens with
  | nil => simp
  | cons token rest ih =>
    cases token with
    | fail =>
      have nothing : rest = [] := ends
      simp [nothing]
    | text piece | line indent | format codes => simpa using ih ends

theorem Doc.compact_failLast (doc : Doc) : FailLast doc.compact.tokens := by
  rw [← doc.tokens_render_allBroken ⟨80, 80, .pretty⟩]
  exact doc.allBroken.render_failLast _

theorem Options.renderStyled_failLast (options : Options) (doc : Doc) :
    FailLast (options.renderStyled doc).tokens := by
  unfold renderStyled
  split
  · exact doc.render_failLast _
  · exact doc.render_failLast _
  · exact doc.compact_failLast

/-- Codes are spelt after a text as they are on their own. -/
theorem Escape.append_spellAll (escape : Escape) (before : String) (codes : List Code) :
    before ++ escape.spellAll codes =
      codes.foldl (fun text code => text ++ escape.spell code) before := by
  have fromMiddle : ∀ middle : String,
      before ++ codes.foldl (fun text code => text ++ escape.spell code) middle =
        codes.foldl (fun text code => text ++ escape.spell code) (before ++ middle) := by
    induction codes with
    | nil => exact fun _ => rfl
    | cons code codes ih =>
      intro middle
      rw [List.foldl_cons, List.foldl_cons, ih, String.append_assoc]
  simpa [Escape.spellAll] using fromMiddle ""

namespace Rendered

/-- Tokens written out after the text before them, by a medium that does with the text what it likes
when it comes to a code. -/
def writeWith (writeCode : Code → String → String) (before : String) :
    List Token → Except Error String
  | [] => .ok before
  | .text piece :: rest => writeWith writeCode (before ++ piece.text) rest
  | .line indent :: rest => writeWith writeCode ((before.push '\n').pushn ' ' indent) rest
  | .format codes :: rest =>
    writeWith writeCode (codes.foldl (fun text code => writeCode code text) before) rest
  | .fail :: _ => .error .infeasible

/-- A medium that spells its codes appends the spellings. -/
theorem writeAfter_eq_writeWith (escape : Escape) (before : String) (tokens : List Token) :
    writeAfter escape before tokens =
      writeWith (fun code text => text ++ escape.spell code) before tokens := by
  induction tokens generalizing before with
  | nil => rfl
  | cons token rest ih =>
    cases token with
    | text piece => exact ih _
    | line indent => exact ih _
    | format codes =>
      rw [writeAfter, writeWith, ih, escape.append_spellAll]
    | fail => rfl

theorem writeWith_of_fail (writeCode : Code → String → String) (before : String)
    {tokens : List Token} (fails : .fail ∈ tokens) :
    writeWith writeCode before tokens = .error .infeasible := by
  induction tokens generalizing before with
  | nil => exact absurd fails List.not_mem_nil
  | cons token rest ih =>
    cases token with
    | text piece | line indent | format codes => exact ih _ (by simpa using fails)
    | fail => rfl

theorem writeWith_of_unfailing (writeCode : Code → String → String) (before : String)
    {tokens : List Token} (unfailing : .fail ∉ tokens) :
    ∃ text, writeWith writeCode before tokens = .ok text := by
  induction tokens generalizing before with
  | nil => exact ⟨before, rfl⟩
  | cons token rest ih =>
    cases token with
    | text piece | line indent | format codes => exact ih _ (by simpa using unfailing)
    | fail => exact absurd List.mem_cons_self unfailing

theorem writeWith_ok_iff (writeCode : Code → String → String) (before : String)
    (tokens : List Token) :
    (∃ text, writeWith writeCode before tokens = .ok text) ↔ .fail ∉ tokens := by
  refine ⟨?_, writeWith_of_unfailing writeCode before⟩
  rintro ⟨text, written⟩ fails
  rw [writeWith_of_fail writeCode before fails] at written
  contradiction

/-- There is only one error, and any failure gives it. -/
theorem writeWith_error_iff (writeCode : Code → String → String) (before : String)
    (tokens : List Token) (error : Error) :
    writeWith writeCode before tokens = .error error ↔ .fail ∈ tokens ∧ error = .infeasible := by
  by_cases fails : .fail ∈ tokens
  · simp [writeWith_of_fail writeCode before fails, fails, eq_comm]
  · obtain ⟨text, written⟩ := writeWith_of_unfailing writeCode before fails
    simp [written, fails]

/-- A rendered document with at most one failure, in the last place. What the last token tells, whether
the document is feasible, is whether it can be written out: with any spelling of the codes, and by any
medium. -/
structure FailsOnlyAtEnd (rendered : Rendered) : Prop where
  once : rendered.tokens.count .fail ≤ 1
  last : ∀ before after, rendered.tokens = before ++ .fail :: after → after = []
  written : ∀ escape, rendered.isFeasible = true ↔ ∃ text, rendered.write? escape = .ok text
  refused : ∀ escape error,
    rendered.write? escape = .error error ↔ .fail ∈ rendered.tokens ∧ error = .infeasible
  writtenWith : ∀ writeCode,
    rendered.isFeasible = true ↔ ∃ text, writeWith writeCode "" rendered.tokens = .ok text
  refusedWith : ∀ writeCode error,
    writeWith writeCode "" rendered.tokens = .error error ↔
      .fail ∈ rendered.tokens ∧ error = .infeasible

theorem FailsOnlyAtEnd.of_failLast {rendered : Rendered} (ends : FailLast rendered.tokens) :
    rendered.FailsOnlyAtEnd := by
  have feasible : rendered.isFeasible = true ↔ .fail ∉ rendered.tokens := by
    rw [isFeasible, bne_iff_ne, fail_mem_iff_last ends]
  constructor
  case once => exact ends.count_le_one
  case last =>
    intro before after split
    rw [split] at ends
    exact ends.after_fail
  case written =>
    intro escape
    rw [feasible, write?, writeAfter_eq_writeWith, writeWith_ok_iff]
  case refused =>
    intro escape error
    rw [write?, writeAfter_eq_writeWith, writeWith_error_iff]
  case writtenWith => exact fun writeCode => feasible.trans (writeWith_ok_iff writeCode "" _).symm
  case refusedWith => exact fun writeCode error => writeWith_error_iff writeCode "" _ error

end Rendered

/-- Failures are terminal, and the last token decides feasibility. On every page, without a page and
with every choice of options, a document is rendered to at most one failure, with nothing after it; and
the rendered document is feasible exactly if it can be written out. -/
theorem failures_are_terminal (doc : Doc) :
    (∀ page, (doc.render page).FailsOnlyAtEnd) ∧
    doc.compact.FailsOnlyAtEnd ∧
    ∀ options : Options, (options.render doc).FailsOnlyAtEnd := by
  refine ⟨fun page => ?_, ?_, fun options => ?_⟩
  · exact .of_failLast (doc.render_failLast page)
  · exact .of_failLast doc.compact_failLast
  · exact .of_failLast (options.renderStyled_failLast _)

end Typeset
