import Typeset.Doc.Flatten
import Typeset.Options
import Typeset.Proofs.Backtracking
import Typeset.Proofs.Compaction
import Typeset.Proofs.Hereditary

/-! Conditions on the texts of a document. Whatever all of them meet is met by every text that is
rendered, and by every text that the machine comes across in the alternatives that it gives up. A
document whose texts go on one line is therefore rendered without an error. -/
namespace Typeset

namespace Doc

/-- Every text in a document, and in what its functions give, meets a condition. -/
def Texts (p : Literal → Prop) (doc : Doc) : Prop :=
  doc.Every fun node => ∀ piece, node = .literal piece → p piece

namespace Texts

variable {p : Literal → Prop} {doc : Doc}

theorem mono {q : Literal → Prop} (texts : doc.Texts p) (weaker : ∀ piece, p piece → q piece) :
    doc.Texts q :=
  Every.mono texts fun _ meets piece same => weaker piece (meets piece same)

theorem plain (texts : doc.Texts p) : doc.plain.Texts p := by
  induction doc with
  | fail | empty | literal piece | newline => simpa using texts
  | restore style => simp [Texts, Every]
  | flatAlt broken flat ihFirst ihSecond =>
    rw [plain_flatAlt]
    exact ⟨by simp, ihFirst texts.2.1, ihSecond texts.2.2⟩
  | cat left right ihFirst ihSecond =>
    rw [plain_cat]
    exact ⟨by simp, ihFirst texts.2.1, ihSecond texts.2.2⟩
  | union flat broken ihFirst ihSecond =>
    rw [plain_union]
    exact ⟨by simp, ihFirst texts.2.1, ihSecond texts.2.2⟩
  | nest amount body ih =>
    rw [plain_nest]
    exact ⟨by simp, ih texts.2⟩
  | styled change body ih =>
    rw [plain_styled]
    exact ih texts.2
  | column body ih =>
    rw [plain_column]
    exact ⟨by simp, fun start => ih start (texts.2 start)⟩
  | columns body ih =>
    rw [plain_columns]
    exact ⟨by simp, fun width => ih width (texts.2 width)⟩
  | nesting body ih =>
    rw [plain_nesting]
    exact ⟨by simp, fun level => ih level (texts.2 level)⟩

theorem flatten (texts : doc.Texts p) : doc.flatten.Texts p := by
  induction doc with
  | fail | empty | literal piece | restore style => simpa using texts
  | newline => simp [Texts, Every]
  | flatAlt broken flat ihBroken ihFlat =>
    rw [flatten_flatAlt]
    exact texts.2.2
  | union flat broken ihFlat ihBroken =>
    rw [flatten_union]
    exact ihFlat texts.2.1
  | cat left right ihLeft ihRight =>
    rw [flatten_cat]
    exact ⟨by simp, ihLeft texts.2.1, ihRight texts.2.2⟩
  | nest amount body ih =>
    rw [flatten_nest]
    exact ⟨by simp, ih texts.2⟩
  | styled change body ih =>
    rw [flatten_styled]
    exact ⟨by simp, ih texts.2⟩
  | column body ih =>
    rw [flatten_column]
    exact ⟨by simp, fun start => ih start (texts.2 start)⟩
  | columns body ih =>
    rw [flatten_columns]
    exact ⟨by simp, fun width => ih width (texts.2 width)⟩
  | nesting body ih =>
    rw [flatten_nesting]
    exact ⟨by simp, fun level => ih level (texts.2 level)⟩

/-- The texts of a layout are texts of the document, up to where what comes after it begins. -/
theorem of_mem_layoutThen (texts : doc.Texts p) (page : Page) (level : Int64)
    {rest : Cursor → List Token} {piece : Literal}
    (after : ∀ stop, .text piece ∈ rest stop → p piece) (cursor : Cursor)
    (member : .text piece ∈ doc.layoutThen page level rest cursor) : p piece := by
  induction doc generalizing level rest cursor with
  | fail => simp [layoutThen] at member
  | empty => exact after cursor member
  | literal other =>
    rcases List.mem_cons.mp member with same | later
    · cases same
      exact texts piece rfl
    · exact after _ later
  | newline => exact after _ (by simpa [layoutThen, Token.andThen] using member)
  | flatAlt broken flat ihBroken ihFlat => exact ihBroken texts.2.1 level after cursor member
  | cat left right ihLeft ihRight =>
    have afterLeft := fun stop => ihRight texts.2.2 level after stop
    exact ihLeft texts.2.1 level afterLeft cursor member
  | nest amount body ih => exact ih texts.2 _ after cursor member
  | union flat broken ihFlat ihBroken =>
    rw [layoutThen] at member
    split at member
    · exact ihFlat texts.2.1 level after cursor member
    · exact ihBroken texts.2.2 level after cursor member
  | column body ih => exact ih _ (texts.2 _) level after cursor member
  | columns body ih => exact ih _ (texts.2 _) level after cursor member
  | nesting body ih => exact ih _ (texts.2 _) level after cursor member
  | styled change body ih =>
    have inside : .text piece ∈ body.layoutThen page level _ _ :=
      List.mem_of_ne_of_mem (by simp) member
    refine ih texts.2 level (fun stop later => ?_) _ inside
    exact after _ (List.mem_of_ne_of_mem (by simp) later)
  | restore style => exact after _ (List.mem_of_ne_of_mem (by simp) member)

theorem of_mem_render (texts : doc.Texts p) (page : Page) {piece : Literal}
    (member : .text piece ∈ (doc.render page).tokens) : p piece := by
  rw [tokens_render] at member
  exact texts.of_mem_layoutThen page 0 (fun _ later => absurd later List.not_mem_nil) {} member

/-- The texts that a document adds to a compact rendering are texts of the document. -/
theorem of_mem_add (texts : doc.Texts p) (state : Compaction) {piece : Literal}
    (before : .text piece ∈ state.tokens.toList → p piece)
    (member : .text piece ∈ (state.add doc).tokens.toList) : p piece := by
  induction doc generalizing state with
  | fail | newline =>
    rw [Compaction.add] at member
    split at member
    · exact before member
    · exact before (by simpa using member)
  | literal other =>
    rw [Compaction.add] at member
    split at member
    · exact before member
    · rw [Array.toList_push, List.mem_append, List.mem_singleton] at member
      rcases member with earlier | same
      · exact before earlier
      · cases same
        exact texts piece rfl
  | empty | restore style => exact before (by simpa using member)
  | flatAlt broken flat ihBroken ihFlat => exact ihBroken texts.2.1 state before (by simpa using member)
  | union flat broken ihFlat ihBroken => exact ihBroken texts.2.2 state before (by simpa using member)
  | cat left right ihLeft ihRight =>
    rw [Compaction.add_cat] at member
    exact ihRight texts.2.2 _ (ihLeft texts.2.1 state before) member
  | nest amount body ih | styled change body ih => exact ih texts.2 state before (by simpa using member)
  | column body ih | columns body ih | nesting body ih =>
    exact ih _ (texts.2 _) state before (by simpa using member)

theorem of_mem_compact (texts : doc.Texts p) {piece : Literal}
    (member : .text piece ∈ doc.compact.tokens) : p piece :=
  texts.of_mem_add {} (fun before => absurd before List.not_mem_nil) member

end Texts
end Doc

/-- Every text of documents to come meets a condition. -/
def Indented.AllTexts (p : Literal → Prop) : List Indented → Prop
  | [] => True
  | next :: rest => next.doc.Texts p ∧ AllTexts p rest

/-- Every text that is still to come at a place meets a condition. -/
def Place.Texts (p : Literal → Prop) (place : Place) : Prop := Indented.AllTexts p place.upcoming

/-- The next token meets a condition on texts, and so does what comes after it or what a choice
offers. -/
def Next.Texts (p : Literal → Prop) : Next → Prop
  | .done => True
  | .token emitted after => (∀ piece, emitted = .text piece → p piece) ∧ after.Texts p
  | .choice level flat broken after =>
    (after.push level flat).Texts p ∧ (after.push level broken).Texts p

theorem Place.texts_advance {p : Literal → Prop} (width : Nat) (place : Place)
    (upcoming : List Indented) (texts : Indented.AllTexts p upcoming) :
    (place.advance width upcoming).Texts p := by
  fun_induction place.advance width upcoming with
  | case1 => trivial
  | case2 level rest => exact ⟨by simp, trivial⟩
  | case3 level rest ih => exact ih texts.2
  | case4 level rest piece =>
    refine ⟨fun other same => ?_, texts.2⟩
    cases same
    exact texts.1 piece rfl
  | case5 level rest indent => exact ⟨by simp, texts.2⟩
  | case6 level rest broken flat ih => exact ih ⟨texts.1.2.1, texts.2⟩
  | case7 level rest left right ih => exact ih ⟨texts.1.2.1, texts.1.2.2, texts.2⟩
  | case8 level rest amount body ih => exact ih ⟨texts.1.2, texts.2⟩
  | case9 level rest flat broken => exact ⟨⟨texts.1.2.1, texts.2⟩, texts.1.2.2, texts.2⟩
  | case10 level rest body ih => exact ih ⟨texts.1.2 _, texts.2⟩
  | case11 level rest body ih => exact ih ⟨texts.1.2 _, texts.2⟩
  | case12 level rest body ih => exact ih ⟨texts.1.2 _, texts.2⟩
  | case13 level rest change body =>
    have restores : (Doc.restore place.style).Texts p := by simp [Doc.Texts, Doc.Every]
    exact ⟨by simp, texts.1.2, restores, texts.2⟩
  | case14 level rest style => exact ⟨by simp, texts.2⟩

theorem Place.Texts.next {p : Literal → Prop} {place : Place} (texts : place.Texts p)
    (width : Nat) : (place.next width).Texts p :=
  place.texts_advance width place.upcoming texts

namespace Machine

/-- A machine that has met no illegal text and will meet none, even if it goes back. -/
structure Legal (machine : Machine) : Prop where
  unmet : machine.illegal = none
  here : machine.place.Texts Literal.IsOneLine
  goBack : ∀ attempt ∈ machine.attempts, attempt.otherwise.Texts Literal.IsOneLine

theorem judge_legal (atEnd : Bool) {machine : Machine} {attempts : List Attempt}
    (unmet : machine.illegal = none) (here : machine.place.Texts Literal.IsOneLine)
    (goBack : ∀ attempt ∈ attempts, attempt.otherwise.Texts Literal.IsOneLine) :
    (machine.judge atEnd attempts).Legal := by
  have judged := judgement atEnd machine attempts
  generalize machine.judge atEnd attempts = after at judged
  cases judged with
  | settle => exact ⟨unmet, here, by simp⟩
  | giveUp among seen =>
    obtain ⟨goBackTop, goBackBelow⟩ := forall_among goBack among
    exact ⟨unmet, goBackTop, goBackBelow⟩
  | wait among seen =>
    obtain ⟨goBackTop, goBackBelow⟩ := forall_among goBack among
    exact ⟨unmet, here, List.forall_mem_cons.mpr ⟨goBackTop, goBackBelow⟩⟩

theorem illegal_note {machine : Machine} {token : Token} (unmet : machine.illegal = none)
    (oneLine : ∀ piece, token = .text piece → piece.IsOneLine) :
    (machine.note token).illegal = none := by
  rw [note, unmet]
  cases token with
  | text piece => exact if_pos (oneLine piece rfl)
  | line indent | format codes | fail => rfl

theorem Step.legal {machine after : Machine} {token : Option Token}
    (step : machine.Step token after) (legal : machine.Legal) : after.Legal := by
  obtain ⟨unmet, here, goBack⟩ := legal
  have comes := here.next machine.page.width.toNat
  cases step with
  | handOut isDecided => exact ⟨unmet, here, goBack⟩
  | close nothingDecided found attempting => exact judge_legal true unmet here goBack
  | emit nothingDecided found settled =>
    rw [found] at comes
    exact ⟨illegal_note unmet comes.1, comes.2, by simpa using goBack⟩
  | keep nothingDecided found attempting =>
    rw [found] at comes
    exact judge_legal false (illegal_note unmet comes.1) comes.2 goBack
  | @choose level flat broken place nothingDecided found =>
    rw [found] at comes
    rw [attempt]
    cases machine.page.lookahead? place with
    | none => exact ⟨unmet, comes.2, goBack⟩
    | some ahead => exact ⟨unmet, comes.1, List.forall_mem_cons.mpr ⟨comes.2, goBack⟩⟩

/-- A run meets no illegal text. -/
theorem Legal.run {machine : Machine} (legal : machine.Legal) (out : Array Token) :
    (machine.runAfter out).2 = none := by
  induction machine, out using runAfter.induct with
  | case1 machine out stuck =>
    rw [runAfter, stuck]
    exact legal.unmet
  | case2 machine out after stepped ih =>
    rw [runAfter, stepped]
    exact ih ((step_iff.mp stepped).legal legal)
  | case3 machine out token after stepped ih =>
    rw [runAfter, stepped]
    exact ih ((step_iff.mp stepped).legal legal)

end Machine

/-! A document whose texts go on one line is rendered without an error. -/

theorem Doc.render?_eq_ok {doc : Doc} (oneLine : doc.Texts Literal.IsOneLine) (page : Page) :
    doc.render? page = .ok (doc.render page) := by
  have legal : (Machine.start page doc).Legal :=
    ⟨rfl, ⟨oneLine, trivial⟩, fun attempt member => absurd member List.not_mem_nil⟩
  have met := legal.run #[]
  rw [render?, render, Machine.run]
  generalize (Machine.start page doc).runAfter #[] = result at met
  obtain ⟨tokens, illegal⟩ := result
  cases met
  rfl

theorem Doc.compact?_eq_ok {doc : Doc} (oneLine : doc.Texts Literal.IsOneLine) :
    doc.compact? = .ok doc.compact := by
  have nothing : doc.compact.tokens.findSome? Token.illegal? = none := by
    rw [List.findSome?_eq_none_iff]
    intro token member
    cases token with
    | text piece => exact if_pos (oneLine.of_mem_compact member)
    | line indent | format codes | fail => rfl
  rw [compact?, nothing]

namespace Options

variable (options : Options) {doc : Doc}

theorem render?_eq_ok (oneLine : doc.Texts Literal.IsOneLine) :
    options.render? doc = .ok (options.render doc) := by
  have byMode : ∀ doc : Doc, doc.Texts Literal.IsOneLine →
      options.renderStyled? doc = .ok (options.renderStyled doc) := by
    intro doc oneLine
    rw [renderStyled?, renderStyled]
    cases options.mode with
    | pretty => exact Doc.render?_eq_ok oneLine _
    | smart => exact Doc.render?_eq_ok oneLine _
    | compact => exact Doc.compact?_eq_ok oneLine
  rw [render?, render]
  split
  · exact byMode doc oneLine
  · exact byMode doc.plain oneLine.plain

/-- Whatever the options, the texts that are rendered are texts of the document. -/
theorem of_mem_render {p : Literal → Prop} (texts : doc.Texts p) {piece : Literal}
    (member : .text piece ∈ (options.render doc).tokens) : p piece := by
  have byMode : ∀ doc : Doc, doc.Texts p →
      .text piece ∈ (options.renderStyled doc).tokens → p piece := by
    intro doc texts member
    rw [renderStyled] at member
    split at member
    · exact texts.of_mem_render _ member
    · exact texts.of_mem_render _ member
    · exact texts.of_mem_compact member
  rw [render] at member
  split at member
  · exact byMode doc texts member
  · exact byMode doc.plain texts.plain member

end Options
end Typeset
