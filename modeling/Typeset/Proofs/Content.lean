import Typeset.Doc.Align
import Typeset.Doc.Fill
import Typeset.Proofs.Backtracking
import Typeset.Proofs.Compaction
import Typeset.Proofs.Fit
import Typeset.Proofs.WellBuilt

/-! A layout changes neither content nor its style. The alternatives of a document differ in newlines,
spaces and padding only: whatever is laid out flat and whatever is broken, the same characters show, in
the same order and in the same styles. A flat alternative that stands for a newline fails, and so is
never taken. -/
namespace Typeset

/-- The characters of a text that show: all but spaces and newlines. -/
def visible (text : String) : List Char := text.toList.filter fun char => char ≠ ' ' ∧ char ≠ '\n'

@[simp] theorem visible_append (first second : String) :
    visible (first ++ second) = visible first ++ visible second := by
  simp [visible]

/-- The characters of tokens that show, each in the style in effect in a medium when it is written. -/
def painted : Style → List Token → List (Char × Style)
  | _, [] => []
  | style, .text piece :: rest => (visible piece.text).map (·, style) ++ painted style rest
  | style, .format codes :: rest => painted (style.readAll codes) rest
  | style, .line _ :: rest => painted style rest
  | style, .fail :: rest => painted style rest

/-- Characters that show, each with the changes around it, outermost first. -/
abbrev Content := List (Char × List Change)

namespace Content

/-- Content inside one more change. -/
def within (change : Change) (content : Content) : Content :=
  content.map fun shown => (shown.1, change :: shown.2)

/-- Content in a style: each character in what the changes around it make of that style. -/
def paint (style : Style) (content : Content) : List (Char × Style) :=
  content.map fun shown => (shown.1, shown.2.foldl Style.apply style)

@[simp] theorem paint_append (style : Style) (first second : Content) :
    paint style (first ++ second) = paint style first ++ paint style second := List.map_append

@[simp] theorem paint_within (style : Style) (change : Change) (content : Content) :
    paint style (content.within change) = paint (style.apply change) content := by
  simp [paint, within]

@[simp] theorem chars_within (change : Change) (content : Content) :
    (content.within change).map Prod.fst = content.map Prod.fst := by
  simp [within]

end Content

namespace Doc

/-- A document carries content in every layout that it has. On one line, where a failure stands for
every newline, it may have none. -/
inductive Carries : (oneLine : Bool) → Doc → Content → Prop where
  | fail (content : Content) : Carries true .fail content
  | empty {oneLine : Bool} : Carries oneLine .empty []
  | literal {oneLine : Bool} (piece : Literal) :
    Carries oneLine (.literal piece) ((visible piece.text).map (·, []))
  | newline : Carries false .newline []
  | flatAlt {broken flat : Doc} {content : Content} (carriesBroken : Carries false broken content)
    (carriesFlat : Carries true flat content) : Carries false (.flatAlt broken flat) content
  | cat {oneLine : Bool} {left right : Doc} {first second : Content}
    (carriesLeft : Carries oneLine left first) (carriesRight : Carries oneLine right second) :
    Carries oneLine (.cat left right) (first ++ second)
  | nest {oneLine : Bool} {body : Doc} {content : Content} (amount : Int)
    (carries : Carries oneLine body content) : Carries oneLine (.nest amount body) content
  | union {flat broken : Doc} {content : Content} (carriesFlat : Carries true flat content)
    (carriesBroken : Carries false broken content) : Carries false (.union flat broken) content
  | column {oneLine : Bool} {body : Nat → Doc} {content : Content}
    (carries : ∀ start, Carries oneLine (body start) content) : Carries oneLine (.column body) content
  | columns {oneLine : Bool} {body : Option Nat → Doc} {content : Content}
    (carries : ∀ width, Carries oneLine (body width) content) : Carries oneLine (.columns body) content
  | nesting {oneLine : Bool} {body : Int → Doc} {content : Content}
    (carries : ∀ level, Carries oneLine (body level) content) : Carries oneLine (.nesting body) content
  | styled {oneLine : Bool} {body : Doc} {content : Content} (change : Change)
    (carries : Carries oneLine body content) :
    Carries oneLine (.styled change body) (content.within change)

namespace Carries

/-- What a document carries it carries on one line too. -/
theorem flatten {oneLine : Bool} {doc : Doc} {content : Content}
    (carries : Carries oneLine doc content) : Carries true doc.flatten content := by
  induction carries with
  | fail content =>
    rw [flatten_fail]
    exact .fail content
  | empty =>
    rw [flatten_empty]
    exact .empty
  | literal piece =>
    rw [flatten_literal]
    exact .literal piece
  | newline =>
    rw [flatten_newline]
    exact .fail []
  | flatAlt carriesBroken carriesFlat ihBroken ihFlat =>
    rw [flatten_flatAlt]
    exact carriesFlat
  | cat carriesLeft carriesRight ihLeft ihRight =>
    rw [flatten_cat]
    exact .cat ihLeft ihRight
  | nest amount carries ih =>
    rw [flatten_nest]
    exact .nest amount ih
  | union carriesFlat carriesBroken ihFlat ihBroken =>
    rw [flatten_union]
    exact ihFlat
  | column carries ih =>
    rw [flatten_column]
    exact .column ih
  | columns carries ih =>
    rw [flatten_columns]
    exact .columns ih
  | nesting carries ih =>
    rw [flatten_nesting]
    exact .nesting ih
  | styled change carries ih =>
    rw [flatten_styled]
    exact .styled change ih

theorem group {doc : Doc} {content : Content} (carries : Carries false doc content) :
    Carries false doc.group content :=
  .union carries.flatten carries

/-- The content of a document shows in its layout, before what comes after it. On one line that is so
unless there is a failure on the line. -/
theorem painted_layoutThen {oneLine : Bool} {doc : Doc} {content : Content}
    (carries : Carries oneLine doc content) (page : Page) (level : Int64)
    {rest : Cursor → List Token} {later : List (Char × Style)} (cursor : Cursor)
    (after : ∀ stop, stop.style = cursor.style →
      (oneLine = true → .fail ∉ firstLine (rest stop)) → painted stop.style (rest stop) = later)
    (feasible : oneLine = true → .fail ∉ firstLine (doc.layoutThen page level rest cursor)) :
    painted cursor.style (doc.layoutThen page level rest cursor) =
      content.paint cursor.style ++ later := by
  induction carries generalizing level rest later cursor with
  | fail content => exact absurd List.mem_cons_self (feasible rfl)
  | empty => exact after cursor rfl feasible
  | literal piece =>
    have shown : ((visible piece.text).map (·, [])).map (fun shown : Char × List Change =>
        (shown.1, shown.2.foldl Style.apply cursor.style)) =
        (visible piece.text).map (·, cursor.style) := by
      simp
    rw [Content.paint, shown]
    refine congrArg (_ ++ ·) (after (cursor.read (.text piece)) rfl ?_)
    intro isOneLine fails
    exact feasible isOneLine (List.mem_cons_of_mem _ fails)
  | newline =>
    exact after (cursor.read (.line level.toNatClampNeg)) rfl (by simp)
  | flatAlt carriesBroken carriesFlat ihBroken ihFlat => exact ihBroken level cursor after feasible
  | cat carriesLeft carriesRight ihLeft ihRight =>
    rw [Content.paint_append, List.append_assoc]
    refine ihLeft level cursor ?_ feasible
    intro stop sameStyle feasibleRight
    rw [← sameStyle] at after ⊢
    exact ihRight level stop after feasibleRight
  | nest amount carries ih => exact ih _ cursor after feasible
  | union carriesFlat carriesBroken ihFlat ihBroken =>
    rw [layoutThen]
    split
    · rename_i fits
      have line := ((page.fits_iff_lines ..).mp fits).1
      exact ihFlat level cursor (fun stop sameStyle _ => after stop sameStyle (by simp)) (fun _ => line.1)
    · exact ihBroken level cursor after (by simp)
  | column carries ih => exact ih _ level cursor after feasible
  | columns carries ih => exact ih _ level cursor after feasible
  | nesting carries ih => exact ih _ level cursor after feasible
  | styled change carries ih =>
    have entered : (cursor.read (.format (cursor.style.codesFor change))).style =
        cursor.style.apply change := by
      rw [Cursor.read_codesFor]
    rw [Content.paint_within, ← entered]
    refine ih level (cursor.read (.format (cursor.style.codesFor change))) ?_ ?_
    · intro stop _ feasibleRest
      have left : (stop.read (.format cursor.style.codes)).style = cursor.style := by
        rw [Cursor.read_codes]
      refine after (stop.read (.format cursor.style.codes)) left ?_
      intro isOneLine fails
      exact feasibleRest isOneLine (List.mem_cons_of_mem _ fails)
    · intro isOneLine fails
      exact feasible isOneLine (List.mem_cons_of_mem _ fails)

end Carries
end Doc

theorem Rendered.writeAfter_append (escape : Escape) (before : String) (first second : List Token) :
    writeAfter escape before (first ++ second) =
      (writeAfter escape before first).bind fun text => writeAfter escape text second := by
  induction first generalizing before with
  | nil => rfl
  | cons token rest ih =>
    cases token with
    | text piece => exact ih _
    | line indent => exact ih _
    | format codes => exact ih _
    | fail => rfl

/-- A compact rendering under way whose text, in every spelling of the codes, shows these characters. -/
def Compaction.Shows (state : Compaction) (chars : List Char) : Prop :=
  state.failed = false ∧ ∀ escape : Escape, ∃ text,
    Rendered.writeAfter escape "" state.tokens.toList = .ok text ∧ visible text = chars

/-- A compact rendering goes on to show the content of a document. -/
theorem Doc.Carries.shows_add {oneLine : Bool} {doc : Doc} {content : Content}
    (carries : Carries oneLine doc content) (broken : oneLine = false) (state : Compaction)
    {chars : List Char} (shows : state.Shows chars) :
    (state.add doc).Shows (chars ++ content.map Prod.fst) := by
  induction carries generalizing state chars with
  | fail content => cases broken
  | empty => simpa using shows
  | literal piece =>
    obtain ⟨running, written⟩ := shows
    refine ⟨by simp [Compaction.add, running], fun escape => ?_⟩
    obtain ⟨text, before, sees⟩ := written escape
    refine ⟨text ++ piece.text, ?_, by simp [sees, Function.comp_def]⟩
    simp [Compaction.add, running, Rendered.writeAfter_append, before, Except.bind,
      Rendered.writeAfter]
  | newline =>
    obtain ⟨running, written⟩ := shows
    refine ⟨by simp [Compaction.add, running], fun escape => ?_⟩
    obtain ⟨text, before, sees⟩ := written escape
    refine ⟨text.push '\n', ?_, by simp [visible, ← sees]⟩
    simp [Compaction.add, running, Rendered.writeAfter_append, before, Except.bind,
      Rendered.writeAfter, String.pushn, Nat.repeat]
  | flatAlt carriesBroken carriesFlat ihBroken ihFlat =>
    rw [Compaction.add_flatAlt]
    exact ihBroken broken state shows
  | cat carriesLeft carriesRight ihLeft ihRight =>
    rw [Compaction.add_cat, List.map_append, ← List.append_assoc]
    exact ihRight broken _ (ihLeft broken state shows)
  | nest amount carries ih =>
    rw [Compaction.add_nest]
    exact ih broken state shows
  | union carriesFlat carriesBroken ihFlat ihBroken =>
    rw [Compaction.add_union]
    exact ihBroken broken state shows
  | column carries ih =>
    rw [Compaction.add_column]
    exact ih _ broken state shows
  | columns carries ih =>
    rw [Compaction.add_columns]
    exact ih _ broken state shows
  | nesting carries ih =>
    rw [Compaction.add_nesting]
    exact ih _ broken state shows
  | styled change carries ih =>
    rw [Compaction.add_styled, Content.chars_within]
    exact ih broken state shows

/-- A document put together by the combinators that have the same content on one line and broken. -/
inductive Term where
  | text (written : String)
  | empty
  | hardline
  | line
  | linebreak
  | softline
  | softbreak
  | beside (left right : Term)
  | nest (amount : Int) (body : Term)
  | group (body : Term)
  | styled (change : Change) (body : Term)
  | align (body : Term)
  | hang (amount : Int) (body : Term)
  | indent (amount : Nat) (body : Term)
  | fill (target : Nat) (body : Term)
  | fillBreak (target : Nat) (body : Term)

namespace Term

def doc : Term → Doc
  | .text written => .text written
  | .empty => .empty
  | .hardline => .newline
  | .line => .line
  | .linebreak => .linebreak
  | .softline => .softline
  | .softbreak => .softbreak
  | .beside left right => left.doc + right.doc
  | .nest amount body => .nest amount body.doc
  | .group body => .group body.doc
  | .styled change body => .styled change body.doc
  | .align body => .align body.doc
  | .hang amount body => .hang amount body.doc
  | .indent amount body => .indent amount body.doc
  | .fill target body => .fill target body.doc
  | .fillBreak target body => .fillBreak target body.doc

/-- The texts of a document, in their order. -/
def leaves : Term → List String
  | .text written => [written]
  | .empty | .hardline | .line | .linebreak | .softline | .softbreak => []
  | .beside left right => left.leaves ++ right.leaves
  | .nest _ body | .group body | .styled _ body | .align body | .hang _ body | .indent _ body
  | .fill _ body | .fillBreak _ body => body.leaves

/-- What a document shows, each character with the changes around it. -/
def content : Term → Content
  | .text written => (visible written).map (·, [])
  | .empty | .hardline | .line | .linebreak | .softline | .softbreak => []
  | .beside left right => left.content ++ right.content
  | .styled change body => body.content.within change
  | .nest _ body | .group body | .align body | .hang _ body | .indent _ body
  | .fill _ body | .fillBreak _ body => body.content

/-- The characters that a document shows are those of its texts. -/
theorem chars_content (term : Term) : term.content.map Prod.fst = term.leaves.flatMap visible := by
  induction term with
  | text written => simp [content, leaves, Function.comp_def]
  | empty | hardline | line | linebreak | softline | softbreak => rfl
  | beside left right ihLeft ihRight => simp [content, leaves, ihLeft, ihRight]
  | styled change body ih => simp [content, leaves, ih]
  | nest _ body ih | group body ih | align body ih | hang _ body ih | indent _ body ih
  | fill _ body ih | fillBreak _ body ih => exact ih

end Term

namespace Doc.Carries

theorem text {oneLine : Bool} (written : String) :
    Carries oneLine (.text written) ((visible written).map (·, [])) := by
  rw [Doc.text]
  split
  · rename_i isEmpty
    simp [visible, String.isEmpty_iff.mp isEmpty, Carries.empty]
  · exact .literal _

/-- Spaces do not show. -/
theorem spaces {oneLine : Bool} (count : Nat) : Carries oneLine (.spaces count) [] := by
  have blank : visible (String.ofList (List.replicate count ' ')) = [] := by
    simp [visible]
  have carries : Carries oneLine (.spaces count) _ := .text (String.ofList (List.replicate count ' '))
  rwa [blank] at carries

theorem line : Carries false .line [] := .flatAlt .newline (.text " ")

theorem linebreak : Carries false .linebreak [] := .flatAlt .newline .empty

theorem align {doc : Doc} {content : Content} (carries : Carries false doc content) :
    Carries false doc.align content :=
  .column fun _ => .nesting fun _ => .nest _ carries

/-- What is added for the width of a document adds no content if it shows nothing for any width. -/
theorem width {doc : Doc} {content : Content} (carries : Carries false doc content)
    {after : Nat → Doc} (blank : ∀ taken, Carries false (after taken) []) :
    Carries false (doc.width after) content := by
  refine .column fun start => ?_
  have carriesBoth := carries.cat (.column fun stop => blank (stop - start))
  rwa [List.append_nil] at carriesBoth

end Doc.Carries

/-- A document carries what it shows. -/
theorem Term.carries (term : Term) : Doc.Carries false term.doc term.content := by
  induction term with
  | text written => exact .text written
  | empty => exact .empty
  | hardline => exact .newline
  | line => exact .line
  | linebreak => exact .linebreak
  | softline => exact Doc.Carries.line.group
  | softbreak => exact Doc.Carries.linebreak.group
  | beside left right ihLeft ihRight => exact .cat ihLeft ihRight
  | nest amount body ih => exact .nest amount ih
  | group body ih => exact ih.group
  | styled change body ih => exact .styled change ih
  | align body ih => exact ih.align
  | hang amount body ih => exact (Doc.Carries.nest amount ih).align
  | indent amount body ih => exact (Doc.Carries.nest amount (.cat (.spaces amount) ih)).align
  | fill target body ih =>
    have padding : ∀ taken, Doc.Carries false
        (if taken ≥ target then .empty else .spaces (target - taken)) [] := by
      intro taken
      split
      · exact .empty
      · exact .spaces _
    exact ih.width padding
  | fillBreak target body ih =>
    have padding : ∀ taken, Doc.Carries false
        (if taken > target then .nest target .linebreak else .spaces (target - taken)) [] := by
      intro taken
      split
      · exact .nest _ .linebreak
      · exact .spaces _
    exact ih.width padding

theorem Term.wellBuilt (term : Term) : term.doc.WellBuilt := by
  induction term with
  | text written => exact .text written
  | empty => exact .empty
  | hardline => exact .newline
  | line => exact .line
  | linebreak => exact .linebreak
  | softline => exact .group .line
  | softbreak => exact .group .linebreak
  | beside left right ihLeft ihRight => exact .cat ihLeft ihRight
  | nest amount body ih => exact .nest amount ih
  | group body ih => exact .group ih
  | styled change body ih => exact .styled change ih
  | align body ih => exact ih.align
  | hang amount body ih => exact (Doc.WellBuilt.nest amount ih).align
  | indent amount body ih => exact (Doc.WellBuilt.nest amount (.cat (.text _) ih)).align
  | fill target body ih =>
    have padding : ∀ taken, Doc.WellBuilt
        (if taken ≥ target then .empty else .spaces (target - taken)) := by
      intro taken
      split
      · exact .empty
      · exact .text _
    exact ih.width padding
  | fillBreak target body ih =>
    have padding : ∀ taken, Doc.WellBuilt
        (if taken > target then .nest target .linebreak else .spaces (target - taken)) := by
      intro taken
      split
      · exact .nest _ .linebreak
      · exact .text _
    exact ih.width padding

/-- On every page a document shows the same characters in the same styles. -/
theorem Term.painted_render (term : Term) (page : Page) :
    painted .plain (term.doc.render page).tokens = term.content.paint .plain := by
  rw [Doc.tokens_render]
  have nothing : ∀ stop : Cursor, stop.style = .plain →
      (false = true → .fail ∉ firstLine []) → painted stop.style [] = [] := fun _ _ _ => rfl
  have shown := term.carries.painted_layoutThen page 0 {} nothing (by simp)
  rwa [List.append_nil] at shown

/-- A layout changes neither content nor its style: a document has a layout on every page, and two of
them, on whatever pages, show the same characters in the same styles. They are the characters of its
texts, and the compact rendering shows those too. -/
theorem layout_keeps_content_and_style (term : Term) :
    (∀ page : Page, .fail ∉ (term.doc.render page).tokens) ∧
    (∀ page other : Page, painted .plain (term.doc.render page).tokens =
      painted .plain (term.doc.render other).tokens) ∧
    (∀ page : Page, (painted .plain (term.doc.render page).tokens).map Prod.fst =
      term.leaves.flatMap visible) ∧
    ∀ escape : Escape, ∃ text, term.doc.compact.write? escape = .ok text ∧
      visible text = term.leaves.flatMap visible := by
  refine ⟨term.wellBuilt.unfailing_render, fun page other => ?_, fun page => ?_, ?_⟩
  · rw [term.painted_render, term.painted_render]
  · rw [term.painted_render, ← term.chars_content]
    simp [Content.paint]
  · have blank : Compaction.Shows {} [] := ⟨rfl, fun _ => ⟨"", rfl, rfl⟩⟩
    have shows := term.carries.shows_add rfl {} blank
    rw [List.nil_append, term.chars_content] at shows
    exact shows.2

end Typeset
