import Mathlib.Data.List.Forall2
import Typeset.Inspect.Answer
import Typeset.Proofs.JsonText
import Typeset.Proofs.Spelling
import Typeset.Proofs.Texts

/-! Printing JSON preserves it. The document of a value breaks lines and puts spaces between the parts of
the value only, never inside a string, in whichever layout is taken: read without the blanks outside
strings, every layout of it is the compact text of the value. Nothing in the document can fail, and none
of its texts holds a control character, so that it is always rendered and its codes can be told from
its text. -/
namespace Typeset

open Json (Spot IsShown)

/-- Tokens without a failure that are read, from a spot to another, as these characters and blanks. -/
structure Printed (spot : Spot) (tokens : List Token) (kept : List Char) (stop : Spot) : Prop where
  unfailing : .fail ∉ tokens
  reads : spot.Reads (spelling .bare tokens) kept stop

namespace Printed

variable {spot middle stop : Spot} {first second : List Token} {kept more : List Char}

theorem nil : Printed spot [] [] spot := ⟨List.not_mem_nil, .nil⟩

theorem append (before : Printed spot first kept middle) (after : Printed middle second more stop) :
    Printed spot (first ++ second) (kept ++ more) stop := by
  refine ⟨?_, ?_⟩
  · rw [List.mem_append, not_or]
    exact ⟨before.unfailing, after.unfailing⟩
  · rw [spelling_append]
    exact before.reads.append after.reads

theorem text {piece : Literal} (reads : spot.Reads piece.text.toList kept stop) :
    Printed spot [.text piece] kept stop :=
  ⟨by simp, by simpa [Token.spelled] using reads⟩

/-- A newline and the indentation after it are blanks. -/
theorem line (indent : Nat) : Printed .outside [.line indent] [] .outside := by
  have blank : ∀ char ∈ '\n' :: List.replicate indent ' ', char = ' ' ∨ char = '\n' := by
    simp
  exact ⟨by simp, by simpa [Token.spelled] using Spot.Reads.blanks blank⟩

theorem format (codes : List Code) : Printed spot [.format codes] [] spot :=
  ⟨by simp, by simpa using Spot.Reads.nil⟩

end Printed

namespace Doc

/-- In every layout, a document prints these characters from one spot to another, and blanks outside
strings. No part of it fails, and its texts hold no control characters. -/
inductive Prints : Spot → Doc → List Char → Spot → Prop where
  | empty {spot : Spot} : Prints spot .empty [] spot
  | literal {spot stop : Spot} {piece : Literal} {kept : List Char}
    (shown : ∀ char ∈ piece.text.toList, IsShown char)
    (reads : spot.Reads piece.text.toList kept stop) : Prints spot (.literal piece) kept stop
  | newlineOr {flat : Doc} (prints : Prints .outside flat [] .outside) :
    Prints .outside (.flatAlt .newline flat) [] .outside
  | cat {spot middle stop : Spot} {left right : Doc} {first second : List Char}
    (printsLeft : Prints spot left first middle) (printsRight : Prints middle right second stop) :
    Prints spot (.cat left right) (first ++ second) stop
  | nest {spot stop : Spot} {body : Doc} {kept : List Char} (amount : Int)
    (prints : Prints spot body kept stop) : Prints spot (.nest amount body) kept stop
  | union {spot stop : Spot} {flat broken : Doc} {kept : List Char}
    (printsFlat : Prints spot flat kept stop) (printsBroken : Prints spot broken kept stop) :
    Prints spot (.union flat broken) kept stop
  | column {spot stop : Spot} {body : Nat → Doc} {kept : List Char}
    (prints : ∀ start, Prints spot (body start) kept stop) : Prints spot (.column body) kept stop
  | nesting {spot stop : Spot} {body : Int → Doc} {kept : List Char}
    (prints : ∀ level, Prints spot (body level) kept stop) : Prints spot (.nesting body) kept stop
  | styled {spot stop : Spot} {body : Doc} {kept : List Char} (change : Change)
    (prints : Prints spot body kept stop) : Prints spot (.styled change body) kept stop

/-- Each document prints its part, and a reader is outside strings before and after it. -/
abbrev PrintEach : List Doc → List (List Char) → Prop :=
  List.Forall₂ fun doc kept => Prints .outside doc kept .outside

namespace Prints

variable {spot middle stop : Spot} {doc : Doc} {kept : List Char}

theorem flatten (prints : Prints spot doc kept stop) : Prints spot doc.flatten kept stop := by
  induction prints with
  | empty =>
    rw [flatten_empty]
    exact .empty
  | literal shown reads =>
    rw [flatten_literal]
    exact .literal shown reads
  | newlineOr prints ih =>
    rw [flatten_flatAlt]
    exact prints
  | cat printsLeft printsRight ihLeft ihRight =>
    rw [flatten_cat]
    exact .cat ihLeft ihRight
  | nest amount prints ih =>
    rw [flatten_nest]
    exact .nest amount ih
  | union printsFlat printsBroken ihFlat ihBroken =>
    rw [flatten_union]
    exact ihFlat
  | column prints ih =>
    rw [flatten_column]
    exact .column ih
  | nesting prints ih =>
    rw [flatten_nesting]
    exact .nesting ih
  | styled change prints ih =>
    rw [flatten_styled]
    exact .styled change ih

theorem group (prints : Prints spot doc kept stop) : Prints spot doc.group kept stop :=
  .union prints.flatten prints

/-- Every layout prints what the document prints, before what comes after it. -/
theorem printed_layoutThen (prints : Prints spot doc kept stop) (page : Page) (level : Int64)
    {rest : Cursor → List Token} {later : List Char} {last : Spot}
    (after : ∀ cursor, Printed stop (rest cursor) later last) (cursor : Cursor) :
    Printed spot (doc.layoutThen page level rest cursor) (kept ++ later) last := by
  induction prints generalizing level rest later last cursor with
  | empty => exact after cursor
  | literal shown reads => exact (Printed.text reads).append (after _)
  | newlineOr prints ih => exact (Printed.line level.toNatClampNeg).append (after _)
  | cat printsLeft printsRight ihLeft ihRight =>
    rw [List.append_assoc]
    exact ihLeft level (ihRight level after) cursor
  | nest amount prints ih => exact ih (level + .ofInt amount) after cursor
  | union printsFlat printsBroken ihFlat ihBroken =>
    rw [layoutThen]
    split
    · exact ihFlat level after cursor
    · exact ihBroken level after cursor
  | column prints ih => exact ih _ level after cursor
  | nesting prints ih => exact ih _ level after cursor
  | styled change prints ih =>
    refine (Printed.format _).append (ih level ?_ _)
    intro stop
    exact (Printed.format _).append (after _)

/-- A compact rendering goes on to print what the document prints. -/
theorem printed_add (prints : Prints spot doc kept stop) (state : Compaction) {before : List Char}
    (running : state.failed = false) (printed : Printed .outside state.tokens.toList before spot) :
    (state.add doc).failed = false ∧
      Printed .outside (state.add doc).tokens.toList (before ++ kept) stop := by
  induction prints generalizing state before with
  | empty => simpa [running] using printed
  | literal shown reads =>
    have appended := printed.append (Printed.text reads)
    simpa [Compaction.add, running] using appended
  | newlineOr prints ih =>
    have appended := printed.append (Printed.line 0)
    simpa [Compaction.add, running] using appended
  | cat printsLeft printsRight ihLeft ihRight =>
    obtain ⟨running, printed⟩ := ihLeft state running printed
    rw [Compaction.add_cat, ← List.append_assoc]
    exact ihRight _ running printed
  | nest amount prints ih => simpa using ih state running printed
  | union printsFlat printsBroken ihFlat ihBroken => simpa using ihBroken state running printed
  | column prints ih => simpa using ih _ state running printed
  | nesting prints ih => simpa using ih _ state running printed
  | styled change prints ih => simpa using ih state running printed

theorem plain (prints : Prints spot doc kept stop) : Prints spot doc.plain kept stop := by
  induction prints with
  | empty =>
    rw [plain_empty]
    exact .empty
  | literal shown reads =>
    rw [plain_literal]
    exact .literal shown reads
  | newlineOr prints ih =>
    rw [plain_flatAlt, plain_newline]
    exact .newlineOr ih
  | cat printsLeft printsRight ihLeft ihRight =>
    rw [plain_cat]
    exact .cat ihLeft ihRight
  | nest amount prints ih =>
    rw [plain_nest]
    exact .nest amount ih
  | union printsFlat printsBroken ihFlat ihBroken =>
    rw [plain_union]
    exact .union ihFlat ihBroken
  | column prints ih =>
    rw [plain_column]
    exact .column ih
  | nesting prints ih =>
    rw [plain_nesting]
    exact .nesting ih
  | styled change prints ih =>
    rw [plain_styled]
    exact ih

/-- Whatever the options, a document is rendered to what it prints. -/
theorem printed_render (prints : Prints .outside doc kept stop) (options : Options) :
    Printed .outside (options.render doc).tokens kept stop := by
  have onPage : ∀ {doc : Doc}, Prints .outside doc kept stop → ∀ page : Page,
      Printed .outside (doc.render page).tokens kept stop := by
    intro doc prints page
    have printed := prints.printed_layoutThen page 0 (fun _ => Printed.nil) {}
    rwa [List.append_nil, ← tokens_render] at printed
  have byMode : ∀ {doc : Doc}, Prints .outside doc kept stop →
      Printed .outside (options.renderStyled doc).tokens kept stop := by
    intro doc prints
    rw [Options.renderStyled]
    cases options.mode with
    | pretty => exact onPage prints _
    | smart => exact onPage prints _
    | compact => exact (prints.printed_add {} rfl Printed.nil).2
  rw [Options.render]
  split
  · exact byMode prints
  · exact byMode prints.plain

/-- No text of the document holds a control character. -/
theorem texts (prints : Prints spot doc kept stop) :
    doc.Texts fun piece => ∀ char ∈ piece.text.toList, IsShown char := by
  induction prints with
  | empty => simp [Texts, Every]
  | literal shown reads =>
    intro other same
    cases same
    exact shown
  | newlineOr prints ih => exact ⟨by simp, by simp [Every], ih⟩
  | cat printsLeft printsRight ihLeft ihRight => exact ⟨by simp, ihLeft, ihRight⟩
  | nest amount prints ih => exact ⟨by simp, ih⟩
  | union printsFlat printsBroken ihFlat ihBroken => exact ⟨by simp, ihFlat, ihBroken⟩
  | column prints ih => exact ⟨by simp, ih⟩
  | nesting prints ih => exact ⟨by simp, ih⟩
  | styled change prints ih => exact ⟨by simp, ih⟩

theorem text {written : String} (shown : ∀ char ∈ written.toList, IsShown char)
    (reads : spot.Reads written.toList kept stop) : Prints spot (.text written) kept stop := by
  rw [Doc.text]
  split
  · rename_i isEmpty
    rw [String.isEmpty_iff.mp isEmpty] at reads
    cases reads
    exact .empty
  · exact .literal shown reads

theorem line : Prints .outside .line [] .outside :=
  .newlineOr (.text (by simp [IsShown]) (.blanks (by simp)))

theorem linebreak : Prints .outside .linebreak [] .outside := .newlineOr .empty

theorem align (prints : Prints spot doc kept stop) : Prints spot doc.align kept stop :=
  .column fun _ => .nesting fun _ => .nest _ prints

theorem vcat {docs : List Doc} {parts : List (List Char)} (prints : PrintEach docs parts) :
    Prints .outside (Doc.vcat docs) parts.flatten .outside := by
  induction prints with
  | nil => exact .empty
  | @cons doc part docs parts here later ih =>
    cases later with
    | nil => simpa [Doc.vcat, joinWith] using here
    | cons next further =>
      have joined := (here.cat linebreak).cat ih
      rwa [List.append_nil] at joined

/-- A list between brackets prints its parts, with separators between them. -/
theorem encloseSep {left right separator : Doc} {opening closing between : List Char}
    (printsLeft : Prints .outside left opening .outside)
    (printsRight : Prints .outside right closing .outside)
    (printsSeparator : Prints .outside separator between .outside)
    {docs : List Doc} {parts : List (List Char)} (prints : PrintEach docs parts) :
    Prints .outside (Doc.encloseSep left right separator docs)
      (opening ++ between.intercalate parts ++ closing) .outside := by
  cases prints with
  | nil =>
    rw [List.intercalate_nil, List.append_nil]
    exact printsLeft.cat printsRight
  | @cons first part docs parts here later =>
    have separated : PrintEach (docs.map fun doc => separator + doc)
        (parts.map (between ++ ·)) := by
      rw [PrintEach, List.forall₂_map_left_iff, List.forall₂_map_right_iff]
      exact later.imp fun _ _ prints => printsSeparator.cat prints
    have lines := (vcat (.cons (printsLeft.cat here) separated)).group.cat printsRight
    have kept : ((opening ++ part) :: parts.map (between ++ ·)).flatten ++ closing =
        opening ++ between.intercalate (part :: parts) ++ closing := by
      rw [Json.intercalate_cons_eq, List.flatten_cons, List.flatMap_def, List.append_assoc opening]
    rw [kept] at lines
    cases later with
    | nil =>
      rw [List.intercalate_singleton]
      exact (printsLeft.cat here).cat printsRight
    | cons next further => exact lines.align

end Prints
end Doc

namespace Json

/-- A text of plain characters is printed as it is. -/
theorem prints_plain {written : String} (plain : ∀ char ∈ written.toList, IsPlain char) :
    Doc.Prints .outside (.text written) written.toList .outside :=
  .text (fun char member => (plain char member).1) (.plain plain)

namespace Writer.Lawful
variable {writer : Writer}

theorem prints_stringDoc (lawful : writer.Lawful) (value : String) :
    Doc.Prints .outside (stringDoc writer value) (writer.text (.string value)).toList .outside := by
  obtain ⟨isBody, written⟩ := lawful.unquoted_string value
  have opens : Doc.Prints .outside (.text "\"") ['"'] .inside :=
    .text (by simp [IsShown]) (.keep rfl .nil)
  have closes : Doc.Prints .inside (.text "\"") ['"'] .outside :=
    .text (by simp [IsShown]) (.keep rfl .nil)
  have body : Doc.Prints .inside (.text (unquoted (writer.text (.string value))))
      (unquoted (writer.text (.string value))).toList .inside :=
    .text isBody.shown isBody.reads
  rw [written]
  exact (opens.cat body).cat closes

mutual

/-- The document of a value prints the text of the value. -/
theorem prints_doc (lawful : writer.Lawful) : (value : Json) →
    Doc.Prints .outside (value.doc writer) (writer.text value).toList .outside
  | .null => by
    rw [lawful.null]
    exact .styled _ (.styled _ (prints_plain (by simp [IsPlain, IsShown])))
  | .bool true => by
    rw [lawful.bool]
    exact .styled _ (prints_plain (by simp [IsPlain, IsShown]))
  | .bool false => by
    rw [lawful.bool]
    exact .styled _ (prints_plain (by simp [IsPlain, IsShown]))
  | .number value => by
    rw [lawful.number]
    exact .styled _ (prints_plain (lawful.plain value))
  | .string value => .styled _ (prints_stringDoc lawful value)
  | .array items => by
    have opening : Doc.Prints .outside (.text "[") ['['] .outside :=
      prints_plain (by simp [IsPlain, IsShown])
    have closing : Doc.Prints .outside (.text "]") [']'] .outside :=
      prints_plain (by simp [IsPlain, IsShown])
    have comma : Doc.Prints .outside (.text ",") [','] .outside :=
      prints_plain (by simp [IsPlain, IsShown])
    rw [lawful.array]
    exact .encloseSep opening closing comma (prints_itemDocs lawful items)
  | .object entries => by
    have opening : Doc.Prints .outside (.text "\x7b") ['\x7b'] .outside :=
      prints_plain (by simp [IsPlain, IsShown])
    have closing : Doc.Prints .outside (.text "\x7d") ['\x7d'] .outside :=
      prints_plain (by simp [IsPlain, IsShown])
    -- The separator of entries ends with a space, which is not kept.
    have comma : Doc.Prints .outside (.text ", ") [','] .outside :=
      .text (by simp [IsShown]) (.keep rfl (.skip rfl .nil))
    rw [lawful.object]
    exact .encloseSep opening closing comma (prints_entryDocs lawful entries)

theorem prints_itemDocs (lawful : writer.Lawful) : (items : List Json) →
    Doc.PrintEach (itemDocs writer items) (items.map fun item => (writer.text item).toList)
  | [] => .nil
  | item :: items => .cons (prints_doc lawful item) (prints_itemDocs lawful items)

theorem prints_entryDocs (lawful : writer.Lawful) : (entries : List (String × Json)) →
    Doc.PrintEach (entryDocs writer entries) (entries.map writer.entryText)
  | [] => .nil
  | (key, value) :: entries => by
    have colon : Doc.Prints .outside (.text ":") [':'] .outside :=
      prints_plain (by simp [IsPlain, IsShown])
    have keyed := (Doc.Prints.styled (.colour (some .aqua)) (prints_stringDoc lawful key)).cat colon
    have entry := (keyed.cat (.nest 2 (Doc.Prints.line.cat (prints_doc lawful value)))).group
    have kept : (writer.text (.string key)).toList ++ [':'] ++ ([] ++ (writer.text value).toList) =
        writer.entryText (key, value) := by
      simp [entryText]
    rw [kept] at entry
    exact .cons entry (prints_entryDocs lawful entries)

end

theorem oneLine_doc (lawful : writer.Lawful) (value : Json) : (value.doc writer).Texts Literal.IsOneLine := by
  refine (lawful.prints_doc value).texts.mono fun piece shown => ?_
  have absent : '\n' ∉ piece.text.toList := fun member => absurd (shown '\n' member) (by decide)
  simpa [Literal.IsOneLine, Literal.isOneLine] using absent

end Writer.Lawful
end Json

section
variable {writer : Json.Writer} (lawful : writer.Lawful) (value : Json)
include lawful

/-- A value is printed, whatever the arguments, as its document is rendered with their options. -/
theorem Inspect.exists_print (arguments : Arguments) :
    ∃ text, print? writer arguments value = .ok text ∧ text.toList =
      spelling arguments.codes.escape (arguments.options.render (value.doc writer)).tokens := by
  have unfailing := ((lawful.prints_doc value).printed_render arguments.options).unfailing
  obtain ⟨text, written, chars⟩ := Rendered.write_spelling arguments.codes.escape unfailing
  refine ⟨text, ?_, chars⟩
  rw [print?, arguments.options.render?_eq_ok (lawful.oneLine_doc value)]
  exact written

end

/-- An object with a key that holds quotes and a blank, and with an empty key. -/
def ledgerEntry : Json :=
  .object [("\"a b\"", .array [.number (.whole 12), .null]), ("", .string "x\ty")]

end Typeset
