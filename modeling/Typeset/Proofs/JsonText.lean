import Mathlib.Data.List.Basic
import Typeset.Json.Value

/-! The compact text of JSON, read character by character. A blank counts only inside a string, where
quotes and backslashes are escaped, so that a reader who knows whether a character stands inside a string
can take the other blanks out. What is relied on of a way of writing JSON is stated here, and shown of the
one that values are written in: strings are quoted, numbers are plain, and arrays and objects are in parts
with no blank between them. -/
namespace Typeset.Json

/-- A character that is not a control character. -/
def IsShown (char : Char) : Prop := 0x20 ≤ char.toNat

instance : DecidablePred IsShown := fun char => inferInstanceAs (Decidable (0x20 ≤ char.toNat))

/-- A character of words, numbers and punctuation: neither a control character, a space nor a quote. -/
def IsPlain (char : Char) : Prop := IsShown char ∧ char ≠ ' ' ∧ char ≠ '"'

instance : DecidablePred IsPlain :=
  fun char => inferInstanceAs (Decidable (IsShown char ∧ char ≠ ' ' ∧ char ≠ '"'))

/-- Where a reader of JSON stands with regard to strings. -/
inductive Spot where
  | outside
  | inside
  /-- In a string, after a backslash. -/
  | escaped
  deriving DecidableEq

namespace Spot

/-- Where the reader stands after a character. -/
def after : Spot → Char → Spot
  | outside, char => if char = '"' then inside else outside
  | inside, char => if char = '"' then outside else if char = '\\' then escaped else inside
  | escaped, _ => inside

/-- Whether a character is more than a blank outside strings. -/
def keeps : Spot → Char → Bool
  | outside, char => char != ' ' && char != '\n'
  | inside, _ | escaped, _ => true

/-- The characters less the spaces and newlines outside strings, from a spot on. -/
def withoutBlanks : Spot → List Char → List Char
  | _, [] => []
  | spot, char :: rest =>
    if spot.keeps char then char :: withoutBlanks (spot.after char) rest
    else withoutBlanks (spot.after char) rest

/-- From a spot to another, a reader of characters finds these without the blanks. -/
inductive Reads : Spot → List Char → List Char → Spot → Prop where
  | nil {spot : Spot} : Reads spot [] [] spot
  | keep {spot stop : Spot} {char : Char} {rest kept : List Char} (keeps : spot.keeps char = true)
    (reads : Reads (spot.after char) rest kept stop) : Reads spot (char :: rest) (char :: kept) stop
  | skip {spot stop : Spot} {char : Char} {rest kept : List Char} (skips : spot.keeps char = false)
    (reads : Reads (spot.after char) rest kept stop) : Reads spot (char :: rest) kept stop

namespace Reads

variable {spot middle stop : Spot} {chars kept : List Char}

theorem withoutBlanks_eq (reads : Reads spot chars kept stop) : spot.withoutBlanks chars = kept := by
  induction reads with
  | nil => rfl
  | keep keeps reads ih => rw [withoutBlanks, if_pos keeps, ih]
  | skip skips reads ih => rw [withoutBlanks, if_neg (by simp [skips]), ih]

example : outside.withoutBlanks "[ \"a \\\" b\",\n 1 ]".toList = "[\"a \\\" b\",1]".toList := by decide

theorem append (first : Reads spot chars kept middle) {others keptOthers : List Char}
    (second : Reads middle others keptOthers stop) :
    Reads spot (chars ++ others) (kept ++ keptOthers) stop := by
  induction first with
  | nil => exact second
  | keep keeps reads ih => exact .keep keeps (ih second)
  | skip skips reads ih => exact .skip skips (ih second)

/-- Blanks outside strings leave nothing. -/
theorem blanks (blank : ∀ char ∈ chars, char = ' ' ∨ char = '\n') :
    Reads .outside chars [] .outside := by
  induction chars with
  | nil => exact .nil
  | cons char rest ih =>
    obtain ⟨here, later⟩ := List.forall_mem_cons.mp blank
    rcases here with rfl | rfl
    · exact .skip rfl (ih later)
    · exact .skip rfl (ih later)

/-- Plain characters are all kept. -/
theorem plain (plain : ∀ char ∈ chars, IsPlain char) : Reads .outside chars chars .outside := by
  induction chars with
  | nil => exact .nil
  | cons char rest ih =>
    obtain ⟨⟨shown, notSpace, notQuote⟩, later⟩ := List.forall_mem_cons.mp plain
    have notNewline : char ≠ '\n' := by
      rintro rfl
      exact absurd shown (by decide)
    have stays : Spot.outside.after char = .outside := if_neg notQuote
    refine .keep (by simp [keeps, notSpace, notNewline]) ?_
    rw [stays]
    exact ih later

/-- A character inside a string that is neither a quote nor a backslash. -/
theorem character {char : Char} (notQuote : char ≠ '"') (notBackslash : char ≠ '\\') :
    Reads .inside [char] [char] .inside := by
  have stays : Spot.inside.after char = .inside := by simp [after, notQuote, notBackslash]
  refine .keep rfl ?_
  rw [stays]
  exact .nil

end Reads
end Spot

/-- What may stand between the quotes of a string: quotes and backslashes only after a backslash, and no
control character. -/
inductive StringBody : List Char → Prop where
  | nil : StringBody []
  | char {char : Char} {rest : List Char} (shown : IsShown char) (notQuote : char ≠ '"')
    (notBackslash : char ≠ '\\') (body : StringBody rest) : StringBody (char :: rest)
  | escape {char : Char} {rest : List Char} (shown : IsShown char) (body : StringBody rest) :
    StringBody ('\\' :: char :: rest)

namespace StringBody
variable {chars : List Char}

/-- A reader keeps the body of a string, and is inside the string after it. -/
theorem reads (body : StringBody chars) : Spot.Reads .inside chars chars .inside := by
  induction body with
  | nil => exact .nil
  | char shown notQuote notBackslash body ih => exact (Spot.Reads.character notQuote notBackslash).append ih
  | escape shown body ih => exact .keep rfl (.keep rfl ih)

theorem shown (body : StringBody chars) : ∀ char ∈ chars, IsShown char := by
  induction body with
  | nil => simp
  | char shown notQuote notBackslash body ih => exact List.forall_mem_cons.mpr ⟨shown, ih⟩
  | escape shown body ih =>
    exact List.forall_mem_cons.mpr ⟨by decide, List.forall_mem_cons.mpr ⟨shown, ih⟩⟩

end StringBody

/-- The text of an entry, as a writer writes it. -/
def Writer.entryText (writer : Writer) (entry : String × Json) : List Char :=
  (writer.text (.string entry.1)).toList ++ ':' :: (writer.text entry.2).toList

/-- What is relied on of a writer. -/
structure Writer.Lawful (writer : Writer) : Prop where
  null : writer.text .null = "null"
  bool : ∀ value, writer.text (.bool value) = if value then "true" else "false"
  number : ∀ value, writer.text (.number value) = writer.number value
  /-- Numbers have no blanks and no quotes. -/
  plain : ∀ value, ∀ char ∈ (writer.number value).toList, IsPlain char
  string : ∀ value, ∃ body, StringBody body ∧
    (writer.text (.string value)).toList = '"' :: body ++ ['"']
  array : ∀ items, (writer.text (.array items)).toList =
    '[' :: [','].intercalate (items.map fun item => (writer.text item).toList) ++ [']']
  object : ∀ entries, (writer.text (.object entries)).toList =
    '\x7b' :: [','].intercalate (entries.map writer.entryText) ++ ['\x7d']

/-- The body of a written string is what stands between its quotes. -/
theorem Writer.Lawful.unquoted_string {writer : Writer} (lawful : writer.Lawful) (value : String) :
    StringBody (unquoted (writer.text (.string value))).toList ∧
      (writer.text (.string value)).toList =
        ['"'] ++ (unquoted (writer.text (.string value))).toList ++ ['"'] := by
  obtain ⟨body, isBody, written⟩ := lawful.string value
  have between : (unquoted (writer.text (.string value))).toList = body := by
    simp [unquoted, written]
  rw [between, written]
  exact ⟨isBody, rfl⟩

/-! The compact text of values is written by a lawful writer. -/

theorem hexDigit_spec (value : Nat) :
    IsShown (hexDigit value) ∧ hexDigit value ≠ '"' ∧ hexDigit value ≠ '\\' := by
  have digits : ∀ digit < 16, IsShown ((Nat.toDigits 16 digit).getLastD '0') ∧
      (Nat.toDigits 16 digit).getLastD '0' ≠ '"' ∧
      (Nat.toDigits 16 digit).getLastD '0' ≠ '\\' := by
    decide
  exact digits (value % 16) (Nat.mod_lt value (by decide))

/-- However a character is written inside a string, quotes and backslashes are escaped. -/
theorem StringBody.escapeChar (char : Char) {rest : List Char} (body : StringBody rest) :
    StringBody (escapeChar char ++ rest) := by
  unfold Json.escapeChar
  split_ifs with isQuote isBackslash _ _ _ _ _ control
  all_goals try exact .escape (by decide) body
  · have digit (value : Nat) {rest : List Char} (body : StringBody rest) :
        StringBody (hexDigit value :: rest) := by
      obtain ⟨shown, notQuote, notBackslash⟩ := hexDigit_spec value
      exact .char shown notQuote notBackslash body
    have zero {rest : List Char} (body : StringBody rest) : StringBody ('0' :: rest) :=
      .char (by decide) (by decide) (by decide) body
    exact .escape (by decide) (zero (zero (digit _ (digit _ body))))
  · exact .char (Nat.not_lt.mp control) isQuote isBackslash body

theorem stringBody_escape (value : String) : StringBody (escape value).toList := by
  rw [escape, String.toList_ofList]
  induction value.toList with
  | nil => exact .nil
  | cons char rest ih => exact ih.escapeChar char

/-- A character of a number. -/
def IsNumeric (char : Char) : Prop := char.isDigit = true ∨ char ∈ ['-', '+', '.', 'e']

instance : DecidablePred IsNumeric :=
  fun char => inferInstanceAs (Decidable (char.isDigit = true ∨ char ∈ ['-', '+', '.', 'e']))

theorem IsNumeric.isPlain {char : Char} (numeric : IsNumeric char) : IsPlain char := by
  rcases numeric with digit | sign
  · obtain ⟨atLeast, -⟩ := Char.isDigit_iff_toNat.mp digit
    refine ⟨Nat.le_trans (by decide) atLeast, ?_, ?_⟩
    · rintro rfl
      exact absurd atLeast (by decide)
    · rintro rfl
      exact absurd atLeast (by decide)
  · have signs : ∀ char ∈ ['-', '+', '.', 'e'], IsPlain char := by simp [IsPlain, IsShown]
    exact signs char sign

theorem numeric_append {first second : List Char} (numericFirst : ∀ char ∈ first, IsNumeric char)
    (numericSecond : ∀ char ∈ second, IsNumeric char) :
    ∀ char ∈ first ++ second, IsNumeric char :=
  List.forall_mem_append.mpr ⟨numericFirst, numericSecond⟩

theorem numeric_toDigits (value : Nat) : ∀ char ∈ Nat.toDigits 10 value, IsNumeric char :=
  fun _ member => .inl (Nat.isDigit_of_mem_toDigits (by decide) (by decide) member)

theorem numeric_zeros (count : Nat) : ∀ char ∈ List.replicate count '0', IsNumeric char := by
  intro char member
  rw [List.eq_of_mem_replicate member]
  decide

theorem numeric_repr (value : Int) : ∀ char ∈ value.repr.toList, IsNumeric char := by
  cases value with
  | ofNat value => simpa [Int.repr, Nat.repr] using numeric_toDigits value
  | negSucc value =>
    have minus : IsNumeric '-' := by decide
    simpa [Int.repr, Nat.repr, minus] using numeric_toDigits (value + 1)

theorem numeric_withPoint {digits : List Char} (numeric : ∀ char ∈ digits, IsNumeric char)
    (place : Nat) : ∀ char ∈ withPoint digits place, IsNumeric char := by
  intro char member
  rw [withPoint, List.mem_append, List.mem_cons] at member
  rcases member with before | rfl | behind
  · exact numeric char (List.mem_of_mem_take before)
  · decide
  · exact numeric char (List.mem_of_mem_drop behind)

theorem numeric_decimalText (decimal : Decimal) :
    ∀ char ∈ decimalText decimal, IsNumeric char := by
  have digits := numeric_toDigits decimal.digits
  unfold decimalText
  extract_lets shortest point leading
  have leads : ∀ char ∈ leading, IsNumeric char := by
    unfold leading
    split_ifs
    · exact digits
    · exact numeric_withPoint digits 1
  split_ifs
  · exact numeric_append (numeric_append digits (numeric_zeros _)) (by simp [IsNumeric])
  · exact numeric_withPoint digits _
  · have start : ∀ char ∈ ['0', '.'], IsNumeric char := by simp [IsNumeric]
    exact numeric_append (numeric_append start (numeric_zeros _)) digits
  · exact numeric_append (numeric_append leads (by simp [IsNumeric])) (numeric_repr _)
  · exact numeric_append (numeric_append leads (by simp [IsNumeric])) (numeric_repr _)

theorem numeric_text (value : Number) : ∀ char ∈ value.text.toList, IsNumeric char := by
  cases value with
  | whole value => exact numeric_repr value
  | real value =>
    rw [Number.text, realText, String.toList_ofList]
    refine numeric_append ?_ ?_
    · split_ifs
      · simp [IsNumeric]
      · simp
    · split_ifs
      · simp [IsNumeric]
      · exact numeric_decimalText _

/-! The compact text does not depend on the text before it, so that it is in parts. -/

mutual

private theorem toList_writeAfter (before : String) : (value : Json) →
    (value.writeAfter before).toList = before.toList ++ (value.writeAfter "").toList
  | .null => by simp [writeAfter]
  | .bool value => by simp [writeAfter]
  | .number value => by simp [writeAfter]
  | .string value => by simp [writeAfter]
  | .array items => by
    rw [writeAfter, writeAfter, String.toList_push, String.toList_push,
      toList_writeItems (before.push '[') "" items, toList_writeItems ("".push '[') "" items]
    simp
  | .object entries => by
    rw [writeAfter, writeAfter, String.toList_push, String.toList_push,
      toList_writeEntries (before.push '\x7b') "" entries,
      toList_writeEntries ("".push '\x7b') "" entries]
    simp

private theorem toList_writeItems (before separator : String) : (items : List Json) →
    (writeItems before separator items).toList =
      before.toList ++ (writeItems "" separator items).toList
  | [] => by simp [writeItems]
  | item :: items => by
    rw [writeItems, writeItems, toList_writeItems (writeAfter (before ++ separator) item),
      toList_writeItems (writeAfter ("" ++ separator) item),
      toList_writeAfter (before ++ separator) item, toList_writeAfter ("" ++ separator) item]
    simp

private theorem toList_writeEntries (before separator : String) :
    (entries : List (String × Json)) →
    (writeEntries before separator entries).toList =
      before.toList ++ (writeEntries "" separator entries).toList
  | [] => by simp [writeEntries]
  | (key, value) :: entries => by
    rw [writeEntries, writeEntries,
      toList_writeEntries (writeAfter (before ++ separator ++ stringText key ++ ":") value),
      toList_writeEntries (writeAfter ("" ++ separator ++ stringText key ++ ":") value),
      toList_writeAfter (before ++ separator ++ stringText key ++ ":") value,
      toList_writeAfter ("" ++ separator ++ stringText key ++ ":") value]
    simp

end

/-- Parts with a separator between them are the first part, and each other one after a separator. -/
theorem intercalate_cons_eq (separator first : List Char) (rest : List (List Char)) :
    separator.intercalate (first :: rest) = first ++ rest.flatMap (separator ++ ·) := by
  induction rest generalizing first with
  | nil => simp
  | cons next rest ih =>
    rw [List.intercalate_cons_cons, ih, List.flatMap_cons, List.append_assoc, List.append_assoc]

/-- What is written part by part, each part after a separator and all but the first after a comma, is
the parts with commas between them. -/
private theorem separated_eq {Part : Type} (text : Part → List Char)
    (write : String → List Part → List Char) (none : ∀ separator, write separator [] = [])
    (more : ∀ separator part parts,
      write separator (part :: parts) = separator.toList ++ text part ++ write "," parts)
    (parts : List Part) : write "" parts = [','].intercalate (parts.map text) := by
  have later : ∀ parts, write "," parts = (parts.map text).flatMap ([','] ++ ·) := by
    intro parts
    induction parts with
    | nil => exact none ","
    | cons part parts ih => simp [more, ih]
  cases parts with
  | nil => exact none ""
  | cons part parts =>
    rw [more, later, List.map_cons, intercalate_cons_eq]
    simp

theorem text_string (value : String) : (string value).text = stringText value := by
  simp [text, writeAfter]

theorem toList_text_array (items : List Json) :
    (array items).text.toList =
      '[' :: [','].intercalate (items.map fun item => item.text.toList) ++ [']'] := by
  have separated := separated_eq (fun item : Json => item.text.toList)
    (fun separator items => (writeItems "" separator items).toList) (fun _ => rfl)
    (fun separator item items => by
      rw [writeItems, toList_writeItems, toList_writeAfter, text]
      simp) items
  rw [text, writeAfter, String.toList_push, toList_writeItems, separated]
  simp

theorem entryText_compact (entry : String × Json) : Writer.compact.entryText entry =
    (stringText entry.1).toList ++ ':' :: entry.2.text.toList := by
  rw [← text_string]
  rfl

theorem toList_text_object (entries : List (String × Json)) :
    (object entries).text.toList =
      '\x7b' :: [','].intercalate (entries.map Writer.compact.entryText) ++ ['\x7d'] := by
  have separated := separated_eq Writer.compact.entryText
    (fun separator entries => (writeEntries "" separator entries).toList) (fun _ => rfl)
    (fun separator entry entries => by
      rw [writeEntries, toList_writeEntries, toList_writeAfter, entryText_compact, text]
      simp) entries
  rw [text, writeAfter, String.toList_push, toList_writeEntries, separated]
  simp

theorem Writer.lawful_compact : Writer.compact.Lawful where
  null := rfl
  bool value := by cases value <;> rfl
  number value := by
    change (Json.number value).text = value.text
    simp [Json.text, writeAfter]
  plain value char member := (numeric_text value char member).isPlain
  string value := by
    refine ⟨(escape value).toList, stringBody_escape value, ?_⟩
    change (Json.string value).text.toList = _
    simp [text_string, stringText]
  array := toList_text_array
  object := toList_text_object

end Typeset.Json
