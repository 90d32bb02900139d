import Typeset.Json.Lexeme

/-! A JSON text as it is written: its structure is known, but numbers are not yet values, entries of
an object stand in the order of the text, and a key may come twice. What a use of the text makes of
these is up to it; `Source.value?` is the use that takes the text for a value. -/
namespace Typeset.Json

/-- A JSON text as it is written. -/
inductive Source where
  | null
  | bool (value : Bool)
  | number (numeral : Numeral)
  | string (value : Option String)
  | array (items : List Source)
  | object (entries : List (Option String × Source))

namespace Source

/-- An array or object that is not closed yet, with what it holds so far, the last first. An object
also has the key of the entry that is being read. -/
inductive Open where
  | array (items : List Source)
  | object (entries : List (Option String × Source)) (key : Option String)

/-- What may come next in a text. -/
inductive Expected where
  /-- A value. -/
  | value
  /-- A value, or the end of an array that has just begun. -/
  | valueOrEnd
  /-- A key. -/
  | key
  /-- A key, or the end of an object that has just begun. -/
  | keyOrEnd
  /-- The colon after a key. -/
  | colon
  /-- A comma, or the end of the innermost array or object. -/
  | commaOrEnd
  /-- Nothing: the text is complete. -/
  | nothing (source : Source)

/-- A text read up to some point: the arrays and objects that are open, the innermost first, and
what comes next. -/
structure Reader where
  opened : List Open
  expected : Expected

namespace Reader

/-- After a complete value. -/
def give (opened : List Open) (source : Source) : Reader :=
  match opened with
  | [] => ⟨[], .nothing source⟩
  | .array items :: outer => ⟨.array (source :: items) :: outer, .commaOrEnd⟩
  | .object entries key :: outer => ⟨.object ((key, source) :: entries) none :: outer, .commaOrEnd⟩

/-- After a piece at which a value may begin. -/
def beginValue? (opened : List Open) : Lexeme → Option Reader
  | .null => some (give opened .null)
  | .bool value => some (give opened (.bool value))
  | .number numeral => some (give opened (.number numeral))
  | .string value => some (give opened (.string value))
  | .mark '[' => some ⟨.array [] :: opened, .valueOrEnd⟩
  | .mark '\x7b' => some ⟨.object [] none :: opened, .keyOrEnd⟩
  | .mark _ => none

/-- After the end of the innermost array or object. -/
def close? : List Open → Char → Option Reader
  | .array items :: outer, ']' => some (give outer (.array items.reverse))
  | .object entries _ :: outer, '\x7d' => some (give outer (.object entries.reverse))
  | _, _ => none

/-- After a key. -/
def beginEntry? : List Open → Lexeme → Option Reader
  | .object entries _ :: outer, .string key => some ⟨.object entries key :: outer, .colon⟩
  | _, _ => none

/-- After one more piece; none if it may not come here. -/
def read? (reader : Reader) (lexeme : Lexeme) : Option Reader :=
  match reader.expected with
  | .nothing _ => none
  | .value => beginValue? reader.opened lexeme
  | .valueOrEnd =>
    if lexeme = .mark ']' then close? reader.opened ']' else beginValue? reader.opened lexeme
  | .key => beginEntry? reader.opened lexeme
  | .keyOrEnd =>
    if lexeme = .mark '\x7d' then close? reader.opened '\x7d'
    else beginEntry? reader.opened lexeme
  | .colon => if lexeme = .mark ':' then some ⟨reader.opened, .value⟩ else none
  | .commaOrEnd =>
    match lexeme, reader.opened with
    | .mark ',', .array _ :: _ => some ⟨reader.opened, .value⟩
    | .mark ',', .object _ _ :: _ => some ⟨reader.opened, .key⟩
    | .mark c, opened => close? opened c
    | _, _ => none

end Reader

/-- A text as it is written; none if it is not exactly one JSON value with blanks around it. -/
def parse? (text : String) : Option Source := do
  let lexemes ← lexemes? text.toList
  let reader ← lexemes.foldlM Reader.read? ⟨[], .value⟩
  match reader.expected with
  | .nothing source => some source
  | _ => none

mutual

/-- The value of a text in which arrays and objects are nested no more deeply than a limit; none if
they are, or if a number or a string has no value. -/
def value? (limit : Nat) : Source → Option Json
  | null => some .null
  | bool value => some (.bool value)
  | number numeral => numeral.value?.map .number
  | string value => value.map .string
  | array items => if limit = 0 then none else (items? (limit - 1) items).map .array
  | object entries => if limit = 0 then none else (entries? (limit - 1) [] entries).map .object

/-- The values of texts. -/
def items? (limit : Nat) : List Source → Option (List Json)
  | [] => some []
  | item :: items => do
    let value ← value? limit item
    let values ← items? limit items
    return value :: values

/-- The values of entries, added to entries in the order of their keys; the last of several entries
with one key stays. -/
def entries? (limit : Nat) (before : List (String × Json)) :
    List (Option String × Source) → Option (List (String × Json))
  | [] => some before
  | (key, source) :: entries => do
    let key ← key
    let value ← value? limit source
    entries? limit (putEntry key value before) entries

end

end Source

/-- How deeply arrays and objects may be nested in a text. -/
def nestingLimit : Nat := 127

/-- The value of a JSON text; none if it is not exactly one JSON value with blanks around it, is
nested too deeply, or holds a number or a string that has no value. -/
def parse? (text : String) : Option Json := (Source.parse? text).bind (Source.value? nestingLimit)

end Typeset.Json
