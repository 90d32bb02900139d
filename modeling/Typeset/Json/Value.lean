import Typeset.Json.Number

/-! JSON values and their compact text. The entries of an object are kept in an order, which is the
order in which they are written. -/
namespace Typeset

/-- A JSON value. -/
inductive Json where
  | null
  | bool (value : Bool)
  | number (value : Json.Number)
  | string (value : String)
  | array (items : List Json)
  | object (entries : List (String × Json))

namespace Json

/-- One hexadecimal digit. -/
def hexDigit (value : Nat) : Char := (Nat.toDigits 16 (value % 16)).getLastD '0'

/-- How one character is written inside a string. -/
def escapeChar (c : Char) : List Char :=
  if c = '"' then ['\\', '"']
  else if c = '\\' then ['\\', '\\']
  else if c = '\x08' then ['\\', 'b']
  else if c = '\x0c' then ['\\', 'f']
  else if c = '\n' then ['\\', 'n']
  else if c = '\r' then ['\\', 'r']
  else if c = '\t' then ['\\', 't']
  else if c.toNat < 0x20 then ['\\', 'u', '0', '0', hexDigit (c.toNat / 16), hexDigit c.toNat]
  else [c]

/-- What stands between the quotes of a string. -/
def escape (value : String) : String := String.ofList (value.toList.flatMap escapeChar)

def stringText (value : String) : String := "\"" ++ escape value ++ "\""

mutual

/-- A value written after the text before it. -/
def writeAfter (before : String) : Json → String
  | null => before ++ "null"
  | bool value => before ++ (if value then "true" else "false")
  | number value => before ++ value.text
  | string value => before ++ stringText value
  | array items => (writeItems (before.push '[') "" items).push ']'
  | object entries => (writeEntries (before.push '\x7b') "" entries).push '\x7d'

/-- Values written after the text before them, each after a separator: the given one, and then
commas. -/
def writeItems (before separator : String) : List Json → String
  | [] => before
  | item :: items => writeItems (writeAfter (before ++ separator) item) "," items

/-- Entries written after the text before them, each after a separator: the given one, and then
commas. -/
def writeEntries (before separator : String) : List (String × Json) → String
  | [] => before
  | (key, value) :: entries =>
    writeEntries (writeAfter (before ++ separator ++ stringText key ++ ":") value) "," entries

end

/-- The text of a value without any blanks. -/
def text (value : Json) : String := value.writeAfter ""

/-- A way of writing JSON without any blanks. -/
structure Writer where
  text : Json → String
  number : Number → String

/-- The way in which values are written here. -/
def Writer.compact : Writer := { text := Json.text, number := Number.text }

/-- What stands between the quotes of a written string. -/
def unquoted (written : String) : String := String.ofList (written.toList.drop 1).dropLast

/-- Entries with one more, in the order of their keys. An entry with the same key is replaced. -/
def putEntry (key : String) (value : Json) : List (String × Json) → List (String × Json)
  | [] => [(key, value)]
  | (other, held) :: entries =>
    if key < other then (key, value) :: (other, held) :: entries
    else if key = other then (key, value) :: entries
    else (other, held) :: putEntry key value entries

end Json
end Typeset
