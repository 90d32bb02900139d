import Typeset.Doc.Enclose
import Typeset.Json.Value

/-! JSON values as documents: every kind of value in a colour of its own, arrays and objects as
bracketed lists, and each entry of an object on one line if it fits. How numbers and strings are written
is left to a writer. -/
namespace Typeset.Json

section
variable (writer : Writer)

def stringDoc (value : String) : Doc := .dquotes (.text (unquoted (writer.text (.string value))))

mutual

def doc : Json → Doc
  | null => .withEffect .italic (.coloured .lightPurple (.text "null"))
  | bool value => .coloured .lightPurple (.text (if value then "true" else "false"))
  | number value => .coloured .gold (.text (writer.number value))
  | string value => .coloured .green (stringDoc writer value)
  | array items => .list (itemDocs items)
  | object entries =>
    .encloseSep (.text "\x7b") (.text "\x7d") (.text ", ") (entryDocs entries)

def itemDocs : List Json → List Doc
  | [] => []
  | item :: items => doc item :: itemDocs items

/-- Entries as documents: the key, and the value after it or on a line of its own below. -/
def entryDocs : List (String × Json) → List Doc
  | [] => []
  | (key, value) :: entries =>
    .group (.coloured .aqua (stringDoc writer key) + .text ":" + .nest 2 (.line + doc value)) ::
      entryDocs entries

end

end

end Typeset.Json
