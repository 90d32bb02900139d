import Typeset.Text.Unshown

/-! The quoted form in which a text is shown inside a message. Quotes, backslashes and the common
control characters get a short escape; every other character that would not show on its own is
written by its code point in hexadecimal. -/
namespace Typeset.Text

/-- A code point in lower-case hexadecimal, between braces. -/
def codePointEscape (c : Char) : String :=
  "\\u\x7b" ++ String.ofList (Nat.toDigits 16 c.toNat) ++ "\x7d"

/-- How one character is written inside a quoted text. -/
def quotedChar (c : Char) : String :=
  if c = '\x00' then "\\0"
  else if c = '\t' then "\\t"
  else if c = '\r' then "\\r"
  else if c = '\n' then "\\n"
  else if c = '"' then "\\\""
  else if c = '\\' then "\\\\"
  else if isUnshown c then codePointEscape c
  else c.toString

/-- A text between quotes, with every character that would not show escaped. -/
def quoted (text : String) : String :=
  "\"" ++ String.join (text.toList.map quotedChar) ++ "\""

end Typeset.Text
