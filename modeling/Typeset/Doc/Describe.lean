import Typeset.Doc.Basic

/-! A document shown as text, for a person who looks at its structure. Functions are shown without
what they give. -/
namespace Typeset

def describeBool (value : Bool) : String := if value then "true" else "false"

def Style.describe (style : Style) : String :=
  let colour := match style.colour with
    | some colour => "Some(" ++ colour.title ++ ")"
    | none => "None"
  "FormatState \x7b colour: " ++ colour ++
    ", bold: " ++ describeBool style.bold ++
    ", strikethrough: " ++ describeBool style.strikethrough ++
    ", underline: " ++ describeBool style.underline ++
    ", italic: " ++ describeBool style.italic ++
    ", obfuscated: " ++ describeBool style.obfuscated ++ " \x7d"

/-- A change shown by the name of what it sets, with a sign before it if it turns something off. -/
def Change.describe : Change → String
  | .colour (some chosen) => chosen.name
  | .colour none => "¬colour"
  | .turn effect true => effect.name
  | .turn effect false => "¬" ++ effect.name

namespace Doc

/-- A document shown after the text before it. -/
def describeAfter : Doc → String → String
  | fail, before => before ++ "⊥"
  | empty, before => before ++ "ε"
  | literal piece, before => before ++ "'" ++ piece.text ++ "'"
  | newline, before => before ++ "↵"
  | flatAlt broken flat, before =>
    flat.describeAfter (broken.describeAfter (before ++ "FlatAlt(") ++ ", ") ++ ")"
  | cat left right, before => right.describeAfter (left.describeAfter before ++ " + ")
  | nest amount body, before =>
    body.describeAfter (before ++ amount.repr ++ "⇒(") ++ ")"
  | union flat broken, before =>
    broken.describeAfter (flat.describeAfter (before ++ "(") ++ " | ") ++ ")"
  | column _, before => before ++ "Column(..)"
  | columns _, before => before ++ "Columns(..)"
  | nesting _, before => before ++ "Nesting(..)"
  | styled change body, before =>
    body.describeAfter (before ++ change.describe ++ "(") ++ ")"
  | restore style, before => before ++ "Restore(" ++ style.describe ++ ")"

def describe (doc : Doc) : String := doc.describeAfter ""

end Doc
end Typeset
