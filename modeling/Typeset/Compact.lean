import Typeset.Doc.Basic
import Typeset.Rendered

/-! The compact rendering: no choices, no indentation, no styles. Every choice is taken broken and
every newline starts at column zero, so that no page is needed. The output ends at the first
failure. -/
namespace Typeset

/-- A compact rendering under way. -/
structure Compaction where
  tokens : Array Token := #[]
  column : Nat := 0
  /-- Whether a failure has ended the output. -/
  failed : Bool := false

namespace Compaction

/-- The rendering with a document after what is there. -/
def add : Compaction → Doc → Compaction
  | state, doc =>
    if state.failed then state
    else match doc with
      | .fail => { state with tokens := state.tokens.push .fail, failed := true }
      | .empty | .restore _ => state
      | .literal piece =>
        { state with
          tokens := state.tokens.push (.text piece), column := state.column + piece.width }
      | .newline => { state with tokens := state.tokens.push (.line 0), column := 0 }
      | .flatAlt broken _ => state.add broken
      | .cat left right => (state.add left).add right
      | .nest _ body => state.add body
      | .union _ broken => state.add broken
      | .column body => state.add (body state.column)
      | .columns body => state.add (body none)
      | .nesting body => state.add (body 0)
      | .styled _ body => state.add body

end Compaction

namespace Doc

def compact (doc : Doc) : Rendered := ⟨(({} : Compaction).add doc).tokens.toList⟩

/-- A document rendered without choices, indentation and styles, if no piece of text in the output
holds a newline. -/
def compact? (doc : Doc) : Except Error Rendered :=
  let rendered := doc.compact
  match rendered.tokens.findSome? Token.illegal? with
  | none => .ok rendered
  | some piece => .error (.newlineInText piece.text)

end Doc
end Typeset
