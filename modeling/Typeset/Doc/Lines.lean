import Typeset.Doc.Sequence
import Typeset.Text.Lines

/-! Text that may hold newlines, as a document. -/
namespace Typeset.Doc

def pieces (content : String) : List Doc :=
  (Text.splitLines content.toList).map fun line => text (String.ofList line)

def string (content : String) : Doc := joinWith above (pieces content)

def lines (content : String) : Doc := joinWith atop (pieces content)

end Typeset.Doc
