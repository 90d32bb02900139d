import Typeset.Doc.Build

/-! Documents in sequence: two side by side or one above the other, and whole lists of them.
Lists are joined from the right, so that the rest of a list stands to the right of each join. -/
namespace Typeset.Doc

def besideSpace (left right : Doc) : Doc := left + text " " + right

/-- Two documents with a space between them, or a newline if the second does not fit. -/
def besideSoftline (left right : Doc) : Doc := left + softline + right

/-- Two documents with nothing between them, or a newline if the second does not fit. -/
def besideSoftbreak (left right : Doc) : Doc := left + softbreak + right

/-- Two documents with a newline between them, or a space on one line. -/
def above (upper lower : Doc) : Doc := upper + line + lower

/-- Two documents with a newline between them, or nothing on one line. -/
def aboveBreak (upper lower : Doc) : Doc := upper + linebreak + lower

/-- A list of documents, joined from the right; nothing if the list is empty. -/
def joinWith (join : Doc → Doc → Doc) : List Doc → Doc
  | [] => empty
  | [doc] => doc
  | doc :: docs => join doc (joinWith join docs)

/-- One document a line, or all on one line with spaces between them. -/
def vsep (docs : List Doc) : Doc := joinWith above docs

def hsep (docs : List Doc) : Doc := joinWith besideSpace docs

/-- As many documents on a line as fit, with spaces between them. -/
def fillSep (docs : List Doc) : Doc := joinWith besideSoftline docs

/-- Spaces between the documents if all fit on one line, and otherwise newlines. -/
def sep (docs : List Doc) : Doc := group (vsep docs)

/-- One document a line, or all on one line with nothing between them. -/
def vcat (docs : List Doc) : Doc := joinWith aboveBreak docs

def hcat (docs : List Doc) : Doc := joinWith cat docs

/-- As many documents on a line as fit, with nothing between them. -/
def fillCat (docs : List Doc) : Doc := joinWith besideSoftbreak docs

/-- Nothing between the documents if all fit on one line, and otherwise newlines. -/
def adjoin (docs : List Doc) : Doc := group (vcat docs)

/-- Every document but the last with a separator after it. -/
def punctuate (separator : Doc) : List Doc → List Doc
  | [] => []
  | [doc] => [doc]
  | doc :: docs => (doc + separator) :: punctuate separator docs

end Typeset.Doc
