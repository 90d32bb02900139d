import Typeset.Doc.Align
import Typeset.Doc.Sequence

/-! Documents between brackets, and bracketed lists. -/
namespace Typeset.Doc

def enclose (left right doc : Doc) : Doc := left + doc + right

/-- A list between brackets with separators: on one line if it fits, and otherwise one document a
line, each after its separator and aligned with the opening bracket. -/
def encloseSep (left right separator : Doc) : List Doc → Doc
  | [] => left + right
  | [only] => left + only + right
  | first :: rest =>
    align (adjoin ((left + first) :: rest.map fun doc => separator + doc) + right)

def list (docs : List Doc) : Doc := encloseSep (text "[") (text "]") (text ",") docs

def tupled (docs : List Doc) : Doc := encloseSep (text "(") (text ")") (text ",") docs

def semiBraces (docs : List Doc) : Doc := encloseSep (text "\x7b") (text "\x7d") (text ";") docs

def parens (doc : Doc) : Doc := enclose (text "(") (text ")") doc

def brackets (doc : Doc) : Doc := enclose (text "[") (text "]") doc

def braces (doc : Doc) : Doc := enclose (text "\x7b") (text "\x7d") doc

def angles (doc : Doc) : Doc := enclose (text "<") (text ">") doc

def squotes (doc : Doc) : Doc := enclose (text "'") (text "'") doc

def dquotes (doc : Doc) : Doc := enclose (text "\"") (text "\"") doc

end Typeset.Doc
