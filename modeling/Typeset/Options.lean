import Typeset.Machine
import Typeset.Compact
import Typeset.Doc.Plain

/-! Everything that decides how a document is rendered, apart from the document. -/
namespace Typeset

inductive Mode where
  /-- On a page, looking ahead to the end of the line. -/
  | pretty
  /-- On a page, looking ahead into a deeper next line too. -/
  | smart
  /-- Without a page. -/
  | compact
  deriving DecidableEq, Repr

namespace Mode

def all : List Mode := [.pretty, .smart, .compact]

def name : Mode → String
  | .pretty => "pretty"
  | .smart => "smart"
  | .compact => "compact"

/-- The mode that has exactly this name. -/
def ofName? (name : String) : Option Mode := all.find? fun mode => mode.name == name

/-- The mode that a person means by a name, with blanks around it and in any case (of ASCII). -/
def parse (written : String) : Except Error Mode :=
  match ofName? (String.ofList ((Text.trimBlanks written.toList).map Char.toLower)) with
  | some mode => .ok mode
  | none => .error (.unknownMode written)

end Mode

structure Options where
  width : UInt64 := 80
  /-- The fraction of the width that a line may use apart from its indentation. -/
  ribbonFraction : Float := 1.0
  mode : Mode := .pretty
  /-- Whether to keep the style codes. -/
  styled : Bool := true

namespace Options

/-- The page that options describe, for a strategy. -/
def page (options : Options) (strategy : Strategy) : Page :=
  .ofFraction strategy options.ribbonFraction options.width

def renderStyled (options : Options) (doc : Doc) : Rendered :=
  match options.mode with
  | .pretty => doc.render (options.page .pretty)
  | .smart => doc.render (options.page .smart)
  | .compact => doc.compact

def render (options : Options) (doc : Doc) : Rendered :=
  options.renderStyled (if options.styled then doc else doc.plain)

/-- A document rendered by its mode, if no piece of text met on the way holds a newline. -/
def renderStyled? (options : Options) (doc : Doc) : Except Error Rendered :=
  match options.mode with
  | .pretty => doc.render? (options.page .pretty)
  | .smart => doc.render? (options.page .smart)
  | .compact => doc.compact?

/-- A document rendered as the options say, if no piece of text met on the way holds a newline. -/
def render? (options : Options) (doc : Doc) : Except Error Rendered :=
  options.renderStyled? (if options.styled then doc else doc.plain)

end Options
end Typeset
