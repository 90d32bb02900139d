import Typeset.Doc.Flatten

/-! The basic ways of building a document: text, places where a line may break, and styles.

A text that holds a newline belongs in `Doc.string` or `Doc.lines`; `text?` refuses it, and `text`,
for use where the text is known to go on one line, takes it as it is. -/
namespace Typeset.Doc

/-- A piece of text; no text at all is the empty document. -/
def text (content : String) : Doc :=
  if content.isEmpty then empty else literal (.ofString content)

/-- A piece of text, if it goes on one line. -/
def text? (content : String) : Except Error Doc :=
  if content.isEmpty then .ok empty else (Literal.of? content).map literal

def spaces (count : Nat) : Doc := text (String.ofList (List.replicate count ' '))

/-- A newline, or a space on one line. -/
def line : Doc := flatAlt newline (text " ")

/-- A newline, or nothing on one line. -/
def linebreak : Doc := flatAlt newline empty

/-- A space if what follows fits on the line, and otherwise a newline. -/
def softline : Doc := group line

/-- Nothing if what follows fits on the line, and otherwise a newline. -/
def softbreak : Doc := group linebreak

def coloured (colour : Colour) (body : Doc) : Doc := styled (.colour (some colour)) body

/-- A document in the colour of the medium, also inside a coloured one. -/
def uncoloured (body : Doc) : Doc := styled (.colour none) body

def withEffect (effect : Effect) (body : Doc) : Doc := styled (.turn effect true) body

/-- A document without an effect, also inside one that has it. -/
def withoutEffect (effect : Effect) (body : Doc) : Doc := styled (.turn effect false) body

@[simp] theorem flatten_text (content : String) : flatten (text content) = text content := by
  unfold text
  split
  · exact flatten_empty
  · exact flatten_literal _

theorem text?_eq_ok (content : String) (oneLine : (Literal.ofString content).IsOneLine) :
    text? content = .ok (text content) := by
  unfold text? text
  split
  · rfl
  · simp only [Literal.of?]
    have holds : (Literal.ofString content).isOneLine = true := oneLine
    rw [if_pos holds]
    rfl

end Typeset.Doc
