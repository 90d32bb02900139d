import Typeset.Doc.Rewrite

/-! Putting a document on one line. Flattening takes the flat form wherever there is one; a newline
has none and becomes a failure. A group is the choice between a document on one line and the
document as it is.

The equations at the end say what flattening makes of every kind of document. -/
namespace Typeset.Doc

/-- What flattening does with one node. The flat form of an alternative is used as it stands. -/
def flattening : Rule
  | flatAlt _ flat => .replace flat
  | newline => .replace fail
  | union flat _ => .descend flat (.child (by simp [children]))
  | column _ | columns _ | nesting _ => .delay
  | fail | empty | literal _ | cat _ _ | nest _ _ | styled _ _ | restore _ => .recurse

/-- The document with everything on one line. -/
def flatten (doc : Doc) : Doc := doc.rewrite flattening

/-- The choice between a document on one line and the document as it is. -/
def group (doc : Doc) : Doc := union doc.flatten doc

theorem flatten_eq (doc : Doc) : doc.flatten = flattening.apply doc := rewrite_eq flattening doc

@[simp] theorem flatten_fail : flatten fail = fail := by
  rw [flatten_eq, Rule.apply]; rfl

@[simp] theorem flatten_empty : flatten empty = empty := by
  rw [flatten_eq, Rule.apply]; rfl

@[simp] theorem flatten_literal (piece : Literal) : flatten (literal piece) = literal piece := by
  rw [flatten_eq, Rule.apply]; rfl

@[simp] theorem flatten_newline : flatten newline = fail := by
  rw [flatten_eq, Rule.apply]; rfl

@[simp] theorem flatten_flatAlt (broken flat : Doc) : flatten (flatAlt broken flat) = flat := by
  rw [flatten_eq, Rule.apply]; rfl

@[simp] theorem flatten_cat (left right : Doc) :
    flatten (cat left right) = cat left.flatten right.flatten := by
  rw [flatten_eq, flatten_eq, flatten_eq, Rule.apply]; rfl

@[simp] theorem flatten_nest (amount : Int) (body : Doc) :
    flatten (nest amount body) = nest amount body.flatten := by
  rw [flatten_eq, flatten_eq, Rule.apply]; rfl

@[simp] theorem flatten_union (flat broken : Doc) :
    flatten (union flat broken) = flat.flatten := by
  rw [flatten_eq, flatten_eq, Rule.apply]; rfl

@[simp] theorem flatten_column (body : Nat → Doc) :
    flatten (column body) = column fun start => (body start).flatten := by
  simp only [flatten_eq]
  rw [Rule.apply]; rfl

@[simp] theorem flatten_columns (body : Option Nat → Doc) :
    flatten (columns body) = columns fun width => (body width).flatten := by
  simp only [flatten_eq]
  rw [Rule.apply]; rfl

@[simp] theorem flatten_nesting (body : Int → Doc) :
    flatten (nesting body) = nesting fun level => (body level).flatten := by
  simp only [flatten_eq]
  rw [Rule.apply]; rfl

@[simp] theorem flatten_styled (change : Change) (body : Doc) :
    flatten (styled change body) = styled change body.flatten := by
  rw [flatten_eq, flatten_eq, Rule.apply]; rfl

@[simp] theorem flatten_restore (style : Style) : flatten (restore style) = restore style := by
  rw [flatten_eq, Rule.apply]; rfl

end Typeset.Doc
