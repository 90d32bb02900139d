import Typeset.Doc.Rewrite

/-! Taking the styling out of a document. What is left has the same content and the same layouts.

The equations at the end say what this makes of every kind of document. -/
namespace Typeset.Doc

/-- What taking the styling out does with one node. -/
def unstyling : Rule
  | styled _ body => .descend body (.child (by simp [children]))
  | restore _ => .replace empty
  | column _ | columns _ | nesting _ => .delay
  | fail | empty | literal _ | newline | flatAlt _ _ | cat _ _ | nest _ _ | union _ _ => .recurse

/-- The document without its styling. -/
def plain (doc : Doc) : Doc := doc.rewrite unstyling

theorem plain_eq (doc : Doc) : doc.plain = unstyling.apply doc := rewrite_eq unstyling doc

@[simp] theorem plain_fail : plain fail = fail := by
  rw [plain_eq, Rule.apply]; rfl

@[simp] theorem plain_empty : plain empty = empty := by
  rw [plain_eq, Rule.apply]; rfl

@[simp] theorem plain_literal (piece : Literal) : plain (literal piece) = literal piece := by
  rw [plain_eq, Rule.apply]; rfl

@[simp] theorem plain_newline : plain newline = newline := by
  rw [plain_eq, Rule.apply]; rfl

@[simp] theorem plain_flatAlt (broken flat : Doc) :
    plain (flatAlt broken flat) = flatAlt broken.plain flat.plain := by
  rw [plain_eq, plain_eq, plain_eq, Rule.apply]; rfl

@[simp] theorem plain_cat (left right : Doc) :
    plain (cat left right) = cat left.plain right.plain := by
  rw [plain_eq, plain_eq, plain_eq, Rule.apply]; rfl

@[simp] theorem plain_nest (amount : Int) (body : Doc) :
    plain (nest amount body) = nest amount body.plain := by
  rw [plain_eq, plain_eq, Rule.apply]; rfl

@[simp] theorem plain_union (flat broken : Doc) :
    plain (union flat broken) = union flat.plain broken.plain := by
  rw [plain_eq, plain_eq, plain_eq, Rule.apply]; rfl

@[simp] theorem plain_column (body : Nat → Doc) :
    plain (column body) = column fun start => (body start).plain := by
  simp only [plain_eq]
  rw [Rule.apply]; rfl

@[simp] theorem plain_columns (body : Option Nat → Doc) :
    plain (columns body) = columns fun width => (body width).plain := by
  simp only [plain_eq]
  rw [Rule.apply]; rfl

@[simp] theorem plain_nesting (body : Int → Doc) :
    plain (nesting body) = nesting fun level => (body level).plain := by
  simp only [plain_eq]
  rw [Rule.apply]; rfl

@[simp] theorem plain_styled (change : Change) (body : Doc) :
    plain (styled change body) = body.plain := by
  rw [plain_eq, plain_eq, Rule.apply]; rfl

@[simp] theorem plain_restore (style : Style) : plain (restore style) = empty := by
  rw [plain_eq, Rule.apply]; rfl

end Typeset.Doc
