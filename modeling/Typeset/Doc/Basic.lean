import Typeset.Literal
import Typeset.Style

/-! Documents. A document is some content together with the layouts it may take: a layout decides
where lines break, and the document says where they may and what changes when they do. Documents
that depend on where they stand are functions of their place.

This module holds the type and the relation between a document and its parts. The main statement is
that the relation is well founded, also through the functions: taking parts, and calling functions
to get more, always ends. -/
namespace Typeset

/-- Content together with the layouts it may take. -/
inductive Doc where
  /-- No layout: this alternative cannot be taken. -/
  | fail
  | empty
  | literal (piece : Literal)
  /-- A newline, followed by the indentation in force. It has no flat form. -/
  | newline
  /-- One document when lines may break here, another when everything goes on one line. -/
  | flatAlt (broken flat : Doc)
  /-- One document, and another that starts where the first ends. -/
  | cat (left right : Doc)
  /-- A document whose newlines are indented by so much more. -/
  | nest (amount : Int) (body : Doc)
  /-- The first document if it fits, and otherwise the second. -/
  | union (flat broken : Doc)
  /-- A document that depends on the column at which it starts. -/
  | column (body : Nat → Doc)
  /-- A document that depends on the width of the page, if there is a page. -/
  | columns (body : Option Nat → Doc)
  /-- A document that depends on the indentation in force. -/
  | nesting (body : Int → Doc)
  /-- A document in a style that is changed in one part. -/
  | styled (change : Change) (body : Doc)
  /-- No content, only the return to a style. -/
  | restore (style : Style)
  deriving Inhabited

namespace Doc

instance : Add Doc := ⟨cat⟩

/-- Two documents, the second on a new line. -/
def atop (upper lower : Doc) : Doc := upper + newline + lower

/-- The change and the content of a styled document. -/
def change? : Doc → Option (Change × Doc)
  | styled change body => some (change, body)
  | _ => none

/-- The documents that a document is made of, from left to right. What its functions give is not
among them. -/
def children : Doc → List Doc
  | flatAlt left right | cat left right | union left right => [left, right]
  | nest _ body | styled _ body => [body]
  | _ => []

/-- The same node over other children; none if their number is wrong. -/
def withChildren? : Doc → List Doc → Option Doc
  | flatAlt _ _, [broken, flat] => some (flatAlt broken flat)
  | cat _ _, [left, right] => some (cat left right)
  | union _ _, [flat, broken] => some (union flat broken)
  | nest amount _, [body] => some (nest amount body)
  | styled change _, [body] => some (styled change body)
  | flatAlt _ _, _ | cat _ _, _ | union _ _, _ | nest _ _, _ | styled _ _, _ => none
  | leaf, [] => some leaf
  | _, _ => none

/-- The same node, with every child replaced. -/
def mapChildren : (doc : Doc) → ((child : Doc) → child ∈ doc.children → Doc) → Doc
  | flatAlt broken flat, f => flatAlt (f broken (by simp [children])) (f flat (by simp [children]))
  | cat left right, f => cat (f left (by simp [children])) (f right (by simp [children]))
  | union flat broken, f => union (f flat (by simp [children])) (f broken (by simp [children]))
  | nest amount body, f => nest amount (f body (by simp [children]))
  | styled change body, f => styled change (f body (by simp [children]))
  | leaf, _ => leaf

/-- One document is what a function in another gives for some place. -/
inductive ResultOf : Doc → Doc → Prop where
  | column (body : Nat → Doc) (start : Nat) : ResultOf (body start) (.column body)
  | columns (body : Option Nat → Doc) (width : Option Nat) : ResultOf (body width) (.columns body)
  | nesting (body : Int → Doc) (level : Int) : ResultOf (body level) (.nesting body)

/-- The same node, with whatever its function gives replaced as soon as it is called. -/
def mapResults : (doc : Doc) → ((result : Doc) → result.ResultOf doc → Doc) → Doc
  | column body, f => column fun start => f (body start) (.column body start)
  | columns body, f => columns fun width => f (body width) (.columns body width)
  | nesting body, f => nesting fun level => f (body level) (.nesting body level)
  | other, _ => other

/-- One document is a child of another, or what a function in the other gives. -/
inductive PartOf : Doc → Doc → Prop where
  | child {part whole : Doc} (mem : part ∈ whole.children) : PartOf part whole
  | result {part whole : Doc} (result : part.ResultOf whole) : PartOf part whole

theorem partOf_acc (doc : Doc) : Acc PartOf doc := by
  induction doc with
  | flatAlt broken flat first second | cat broken flat first second
  | union broken flat first second =>
    constructor
    intro part within
    cases within with
    | child mem =>
      simp only [children, List.mem_cons, List.not_mem_nil, or_false] at mem
      rcases mem with same | same
      · subst same; exact first
      · subst same; exact second
    | result result => cases result
  | nest _ body ih | styled _ body ih =>
    constructor
    intro part within
    cases within with
    | child mem =>
      simp only [children, List.mem_cons, List.not_mem_nil, or_false] at mem
      subst mem; exact ih
    | result result => cases result
  | column body ih | columns body ih | nesting body ih =>
    constructor
    intro part within
    cases within with
    | child mem => simp [children] at mem
    | result result => cases result; exact ih _
  | fail | empty | literal | newline | restore =>
    constructor
    intro part within
    cases within with
    | child mem => simp [children] at mem
    | result result => cases result

/-- Documents in the order in which every part comes before its whole. -/
instance partOrder : WellFoundedRelation Doc where
  rel := Relation.TransGen PartOf
  wf := (WellFounded.intro partOf_acc).transGen

/-- One document stands somewhere inside another, not counting what functions give. -/
inductive Inside : Doc → Doc → Prop where
  | child {inner outer : Doc} (mem : inner ∈ outer.children) : Inside inner outer
  | deeper {inner middle outer : Doc} (mem : inner ∈ middle.children)
      (rest : Inside middle outer) : Inside inner outer

/-- One document is another, or stands somewhere inside it. -/
def Within (inner outer : Doc) : Prop := inner = outer ∨ inner.Inside outer

/-- The number of nodes of a document, functions counting as one each. -/
def size : Doc → Nat
  | flatAlt left right | cat left right | union left right => 1 + left.size + right.size
  | nest _ body | styled _ body => 1 + body.size
  | _ => 1

/-- The number of nodes of several documents. -/
def totalSize : List Doc → Nat
  | [] => 0
  | doc :: docs => doc.size + totalSize docs

theorem size_pos (doc : Doc) : 0 < doc.size := by
  cases doc <;> simp only [size] <;> omega

theorem size_eq (doc : Doc) : doc.size = 1 + totalSize doc.children := by
  cases doc <;> simp only [size, children, totalSize] <;> omega

theorem size_lt_of_mem_children {child doc : Doc} (mem : child ∈ doc.children) :
    child.size < doc.size := by
  cases doc <;> simp [children] at mem <;> simp only [size]
  all_goals first | (rcases mem with same | same <;> subst same <;> omega) | (subst mem; omega)

theorem Inside.size_lt {inner outer : Doc} (inside : inner.Inside outer) :
    inner.size < outer.size := by
  induction inside with
  | child mem => exact size_lt_of_mem_children mem
  | deeper mem _ ih => exact Nat.lt_trans (size_lt_of_mem_children mem) ih

theorem Inside.partOf {inner outer : Doc} (inside : inner.Inside outer) :
    Relation.TransGen PartOf inner outer := by
  induction inside with
  | child mem => exact .single (.child mem)
  | deeper mem _ ih => exact .trans (.single (.child mem)) ih

theorem Inside.trans {inner middle outer : Doc} (first : inner.Inside middle)
    (second : middle.Inside outer) : inner.Inside outer := by
  induction first with
  | child mem => exact .deeper mem second
  | deeper mem _ ih => exact .deeper mem (ih second)

theorem Within.refl (doc : Doc) : doc.Within doc := .inl rfl

theorem Within.inside {inner middle outer : Doc} (first : inner.Inside middle)
    (second : middle.Within outer) : inner.Within outer := by
  rcases second with same | second
  · subst same; exact .inr first
  · exact .inr (first.trans second)

theorem Within.child {child middle outer : Doc} (mem : child ∈ middle.children)
    (second : middle.Within outer) : child.Within outer :=
  Within.inside (.child mem) second

theorem Within.result {result middle outer : Doc} (first : result.ResultOf middle)
    (second : middle.Within outer) : Relation.TransGen PartOf result outer := by
  rcases second with same | second
  · subst same; exact .single (.result first)
  · exact .trans (.single (.result first)) second.partOf

end Doc
end Typeset
