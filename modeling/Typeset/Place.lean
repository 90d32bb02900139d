import Typeset.Doc.Basic
import Typeset.Token

/-! A place in the layout of a document: where the output stands, what style is in effect, and what
is still to come. `Place.next` goes on from a place to the next token or the next choice.

The work that is left at a place is a natural number (`Place.cost`): it counts both alternatives of
every choice that may still be met. The main statements are that it falls with every token, and that
a choice has more of it than its two alternatives together; they are why a layout always ends. -/
namespace Typeset

/-- A document that is still to come, and the indentation of its newlines. Levels are signed words of 64
bits and wrap around. -/
structure Indented where
  level : Int64
  doc : Doc

structure Place where
  lineIndent : Nat := 0
  /-- The columns taken on the current line, its indentation included. -/
  column : Nat := 0
  style : Style := .plain
  /-- What is still to come, the next document first. -/
  upcoming : List Indented

/-- How a layout goes on from a place. -/
inductive Next where
  /-- Nothing is left. -/
  | done
  | token (token : Token) (place : Place)
  /-- A choice comes first, between two documents at a level. The place is the one without either
  of them. -/
  | choice (level : Int64) (flat broken : Doc) (place : Place)

/-- The work in a document that starts at a column, where `rest` is the work in what comes after it,
by the column at which that starts. -/
def Doc.cost (width : Nat) : Doc → Int64 → (Nat → Nat) → Nat → Nat
  | .fail, _, _, _ => 1
  | .empty, _, rest, start => 1 + rest start
  | .literal piece, _, rest, start => 1 + rest (start + piece.width)
  | .newline, level, rest, _ => 1 + rest level.toNatClampNeg
  | .flatAlt broken _, level, rest, start => 1 + broken.cost width level rest start
  | .cat left right, level, rest, start =>
    1 + left.cost width level (right.cost width level rest) start
  | .nest amount body, level, rest, start => 1 + body.cost width (level + .ofInt amount) rest start
  | .union flat broken, level, rest, start =>
    2 + (flat.cost width level rest start + broken.cost width level rest start)
  | .column body, level, rest, start => 1 + (body start).cost width level rest start
  | .columns body, level, rest, start => 1 + (body (some width)).cost width level rest start
  | .nesting body, level, rest, start => 1 + (body level.toInt).cost width level rest start
  | .styled _ body, level, rest, start =>
    2 + body.cost width level (fun stop => 1 + rest stop) start
  | .restore _, _, rest, start => 1 + rest start

namespace Indented

/-- The work in documents that come one after the other, the first of them at a column. -/
def costAll (width : Nat) : List Indented → Nat → Nat
  | [], _ => 0
  | first :: rest, column => first.doc.cost width first.level (costAll width rest) column

/-! The work falls with every document that is gone into, whatever comes in its stead. -/

variable (width : Nat) (level : Int64) (rest : List Indented) (column : Nat)

theorem costAll_fail : costAll width (⟨level, .fail⟩ :: rest) column = 1 := rfl

theorem costAll_empty :
    costAll width (⟨level, .empty⟩ :: rest) column = 1 + costAll width rest column := rfl

theorem costAll_literal (piece : Literal) :
    costAll width (⟨level, .literal piece⟩ :: rest) column =
      1 + costAll width rest (column + piece.width) := rfl

theorem costAll_newline :
    costAll width (⟨level, .newline⟩ :: rest) column =
      1 + costAll width rest level.toNatClampNeg := rfl

theorem costAll_flatAlt (broken flat : Doc) :
    costAll width (⟨level, .flatAlt broken flat⟩ :: rest) column =
      1 + costAll width (⟨level, broken⟩ :: rest) column := rfl

theorem costAll_cat (left right : Doc) :
    costAll width (⟨level, .cat left right⟩ :: rest) column =
      1 + costAll width (⟨level, left⟩ :: ⟨level, right⟩ :: rest) column := rfl

theorem costAll_nest (amount : Int) (body : Doc) :
    costAll width (⟨level, .nest amount body⟩ :: rest) column =
      1 + costAll width (⟨level + .ofInt amount, body⟩ :: rest) column := rfl

theorem costAll_union (flat broken : Doc) :
    costAll width (⟨level, .union flat broken⟩ :: rest) column =
      2 + (costAll width (⟨level, flat⟩ :: rest) column +
        costAll width (⟨level, broken⟩ :: rest) column) := rfl

theorem costAll_column (body : Nat → Doc) :
    costAll width (⟨level, .column body⟩ :: rest) column =
      1 + costAll width (⟨level, body column⟩ :: rest) column := rfl

theorem costAll_columns (body : Option Nat → Doc) :
    costAll width (⟨level, .columns body⟩ :: rest) column =
      1 + costAll width (⟨level, body (some width)⟩ :: rest) column := rfl

theorem costAll_nesting (body : Int → Doc) :
    costAll width (⟨level, .nesting body⟩ :: rest) column =
      1 + costAll width (⟨level, body level.toInt⟩ :: rest) column := rfl

theorem costAll_styled (change : Change) (style : Style) (body : Doc) :
    costAll width (⟨level, .styled change body⟩ :: rest) column =
      2 + costAll width (⟨level, body⟩ :: ⟨level, .restore style⟩ :: rest) column := rfl

theorem costAll_restore (style : Style) :
    costAll width (⟨level, .restore style⟩ :: rest) column = 1 + costAll width rest column := rfl

end Indented

namespace Place

/-- The place at which a document starts. -/
def start (doc : Doc) : Place := { upcoming := [⟨0, doc⟩] }

/-- The same place with another document to come first. -/
def push (place : Place) (level : Int64) (doc : Doc) : Place :=
  { place with upcoming := ⟨level, doc⟩ :: place.upcoming }

def cost (width : Nat) (place : Place) : Nat :=
  Indented.costAll width place.upcoming place.column

/-- Go into the documents that come at a place of the output, on a page of a width. A document in a
changed style is followed by the return to the style in effect before it. -/
def advance (width : Nat) (place : Place) : List Indented → Next
  | [] => .done
  | ⟨level, doc⟩ :: rest =>
    match doc with
    | .fail => .token .fail { place with upcoming := [] }
    | .empty => advance width place rest
    | .literal piece =>
      .token (.text piece) { place with column := place.column + piece.width, upcoming := rest }
    | .newline =>
      let indent := level.toNatClampNeg
      .token (.line indent) { place with lineIndent := indent, column := indent, upcoming := rest }
    | .flatAlt broken _ => advance width place (⟨level, broken⟩ :: rest)
    | .cat left right => advance width place (⟨level, left⟩ :: ⟨level, right⟩ :: rest)
    | .nest amount body => advance width place (⟨level + .ofInt amount, body⟩ :: rest)
    | .union flat broken => .choice level flat broken { place with upcoming := rest }
    | .column body => advance width place (⟨level, body place.column⟩ :: rest)
    | .columns body => advance width place (⟨level, body (some width)⟩ :: rest)
    | .nesting body => advance width place (⟨level, body level.toInt⟩ :: rest)
    | .styled change body =>
      .token (.format (place.style.codesFor change))
        { place with
          style := place.style.apply change
          upcoming := ⟨level, body⟩ :: ⟨level, .restore place.style⟩ :: rest }
    | .restore style => .token (.format style.codes) { place with style := style, upcoming := rest }
termination_by upcoming => Indented.costAll width upcoming place.column
decreasing_by
  · rw [Indented.costAll_empty]; omega
  · rw [Indented.costAll_flatAlt]; omega
  · rw [Indented.costAll_cat]; omega
  · rw [Indented.costAll_nest]; omega
  · rw [Indented.costAll_column]; omega
  · rw [Indented.costAll_columns]; omega
  · rw [Indented.costAll_nesting]; omega

/-- Go on to the next token or the next choice, whichever comes first. -/
def next (width : Nat) (place : Place) : Next := place.advance width place.upcoming

end Place

namespace Next

def Within (width before : Nat) : Next → Prop
  | done => True
  | token _ place => place.cost width < before
  | choice level flat broken place =>
    (place.push level flat).cost width + (place.push level broken).cost width + 1 < before

theorem Within.mono {width before more : Nat} {step : Next} (within : step.Within width before)
    (le : before ≤ more) : step.Within width more := by
  cases step with
  | done => trivial
  | token token place => exact Nat.lt_of_lt_of_le within le
  | choice level flat broken place => exact Nat.lt_of_lt_of_le within le

end Next

namespace Place

theorem advance_within (width : Nat) (place : Place) (upcoming : List Indented) :
    (place.advance width upcoming).Within width
      (Indented.costAll width upcoming place.column) := by
  fun_induction place.advance width upcoming with
  | case1 => trivial
  | case2 level rest =>
    rw [Indented.costAll_fail]
    exact Nat.one_pos
  | case3 level rest ih => exact ih.mono (by rw [Indented.costAll_empty]; omega)
  | case4 level rest piece =>
    simp only [Next.Within, cost, Indented.costAll_literal]
    omega
  | case5 level rest indent =>
    rw [Indented.costAll_newline]
    exact Nat.lt_add_of_pos_left Nat.one_pos
  | case6 level rest broken flat ih => exact ih.mono (by rw [Indented.costAll_flatAlt]; omega)
  | case7 level rest left right ih => exact ih.mono (by rw [Indented.costAll_cat]; omega)
  | case8 level rest amount body ih => exact ih.mono (by rw [Indented.costAll_nest]; omega)
  | case9 level rest flat broken =>
    simp only [Next.Within, cost, push, Indented.costAll_union]
    omega
  | case10 level rest body ih => exact ih.mono (by rw [Indented.costAll_column]; omega)
  | case11 level rest body ih => exact ih.mono (by rw [Indented.costAll_columns]; omega)
  | case12 level rest body ih => exact ih.mono (by rw [Indented.costAll_nesting]; omega)
  | case13 level rest change body =>
    simp only [Next.Within, cost]
    rw [Indented.costAll_styled width level rest place.column change place.style body]
    omega
  | case14 level rest style =>
    simp only [Next.Within, cost, Indented.costAll_restore]
    omega

theorem next_within (width : Nat) (place : Place) :
    (place.next width).Within width (place.cost width) :=
  advance_within width place place.upcoming

theorem cost_of_token {width : Nat} {place after : Place} {token : Token}
    (found : place.next width = .token token after) : after.cost width < place.cost width := by
  have within := next_within width place
  rw [found] at within
  exact within

/-- There is less work in both alternatives of a choice together than before it. -/
theorem cost_of_choice {width : Nat} {place after : Place} {level : Int64} {flat broken : Doc}
    (found : place.next width = .choice level flat broken after) :
    (after.push level flat).cost width + (after.push level broken).cost width + 1 <
      place.cost width := by
  have within := next_within width place
  rw [found] at within
  exact within

end Place
end Typeset
