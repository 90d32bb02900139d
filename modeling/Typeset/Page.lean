/-! The page on which a document is laid out: its width, the share of a line that may be taken by
something other than indentation, and how far a choice of layout looks ahead.

Widths are 64-bit words, and indentations are signed ones. What a layout calculates from them is signed
too and wraps around. So 2^63 columns that are left, or more, are less than none: on a page of such a
width a line has no room at first, and only so far to the right that fewer columns are left than that. -/
namespace Typeset

/-- How far to look ahead when one line may hold what a choice offers. -/
inductive Strategy where
  /-- The rest of the line must fit. -/
  | pretty
  /-- The rest of the line must fit, and the next line too if it is indented more deeply than the
  place of the choice. -/
  | smart
  deriving DecidableEq, Repr

structure Page where
  width : UInt64
  /-- The columns of a line that may hold something other than indentation. -/
  ribbon : UInt64
  strategy : Strategy
  deriving DecidableEq, Repr

namespace Page

/-- A number of columns as a signed word holds it: from 2^63 on it is negative. A negative number is left
as it is, although a word would wrap around below -2^63; that makes no difference to what room there is
(`max_roomAt_eq_words`). -/
def signed (columns : Int) : Int :=
  if (UInt64.size / 2 : Nat) ≤ columns then min (columns - UInt64.size) (-1) else columns

/-- The columns that are left at a column of a line with an indentation: up to the edge of the page, and
no more beyond the indentation than the ribbon. -/
def roomAt (page : Page) (lineIndent column : Nat) : Int :=
  min (signed (page.width.toNat - column)) (signed (page.ribbon.toNat - column + lineIndent))

/-- The columns that a line with an indentation has up to the edge of the page. -/
def roomBelow (page : Page) (indent : Nat) : Int := signed (page.width.toNat - indent)

/-- A fraction between nothing and everything. What is not a number means everything. -/
def clampFraction (fraction : Float) : Float :=
  if fraction.isNaN then 1.0
  else if fraction < 0.0 then 0.0
  else if fraction > 1.0 then 1.0
  else fraction

/-- The ribbon that is a fraction of a page, to the nearest column and at most the page. -/
def ribbonOf (fraction : Float) (width : UInt64) : UInt64 :=
  min (width.toFloat * clampFraction fraction).round.toUInt64 width

/-- A page with a ribbon given as a fraction of the width. -/
def ofFraction (strategy : Strategy) (fraction : Float) (width : UInt64) : Page :=
  { width, ribbon := ribbonOf fraction width, strategy }

/-- Less than 2^63 columns count as they are. -/
theorem signed_eq {columns : Int} (small : columns < (UInt64.size / 2 : Nat)) :
    signed columns = columns := if_neg (Int.not_le.mpr small)

theorem signed_le (columns : Int) : signed columns ≤ columns := by
  unfold signed
  split <;> omega

/-- What counts as some columns, or none, are less than 2^63. -/
theorem lt_of_signed {columns : Int} (some : 0 ≤ signed columns) :
    columns < (UInt64.size / 2 : Nat) := by
  unfold signed at some
  split at some <;> omega

/-- On a page of less than 2^63 columns a line has those right of its indentation. -/
theorem roomBelow_eq {page : Page} (small : page.width.toNat < UInt64.size / 2) :
    page.roomBelow = fun indent : Nat => (page.width.toNat : Int) - indent := by
  funext indent
  exact signed_eq (by omega)

private theorem toInt64_eq (word : UInt64) : word.toInt64 = .ofInt word.toNat := by
  rw [Int64.ofInt_eq_ofNat]
  apply Int64.toBitVec.inj
  simp

/-- A signed word counts columns as long as it has not wrapped around below -2^63. -/
private theorem signed_eq_toInt {columns : Int} (least : -(UInt64.size / 2 : Nat) ≤ columns)
    (most : columns < UInt64.size) : signed columns = (Int64.ofInt columns).toInt := by
  rw [Int64.toInt_ofInt, Int.bmod_def]
  simp only [signed, Int64.size, UInt64.size] at *
  omega

/-- The room is what the calculation with signed words makes it, as far as there is any. An indentation
is a signed word itself, and there is no line with 2^63 columns of text. -/
theorem max_roomAt_eq_words {page : Page} (narrower : page.ribbon ≤ page.width)
    {lineIndent column : Nat} (indented : lineIndent < UInt64.size / 2) (past : lineIndent ≤ column)
    (text : column - lineIndent < UInt64.size / 2) :
    max (-1) (page.roomAt lineIndent column) =
      max (-1) (min (page.width.toInt64 - .ofNat column).toInt
        (page.ribbon.toInt64 - .ofNat column + .ofNat lineIndent).toInt) := by
  have ribbon : page.ribbon.toNat ≤ page.width.toNat := narrower
  have width := page.width.toNat_lt
  simp only [toInt64_eq, ← Int64.ofInt_eq_ofNat, ← Int64.ofInt_sub, ← Int64.ofInt_add, roomAt]
  have onRibbon : signed (page.ribbon.toNat - column + lineIndent) =
      (Int64.ofInt (page.ribbon.toNat - column + lineIndent)).toInt :=
    signed_eq_toInt (by omega) (by simp only [UInt64.size]; omega)
  rw [← onRibbon]
  by_cases least : -(UInt64.size / 2 : Nat) ≤ (page.width.toNat - column : Int)
  · rw [signed_eq_toInt least (by simp only [UInt64.size]; omega)]
  · -- The edge of the page is so far to the left that nothing is left of the ribbon either.
    have none := signed_le (page.ribbon.toNat - column + lineIndent)
    omega

/-- So are the columns that a line has. -/
theorem roomBelow_eq_words (page : Page) {indent : Nat} (indented : indent < UInt64.size / 2) :
    page.roomBelow indent = (page.width.toInt64 - .ofNat indent).toInt := by
  have width := page.width.toNat_lt
  rw [toInt64_eq, ← Int64.ofInt_eq_ofNat, ← Int64.ofInt_sub]
  exact signed_eq_toInt (by omega) (by simp only [UInt64.size]; omega)

/-- So is a column. -/
theorem signed_eq_word {column : Nat} (word : column < UInt64.size) :
    signed column = (Int64.ofNat column).toInt := by
  rw [← Int64.ofInt_eq_ofNat]
  exact signed_eq_toInt (by omega) (Int.ofNat_lt.mpr word)

end Page
end Typeset
