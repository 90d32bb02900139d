/-! Sets of characters given as ranges of code points. Tables of character properties are written
in this form. -/
namespace Typeset.Text

/-- A first and a last code point, both included. -/
abbrev CodeRange := Nat × Nat

def inRanges (ranges : List CodeRange) (c : Char) : Bool :=
  ranges.any fun (low, high) => low ≤ c.toNat && c.toNat ≤ high

end Typeset.Text
