import PackOpening.Text.CodePoint

/-!
Sets of code points given as inclusive ranges, or as series with a stride.
-/
namespace PackOpening.Text

/-- The first and the last number of a run of code points. -/
abbrev CodeRange := Nat × Nat

def CodeRange.covers (range : CodeRange) (c : CodePoint) : Bool :=
  range.1 ≤ c.code && c.code ≤ range.2

/-- Membership in a union of ranges. -/
def coveredBy (ranges : List CodeRange) (c : CodePoint) : Bool :=
  ranges.any (fun range => range.covers c)

/-- The first number, the last one and the stride of a series of code points. -/
abbrev CodeSeries := Nat × Nat × Nat

def CodeSeries.covers (series : CodeSeries) (c : CodePoint) : Bool :=
  series.1 ≤ c.code && c.code ≤ series.2.1 && (c.code - series.1) % series.2.2 == 0

end PackOpening.Text
