import PackOpening.Text.CodeRange

/-!
Tables of letters and their counterparts in the other case.
-/
namespace PackOpening.Text

/-- A row `(first, last, stride, shift)` says that each `stride`-th code point from `first` to
`last` is a letter whose counterpart stands `shift` code points further on. -/
abbrev CaseRow := Nat × Nat × Nat × Int

def CaseRow.covers (row : CaseRow) (c : CodePoint) : Bool :=
  row.1 ≤ c.code && c.code ≤ row.2.1 && (c.code - row.1) % row.2.2.1 == 0

/-- The counterpart of a code point in a table. -/
def counterpart? (rows : List CaseRow) (c : CodePoint) : Option CodePoint :=
  (rows.find? fun row => row.covers c).map fun row => .ofCode (Int.toNat (c.code + row.2.2.2))

end PackOpening.Text
