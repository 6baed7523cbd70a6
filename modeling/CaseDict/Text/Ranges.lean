/-! # Sets of characters given by ranges

A property of characters beyond ASCII is a list of inclusive ranges of code points in increasing
order; `mem` looks a code point up in such a list. -/

namespace CaseDict.Text

/-- Inclusive ranges of code points, in increasing order. -/
abbrev Ranges := List (Nat × Nat)

/-- Some range holds the code point. -/
def Ranges.mem (table : Ranges) (n : Nat) : Bool :=
  table.any fun (lo, hi) => lo ≤ n && n ≤ hi

end CaseDict.Text
