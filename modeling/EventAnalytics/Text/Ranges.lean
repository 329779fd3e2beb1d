/-
Sets of characters given as closed ranges of code points.

A property of the Unicode database is data of a standard and not a rule,
so it is held as a table and asked one question: does some range cover
this character? Nothing here depends on the order of the ranges.
-/

namespace EventAnalytics.Text

/-- Closed ranges of code points, first and last member of each. -/
abbrev Ranges := List (Nat × Nat)

/-- Whether one of the ranges holds the code point `n`. -/
def Ranges.holds (rs : Ranges) (n : Nat) : Bool :=
  rs.any fun r => r.1 ≤ n && n ≤ r.2

/-- Whether one of the ranges holds the character. -/
def Ranges.covers (rs : Ranges) (c : Char) : Bool :=
  rs.holds c.toNat

/-- A code point is held exactly when it lies between the ends of some
range of the table. -/
theorem Ranges.holds_iff {rs : Ranges} {n : Nat} :
    rs.holds n = true ↔ ∃ r ∈ rs, r.1 ≤ n ∧ n ≤ r.2 := by
  simp [Ranges.holds]

end EventAnalytics.Text
