/-!
# Ranges of characters

A character class of Unicode is a table of ranges of code points, both ends included. The classes themselves are `Text.Blank`, `Text.Alphanumeric` and `Text.Digit`.
-/

namespace Roster.Text

/-- The character is in one of the ranges. -/
def within (ranges : List (Nat × Nat)) (c : Char) : Bool :=
  ranges.any fun range => range.1 ≤ c.toNat && c.toNat ≤ range.2

theorem within_eq_true_iff {ranges : List (Nat × Nat)} {c : Char} :
    within ranges c = true ↔ ∃ range ∈ ranges, range.1 ≤ c.toNat ∧ c.toNat ≤ range.2 := by
  simp [within]

end Roster.Text
