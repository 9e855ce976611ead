import Roster.Text.Basic

/-!
# Whole numbers in decimal

Numbers are written without leading zeros. They are read with any number of leading zeros, and a sign is read only where it is said.
-/

namespace Roster.Text

def ofNat (n : Nat) : Text := Nat.toDigits 10 n

def ofInt : Int → Text
  | .ofNat n => ofNat n
  | .negSucc n => '-' :: ofNat (n + 1)

/-- The value of a run of ASCII digits; there must be at least one. -/
def toNat? (s : Text) : Option Nat :=
  if s.isEmpty || !s.all Char.isDigit then none else some (Nat.ofDigitChars 10 s 0)

theorem isDigit_of_mem_ofNat {n : Nat} {c : Char} (h : c ∈ ofNat n) : c.isDigit = true :=
  Nat.isDigit_of_mem_toDigits (by decide) (by decide) h

@[simp] theorem ofNat_ne_nil (n : Nat) : ofNat n ≠ [] := Nat.toDigits_ne_nil

@[simp] theorem toNat?_ofNat (n : Nat) : toNat? (ofNat n) = some n := by
  simpa [toNat?, ofNat, Nat.ofDigitChars_ten_toDigits] using fun c => isDigit_of_mem_ofNat

/-- A number after at most one sign. -/
def toInt? : Text → Option Int
  | '-' :: s => (toNat? s).map fun n => -(n : Int)
  | '+' :: s => (toNat? s).map Int.ofNat
  | s => (toNat? s).map Int.ofNat

/-- A number below `bound` after at most one plus sign. -/
def toNatBelow? (bound : Nat) (s : Text) : Option Nat :=
  let digits := match s with
    | '+' :: rest => rest
    | _ => s
  (toNat? digits).filter (· < bound)

/-- The value of a hexadecimal digit, of either case. -/
def hexDigit? (c : Char) : Option Nat :=
  if c.isDigit then some (c.toNat - 48)
  else if 'a' ≤ c ∧ c ≤ 'f' then some (c.toNat - 87)
  else if 'A' ≤ c ∧ c ≤ 'F' then some (c.toNat - 55)
  else none

end Roster.Text
