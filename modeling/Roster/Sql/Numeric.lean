import Roster.Text.Number

/-!
# Numeric text

Text that is compared with an integer column is taken for a number if all of it, but for blanks around it, is a decimal number: a sign, digits, a fraction and an exponent, with at least one digit before the exponent. The number is the nearest floating-point number of 64 bits. Any other text stays text.
-/

namespace Roster.Sql

open Text

/-- `2 ^ e`. -/
def twoPower (e : Int) : Rat := if 0 ≤ e then (Nat.pow 2 e.toNat : Rat) else mkRat 1 (Nat.pow 2 (-e).toNat)

/-- The nearest whole number; halves go to the even neighbour. -/
def roundHalfEven (x : Rat) : Int :=
  let below := x.floor
  let excess := x - below
  if excess < mkRat 1 2 then below
  else if mkRat 1 2 < excess then below + 1
  else if below % 2 = 0 then below
  else below + 1

/-- The greatest `e` with `2 ^ e ≤ x`, for a positive `x`. -/
def binaryExponent (x : Rat) : Int :=
  let e : Int := (Nat.log2 x.num.natAbs : Int) - Nat.log2 x.den
  if x < twoPower e then e - 1 else e

/-- The nearest number with 53 significant binary digits, or fewer below the normal range. -/
def nearestFloat (x : Rat) : Rat :=
  if x = 0 then 0
  else
    let unit := twoPower (max (binaryExponent (if x < 0 then -x else x) - 52) (-1074))
    roundHalfEven (x / unit) * unit

/-- A blank around a number. -/
def isBlankAscii (c : Char) : Bool := c.toNat == 32 || (9 ≤ c.toNat && c.toNat ≤ 13)

/-- Whether a minus comes first, and what follows the sign. -/
def sign (s : Text) : Bool × Text :=
  match s with
  | '-' :: rest => (true, rest)
  | '+' :: rest => (false, rest)
  | _ => (false, s)

/-- The exponent that makes up the whole text; no text is no exponent. Exponents are cut off at ten thousand. -/
def wholeExponent? (s : Text) : Option Int :=
  match s with
  | [] => some 0
  | e :: rest =>
    if e = 'e' ∨ e = 'E' then
      (toNat? (sign rest).2).map fun n =>
        let n := min n 10000
        if (sign rest).1 then -(n : Int) else n
    else none

/-- The number that a text is, if it is one. -/
def numeric? (s : Text) : Option Rat :=
  let inner := ((s.dropWhile isBlankAscii).reverse.dropWhile isBlankAscii).reverse
  let body := (sign inner).2
  let whole := body.takeWhile Char.isDigit
  let afterWhole := body.dropWhile Char.isDigit
  let fraction := match afterWhole with
    | '.' :: rest => rest.takeWhile Char.isDigit
    | _ => []
  let afterFraction := match afterWhole with
    | '.' :: rest => rest.dropWhile Char.isDigit
    | rest => rest
  match toNat? (whole ++ fraction), wholeExponent? afterFraction with
  | some n, some e =>
    let e := e - fraction.length
    let x : Rat := if 0 ≤ e then ((n * Nat.pow 10 e.toNat : Nat) : Rat) else mkRat n (Nat.pow 10 (-e).toNat)
    some (nearestFloat (if (sign inner).1 then -x else x))
  | _, _ => none

end Roster.Sql
