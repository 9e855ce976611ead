import Roster.Text.Number

/-!
# Timestamps

A moment of a day in UTC, written `YYYY-MM-DDTHH:MM:SSZ` in the proleptic Gregorian calendar. Reading is lenient in three ways: blanks may stand before each number, numbers may be written with fewer digits, and a year with a sign may have any number of digits. The second 60 is accepted at every minute.
-/

namespace Roster

open Text

structure Timestamp where
  year : Int
  month : Nat
  day : Nat
  hour : Nat
  minute : Nat
  second : Nat
deriving DecidableEq, Repr

namespace Timestamp

def isLeap (year : Int) : Bool := year % 4 == 0 && (year % 100 != 0 || year % 400 == 0)

def daysInMonth (year : Int) (month : Nat) : Nat :=
  if month == 2 then (if isLeap year then 29 else 28)
  else if [4, 6, 9, 11].contains month then 30
  else 31

/-- The years that can be represented. -/
def minYear : Int := -262143

def maxYear : Int := 262142

/-- The parts name a real moment, or a leap second. -/
def isValid (t : Timestamp) : Bool :=
  minYear ≤ t.year && t.year ≤ maxYear && 1 ≤ t.month && t.month ≤ 12 &&
    1 ≤ t.day && t.day ≤ daysInMonth t.year t.month && t.hour ≤ 23 && t.minute ≤ 59 && t.second ≤ 60

/-- The number made of the first digits of the text, at most `limit` of them and at least one, and what follows it. -/
def digits? (limit : Nat) (s : Text) : Option (Nat × Text) :=
  let run := (s.take limit).takeWhile Char.isDigit
  (toNat? run).map fun n => (n, s.drop run.length)

/-- A number of one or two digits. -/
def part? (s : Text) : Option (Nat × Text) := digits? 2 (trimStart s)

def year? (s : Text) : Option (Int × Text) :=
  match trimStart s with
  | '-' :: rest => (digits? rest.length rest).map fun r => (-(r.1 : Int), r.2)
  | '+' :: rest => (digits? rest.length rest).map fun r => ((r.1 : Int), r.2)
  | rest => (digits? 4 rest).map fun r => ((r.1 : Int), r.2)

/-- What follows the character `c`, which must come first. -/
def after? (c : Char) : Text → Option Text
  | [] => none
  | d :: s => if c = d then some s else none

def parse? (s : Text) : Option Timestamp := do
  let (year, s) ← year? s
  let (month, s) ← part? (← after? '-' s)
  let (day, s) ← part? (← after? '-' s)
  let (hour, s) ← part? (← after? 'T' s)
  let (minute, s) ← part? (← after? ':' s)
  let (second, s) ← part? (← after? ':' s)
  let rest ← after? 'Z' s
  let t : Timestamp := ⟨year, month, day, hour, minute, second⟩
  if rest.isEmpty && t.isValid then some t else none

end Timestamp

end Roster
