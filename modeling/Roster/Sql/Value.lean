import Roster.Sql.Numeric
import Roster.Truth

/-!
# Values in the database

A value is null, a 64-bit integer or a text. Before two values are compared, the affinity of the column is applied to the other side: next to a text column an integer becomes its decimal text, and next to an integer column numeric text becomes its number. Numbers come before all texts, and texts are ordered by code points, which is the order of their UTF-8 bytes.
-/

namespace Roster

open Text

/-- An order or equality test. -/
inductive Relation
  | eq
  | ne
  | ge
  | le
  | gt
  | lt
deriving DecidableEq, Repr

/-- The two sides are in the relation if they are in this order. -/
def Relation.holds : Relation → Ordering → Bool
  | .eq, o => o == .eq
  | .ne, o => o != .eq
  | .ge, o => o != .lt
  | .le, o => o != .gt
  | .gt, o => o == .gt
  | .lt, o => o == .lt

namespace Sql

inductive Value
  | null
  | integer (n : Int)
  | text (s : Text)
deriving DecidableEq, Repr

/-- What a column does to the values that it is compared with. -/
inductive Affinity
  | text
  | integer
  /-- Nothing, because there is no column. -/
  | none
deriving DecidableEq, Repr

/-- A value that is ready to be compared. -/
inductive Comparand
  | number (x : Rat)
  | text (s : Text)
deriving DecidableEq

def compareNumbers (x y : Rat) : Ordering := if x < y then .lt else if x = y then .eq else .gt

def compareTexts : Text → Text → Ordering
  | [], [] => .eq
  | [], _ :: _ => .lt
  | _ :: _, [] => .gt
  | c :: s, d :: t => if c.val < d.val then .lt else if c = d then compareTexts s t else .gt

def Comparand.compare : Comparand → Comparand → Ordering
  | .number x, .number y => compareNumbers x y
  | .number _, .text _ => .lt
  | .text _, .number _ => .gt
  | .text s, .text t => compareTexts s t

namespace Value

/-- The value as it is compared under an affinity; null is not compared. -/
def comparand? (affinity : Affinity) : Value → Option Comparand
  | .null => Option.none
  | .integer n =>
    match affinity with
    | .text => some (.text (ofInt n))
    | _ => some (.number n)
  | .text s =>
    match affinity with
    | .integer => some (((numeric? s).map .number).getD (.text s))
    | _ => some (.text s)

/-- The test of two values; unknown if one of them is null. -/
def test (affinity : Affinity) (relation : Relation) (left right : Value) : Truth :=
  match left.comparand? affinity, right.comparand? affinity with
  | some a, some b => .ofBool (relation.holds (a.compare b))
  | _, _ => .unknown

/-- The value as text; null has none. -/
def asText? : Value → Option Text
  | .null => Option.none
  | .integer n => some (ofInt n)
  | .text s => some s

/-- The order of values in a sorted list: null, then numbers, then texts. -/
def order (left right : Value) : Ordering :=
  match left.comparand? .none, right.comparand? .none with
  | Option.none, Option.none => .eq
  | Option.none, some _ => .lt
  | some _, Option.none => .gt
  | some a, some b => a.compare b

end Value

end Sql

end Roster
