import Roster.Text.Basic

/-!
# JSON values

Objects keep the order of their fields. Numbers are exact: whole numbers as they are, and all others as a decimal mantissa and exponent.
-/

namespace Roster.Json

/-- `mantissa * 10 ^ exponent`. -/
structure Decimal where
  mantissa : Int
  exponent : Int
deriving DecidableEq, Repr

/-- A number is whole when it is written without a fraction and an exponent and fits 64 bits, with or without a sign. -/
inductive Number
  | whole (value : Int)
  | decimal (value : Decimal)
deriving DecidableEq, Repr

inductive Value
  | null
  | bool (value : Bool)
  | number (value : Number)
  | string (text : Text)
  | array (items : List Value)
  | object (fields : List (Text × Value))
deriving Repr

def Value.ofNat (n : Nat) : Value := .number (.whole n)

def Value.ofInt (n : Int) : Value := .number (.whole n)

/-- A string, or null where there is none. -/
def Value.ofText? : Option Text → Value
  | none => .null
  | some s => .string s

/-- The fields of an object with one more: a field that is there keeps its place and takes the new value. -/
def put (key : Text) (value : Value) : List (Text × Value) → List (Text × Value)
  | [] => [(key, value)]
  | (k, v) :: rest => if k = key then (k, value) :: rest else (k, v) :: put key value rest

end Roster.Json
