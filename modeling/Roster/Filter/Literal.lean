import Roster.Timestamp

/-!
# Literals

The values of a filter. Quoted text is always a string. A word is a truth value, a whole number of 64 bits, a timestamp, which is a string too, or else raw text.
-/

namespace Roster.Filter

open Text

inductive Literal
  | str (text : Text)
  | bool (value : Bool)
  | int (value : Int)
  /-- A word that is nothing else. -/
  | raw (text : Text)
deriving DecidableEq, Repr

namespace Literal

/-- The form that is embedded in a LIKE pattern. -/
def asText : Literal → Text
  | .str text => text
  | .raw text => text
  | .bool true => "true".toList
  | .bool false => "false".toList
  | .int n => ofInt n

def display : Literal → Text
  | .str text => '"' :: text ++ ['"']
  | value => value.asText

/-- The whole numbers that a literal holds are those of 64 bits with a sign. -/
def inRange (n : Int) : Bool := Int64.minValue.toInt ≤ n && n ≤ Int64.maxValue.toInt

/-- The value that a word stands for. -/
def ofWord (s : Text) : Literal :=
  if sameIgnoringCase s "true".toList then .bool true
  else if sameIgnoringCase s "false".toList then .bool false
  else match (toInt? s).filter inRange with
    | some n => .int n
    | none => if (Timestamp.parse? s).isSome then .str s else .raw s

end Literal

end Roster.Filter
