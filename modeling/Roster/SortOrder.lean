import Roster.Text.Number

/-!
# Sort orders

A sort text names columns, most important first, each with an optional direction: `LastLoginAt desc, Username`. Columns come from an allow-list, so the order can be written into SQL as it is. A blank text is no order.
-/

namespace Roster

open Text

inductive Direction
  | ascending
  | descending
deriving DecidableEq, Repr

def Direction.keyword : Direction → Text
  | .ascending => "ASC".toList
  | .descending => "DESC".toList

/-- The direction that a word names. -/
def Direction.ofWord? (s : Text) : Option Direction :=
  if sameIgnoringCase s "asc".toList then some .ascending
  else if sameIgnoringCase s "desc".toList then some .descending
  else none

structure SortTerm where
  column : Text
  direction : Direction
deriving DecidableEq, Repr

inductive SortError
  | columnNotAllowed (column : Text)
  /-- A term that is not a column and perhaps a direction; it is given without the blanks around it. -/
  | invalidTerm (term : Text)
deriving DecidableEq, Repr

def SortError.message : SortError → Text
  | .columnNotAllowed column => "Cannot sort by column: ".toList ++ column
  | .invalidTerm term => "Invalid sort term: '".toList ++ term ++ ['\'']

abbrev SortOrder := List SortTerm

namespace SortOrder

/-- The columns that users may sort by. -/
def sortable : List Text :=
  ["Username".toList, "Email".toList, "LastLoginAt".toList, "Active".toList]

/-- The term of the text between two commas. -/
def term (allowed : List Text) (piece : Text) : Except SortError SortTerm :=
  let checked (column : Text) (direction : Direction) : Except SortError SortTerm :=
    if allowed.contains column then .ok ⟨column, direction⟩ else .error (.columnNotAllowed column)
  match words piece with
  | [column] => checked column .ascending
  | [column, word] =>
    match Direction.ofWord? word with
    | some direction => checked column direction
    | none => .error (.invalidTerm (trim piece))
  | _ => .error (.invalidTerm (trim piece))

/-- Reads a sort text; the first faulty term is reported. -/
def parse (allowed : List Text) (s : Text) : Except SortError SortOrder :=
  if (trim s).isEmpty then .ok [] else (cut (· == ',') s).mapM (term allowed)

/-- The order as SQL, if there is one. -/
def toSql? (order : SortOrder) : Option Text :=
  if order.isEmpty then none
  else some (join ", ".toList (order.map fun t => t.column ++ ' ' :: t.direction.keyword))

end SortOrder

end Roster
