/-!
# Three-valued truth

A condition on a row is true, false or unknown, as when it compares a value that is not there. A row is selected only when its condition is true.
-/

namespace Roster

inductive Truth
  | true
  | false
  | unknown
deriving DecidableEq, Repr

/-- The two ways to join conditions. -/
inductive Connective
  | and
  | or
deriving DecidableEq, Repr

namespace Truth

def ofBool : Bool → Truth
  | Bool.true => .true
  | Bool.false => .false

def not : Truth → Truth
  | .true => .false
  | .false => .true
  | .unknown => .unknown

/-- False wins over unknown. -/
def and : Truth → Truth → Truth
  | .false, _ => .false
  | .true, b => b
  | .unknown, .false => .false
  | .unknown, _ => .unknown

/-- True wins over unknown. -/
def or : Truth → Truth → Truth
  | .true, _ => .true
  | .false, b => b
  | .unknown, .true => .true
  | .unknown, _ => .unknown

end Truth

def Connective.eval : Connective → Truth → Truth → Truth
  | .and => Truth.and
  | .or => Truth.or

end Roster
