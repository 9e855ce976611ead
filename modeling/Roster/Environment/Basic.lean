import Roster.Text.Basic

/-!
# The environment

The variables that are set when the program starts. A file may add to them, but it never changes one that is set.
-/

namespace Roster

open Text

/-- The value of each variable that is set. -/
abbrev Environment := Text → Option Text

namespace Environment

def empty : Environment := fun _ => none

/-- Sets a variable unless it is set already. -/
def provide (name value : Text) (environment : Environment) : Environment := fun n =>
  if n = name then some ((environment name).getD value) else environment n

end Environment

end Roster
