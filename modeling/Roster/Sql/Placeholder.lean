import Roster.Text.Digit
import Roster.Text.Number

/-!
# Numbered placeholders

The database counts its placeholders from `?1`, while a compiled filter names them from `@p0`. `numbered` turns each `@pN` into `?N+1`. The digits of a name are read as far as they go, digits of other scripts included, and a run that is not an ASCII number of 64 bits is left as it is.
-/

namespace Roster.Sql

open Text

/-- The placeholder that takes the `n`-th argument, counted from one. -/
def argument (n : Nat) : Text := '?' :: ofNat n

/-- What stands for `@p` followed by the given run of digits. -/
def rename (digits : Text) : Text :=
  match (toNat? digits).filter (· < UInt64.size) with
  | some n => argument (n + 1)
  | none => '@' :: 'p' :: digits

/-- Replaces the named placeholders of a text. -/
def numbered : Text → Text
  | [] => []
  | '@' :: 'p' :: s =>
    if (s.takeWhile Text.isDigit).isEmpty then '@' :: 'p' :: numbered s
    else rename (s.takeWhile Text.isDigit) ++ numbered (s.dropWhile Text.isDigit)
  | c :: s => c :: numbered s
termination_by s => s.length
decreasing_by
  all_goals have := (List.dropWhile_sublist (l := s) Text.isDigit).length_le; simp; try omega

end Roster.Sql
