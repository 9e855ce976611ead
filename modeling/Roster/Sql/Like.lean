import Roster.Text.Basic

/-!
# LIKE patterns

In a pattern `%` stands for any run of characters and `_` for one character; there is no escape. All other characters stand for themselves, ASCII letters in either case.
-/

namespace Roster.Sql

open Text

/-- The text and all that is left of it after dropping characters from its front. -/
def suffixes : Text → List Text
  | [] => [[]]
  | c :: s => (c :: s) :: suffixes s

/-- The whole text fits the pattern. Two things that a database does are left out: it takes a null character for the end of either text, and it refuses patterns of more than 50000 bytes. -/
def like : Text → Text → Bool
  | [], s => s.isEmpty
  | c :: pattern, s =>
    if c = '%' then (suffixes s).any (like pattern)
    else match s with
      | [] => false
      | d :: rest => (c = '_' || c.toLower = d.toLower) && like pattern rest

theorem mem_suffixes {s t : Text} : t ∈ suffixes s ↔ t <:+ s := by
  induction s with
  | nil => simp [suffixes]
  | cons c s ih => simp [suffixes, ih, List.suffix_cons_iff]

theorem like_percent {pattern s : Text} :
    like ('%' :: pattern) s = true ↔ ∃ t, t <:+ s ∧ like pattern t = true := by
  simp [like, mem_suffixes]

end Roster.Sql
