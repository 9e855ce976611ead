import Roster.Filter.Compiled

/-!
# Columns that a filter may use

A compiled filter holds column names as they were typed, so it is checked against an allow-list before it is run. Names must agree exactly.
-/

namespace Roster.Filter

open Text

/-- The columns that users may filter by; all but the password hash. -/
def filterable : List Text :=
  ["Id".toList, "Username".toList, "Email".toList, "LastLoginAt".toList, "Active".toList]

/-- Refuses the first column that is not allowed. -/
def Compiled.checkColumns (filter : Compiled) (allowed : List Text) : Except Error Unit :=
  match filter.columns.find? fun column => !allowed.contains column with
  | some column => .error (.columnNotAllowed column)
  | none => .ok ()

theorem Compiled.checkColumns_eq_ok {filter : Compiled} {allowed : List Text} :
    filter.checkColumns allowed = .ok () ↔ ∀ column ∈ filter.columns, column ∈ allowed := by
  unfold Compiled.checkColumns
  split <;> simp_all [List.find?_eq_some_iff_append]
  rename_i h
  obtain ⟨hnot, before, ⟨after, he⟩, -⟩ := h
  exact ⟨_, by simp [he], hnot⟩

end Roster.Filter
