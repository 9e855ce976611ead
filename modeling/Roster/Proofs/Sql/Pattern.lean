import Mathlib.Data.List.Basic
import Roster.Sql.Like

/-!
# Patterns that are put together

A text fits two patterns one after the other exactly if it can be divided between them (`like_append`). So the patterns `v%` and `%v%` ask for a beginning, or for any part, that fits `v`. A part that is `v` but for case fits `v`, whatever characters `v` has, and if none of them is a wildcard no other part does.
-/

namespace Roster.Sql

open Text

/-- None of the characters is a wildcard. -/
def IsLiteral (pattern : Text) : Prop := '%' ∉ pattern ∧ '_' ∉ pattern

instance (pattern : Text) : Decidable (IsLiteral pattern) := inferInstanceAs (Decidable (_ ∧ _))

theorem isLiteral_cons {c : Char} {pattern : Text} :
    IsLiteral (c :: pattern) ↔ (c ≠ '%' ∧ c ≠ '_') ∧ IsLiteral pattern := by
  simp only [IsLiteral, List.mem_cons, not_or, ne_comm (a := c)]
  exact and_and_and_comm

theorem like_nil {s : Text} : like [] s = true ↔ s = [] := by
  rw [like, List.isEmpty_iff]

theorem like_cons {c : Char} (hc : c ≠ '%') {pattern s : Text} :
    like (c :: pattern) s = true ↔
      ∃ d rest, s = d :: rest ∧ (c = '_' ∨ c.toLower = d.toLower) ∧ like pattern rest = true := by
  cases s with
  | nil => simp [like, hc]
  | cons d rest => simp [like, hc]

theorem like_append {p q s : Text} :
    like (p ++ q) s = true ↔ ∃ t u, s = t ++ u ∧ like p t = true ∧ like q u = true := by
  induction p generalizing s with
  | nil => simp [like_nil]
  | cons c p ih =>
    by_cases hc : c = '%'
    · subst hc
      simp only [List.cons_append, like_percent, ih]
      constructor
      · rintro ⟨_, ⟨r, rfl⟩, t, u, rfl, ht, hu⟩
        exact ⟨r ++ t, u, (List.append_assoc r t u).symm, ⟨t, List.suffix_append r t, ht⟩, hu⟩
      · rintro ⟨_, u, rfl, ⟨t, ⟨r, rfl⟩, ht⟩, hu⟩
        exact ⟨t ++ u, ⟨r, (List.append_assoc r t u).symm⟩, t, u, rfl, ht, hu⟩
    · simp only [List.cons_append, like_cons hc, ih]
      constructor
      · rintro ⟨d, _, rfl, hd, t, u, rfl, ht, hu⟩
        exact ⟨d :: t, u, rfl, ⟨d, t, rfl, hd, ht⟩, hu⟩
      · rintro ⟨_, u, rfl, ⟨d, t, rfl, hd, ht⟩, hu⟩
        exact ⟨d, t ++ u, rfl, hd, t, u, rfl, ht, hu⟩

theorem like_run (s : Text) : like ['%'] s = true :=
  like_percent.2 ⟨[], List.nil_suffix, rfl⟩

/-- A pattern with a run of any characters after it looks for a beginning. -/
theorem like_append_run {v s : Text} : like (v ++ ['%']) s = true ↔ ∃ t, t <+: s ∧ like v t = true := by
  rw [like_append]
  constructor
  · rintro ⟨t, u, rfl, ht, -⟩
    exact ⟨t, List.prefix_append t u, ht⟩
  · rintro ⟨t, ⟨u, rfl⟩, ht⟩
    exact ⟨t, u, rfl, ht, like_run u⟩

/-- A pattern with a run of any characters on both sides looks for a part. -/
theorem like_run_append_run {v s : Text} :
    like ('%' :: v ++ ['%']) s = true ↔ ∃ t, t <:+: s ∧ like v t = true := by
  rw [List.cons_append, like_percent]
  constructor
  · rintro ⟨rest, hrest, h⟩
    obtain ⟨t, ht, hlike⟩ := like_append_run.1 h
    exact ⟨t, List.infix_iff_prefix_suffix.2 ⟨rest, ht, hrest⟩, hlike⟩
  · rintro ⟨t, ht, hlike⟩
    obtain ⟨rest, hprefix, hrest⟩ := List.infix_iff_prefix_suffix.1 ht
    exact ⟨rest, hrest, like_append_run.2 ⟨t, hprefix, hlike⟩⟩

theorem sameIgnoringCase_iff {s t : Text} :
    sameIgnoringCase s t = true ↔ s.map Char.toLower = t.map Char.toLower := by
  rw [sameIgnoringCase, beq_iff_eq]

/-- A wildcard of the pattern fits itself too. -/
theorem like_of_sameIgnoringCase {v t : Text} (h : sameIgnoringCase v t = true) : like v t = true := by
  rw [sameIgnoringCase_iff] at h
  induction v generalizing t with
  | nil => exact like_nil.2 (List.map_eq_nil_iff.1 h.symm)
  | cons c v ih =>
    obtain ⟨d, rest, rfl, hd, hrest⟩ := List.map_eq_cons_iff.1 h.symm
    have hlike := ih hrest.symm
    by_cases hc : c = '%'
    · rw [hc, like_percent]
      exact ⟨rest, List.suffix_cons d rest, hlike⟩
    · exact (like_cons hc).2 ⟨d, rest, rfl, .inr hd.symm, hlike⟩

theorem sameIgnoringCase_of_like {v t : Text} (hv : IsLiteral v) (h : like v t = true) :
    sameIgnoringCase v t = true := by
  rw [sameIgnoringCase_iff]
  induction v generalizing t with
  | nil => rw [like_nil.1 h]
  | cons c v ih =>
    obtain ⟨⟨hrun, hone⟩, hv⟩ := isLiteral_cons.1 hv
    obtain ⟨d, rest, rfl, hd, hrest⟩ := (like_cons hrun).1 h
    rw [List.map_cons, List.map_cons, hd.resolve_left hone, ih hv hrest]

end Roster.Sql
