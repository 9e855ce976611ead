import Mathlib.Data.List.Forall2
import Roster.Proofs.Sql.Numbering

/-!
# Placeholders in a text

A placeholder starts with a mark, `@` or `?`, and goes on as far as its digits do, so one that is named `@p1` is not found where `@p10` stands. `Marks` says which placeholders a text has, from left to right, and that the mark occurs in nothing else.
-/

namespace Roster.Sql

open Text

/-- The parts of a text that start with the mark, from left to right. -/
def partsFrom (mark : Char) (s : Text) : List Text := s.tails.filter fun t => t.head? == some mark

section

variable {mark : Char}

@[simp] theorem partsFrom_cons_self (s : Text) : partsFrom mark (mark :: s) = (mark :: s) :: partsFrom mark s := by
  rw [partsFrom, List.tails, List.filter_cons_of_pos (by simp)]
  rfl

theorem partsFrom_cons_of_ne {c : Char} (h : c ≠ mark) (s : Text) : partsFrom mark (c :: s) = partsFrom mark s := by
  rw [partsFrom, List.tails, List.filter_cons_of_neg (by simpa using h)]
  rfl

theorem partsFrom_append {s : Text} (h : mark ∉ s) (t : Text) : partsFrom mark (s ++ t) = partsFrom mark t := by
  induction s with
  | nil => rfl
  | cons c s ih =>
    rw [List.mem_cons, not_or] at h
    rw [List.cons_append, partsFrom_cons_of_ne (Ne.symm h.1), ih h.2]

theorem length_partsFrom (mark : Char) (s : Text) : (partsFrom mark s).length = s.count mark := by
  induction s with
  | nil => rfl
  | cons c s ih =>
    by_cases hc : c = mark
    · subst hc
      rw [partsFrom_cons_self, List.length_cons, ih, List.count_cons_self]
    · rw [partsFrom_cons_of_ne hc, ih, List.count_cons_of_ne hc]

end

/-- The text starts with the name, and no digit follows it. -/
def StartsWithName (name t : Text) : Prop := ∃ rest, t = name ++ rest ∧ ∀ d ∈ rest.head?, Text.isDigit d = false

/-- Wherever the mark occurs in the text one of the names starts, each once and in their order. -/
def Marks (mark : Char) (names : List Text) (s : Text) : Prop := List.Forall₂ StartsWithName names (partsFrom mark s)

/-- A placeholder that starts with the mark. -/
def IsMarked (mark : Char) (name : Text) : Prop := ∃ rest, name = mark :: rest ∧ mark ∉ rest

theorem isMarked_argument (n : Nat) : IsMarked '?' (argument n) := by
  refine ⟨ofNat n, rfl, ?_⟩
  intro hmem
  exact absurd (isDigit_of_mem_ofNat hmem) (by decide)

namespace Marks

variable {mark : Char} {names : List Text} {s t : Text}

theorem nil : Marks mark [] [] := List.Forall₂.nil

theorem text_append (hs : mark ∉ s) (ht : Marks mark names t) : Marks mark names (s ++ t) := by
  rw [Marks, partsFrom_append hs]
  exact ht

theorem text (hs : mark ∉ s) : Marks mark [] s := by
  simpa using text_append hs nil

theorem name_append {name : Text} (hname : IsMarked mark name) (hdigit : ∀ d ∈ t.head?, Text.isDigit d = false)
    (ht : Marks mark names t) : Marks mark (name :: names) (name ++ t) := by
  obtain ⟨rest, rfl, hrest⟩ := hname
  rw [Marks, List.cons_append, partsFrom_cons_self, partsFrom_append hrest]
  exact .cons ⟨t, rfl, hdigit⟩ ht

theorem count_eq (h : Marks mark names s) : s.count mark = names.length := by
  rw [← length_partsFrom]
  exact h.length_eq.symm

end Marks

end Roster.Sql
