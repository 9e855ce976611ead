import Roster.Sql.Placeholder

/-!
# Renumbering

Placeholders are renumbered in the text of a condition. A text is renumbered part by part if the parts are cut where no run of digits goes on: that is what `Renumbers` says of a part.
-/

namespace Roster.Sql

open Text

/-- The part becomes `s'`, whatever follows it, as long as no digit does. -/
def Renumbers (s s' : Text) : Prop :=
  ∀ t, (∀ c ∈ t.head?, Text.isDigit c = false) → numbered (s ++ t) = s' ++ numbered t

@[simp] theorem numbered_nil : numbered [] = [] := by rw [numbered]

theorem numbered_cons {c : Char} (h : c ≠ '@') (t : Text) : numbered (c :: t) = c :: numbered t := by
  rw [numbered]
  intro s hc
  exact absurd hc h

theorem numbered_append {s : Text} (h : '@' ∉ s) (t : Text) : numbered (s ++ t) = s ++ numbered t := by
  induction s with
  | nil => rfl
  | cons c s ih =>
    rw [List.mem_cons, not_or] at h
    rw [List.cons_append, numbered_cons (Ne.symm h.1), ih h.2, List.cons_append]

theorem isDigit_ofNat (n : Nat) : ∀ c ∈ ofNat n, Text.isDigit c = true := by
  intro c hc
  exact isDigit_of_ascii (isDigit_of_mem_ofNat hc)

section

variable {run t : Text} (hrun : ∀ d ∈ run, Text.isDigit d = true) (ht : ∀ c ∈ t.head?, Text.isDigit c = false)

include hrun ht

theorem takeWhile_isDigit_append : (run ++ t).takeWhile Text.isDigit = run := by
  rw [List.takeWhile_append_of_pos hrun]
  cases t with
  | nil => simp
  | cons c t => simp [List.takeWhile, ht c (by simp)]

theorem dropWhile_isDigit_append : (run ++ t).dropWhile Text.isDigit = t := by
  rw [List.dropWhile_append_of_pos hrun]
  cases t with
  | nil => simp
  | cons c t => simp [List.dropWhile, ht c (by simp)]

end

theorem rename_ofNat {n : Nat} (h : n < UInt64.size) : rename (ofNat n) = argument (n + 1) := by
  simp [rename, Option.filter, h]

/-- A name is replaced as a whole if no digit follows it. -/
theorem renumbers_name {run : Text} (hne : run ≠ []) (hrun : ∀ d ∈ run, Text.isDigit d = true) :
    Renumbers ('@' :: 'p' :: run) (rename run) := by
  intro t ht
  rw [List.cons_append, List.cons_append, numbered, takeWhile_isDigit_append hrun ht, dropWhile_isDigit_append hrun ht]
  simp [hne]

namespace Renumbers

variable {s s' t t' : Text}

/-- Text without placeholders stays as it is, also before digits. -/
theorem text_append (hs : '@' ∉ s) (ht : Renumbers t t') : Renumbers (s ++ t) (s ++ t') := by
  intro u hu
  rw [List.append_assoc, numbered_append hs, ht u hu, List.append_assoc]

theorem eq (h : Renumbers s s') : numbered s = s' := by
  simpa using h [] (by simp)

end Renumbers

end Roster.Sql
