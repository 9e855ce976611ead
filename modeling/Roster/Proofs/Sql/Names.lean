import Mathlib.Data.List.Infix
import Roster.Proofs.Sql.Numbering

/-!
# Renumbering any text

A name is `@p` with digits behind it, and a text may have names anywhere: one after another, behind marks that belong to none, with digits that are no number of 64 bits. Each name that is such a number is replaced and all else is kept. No name comes out of the neighbours of what is replaced (`names_numbered`), so renumbering a second time changes nothing (`numbered_eq_iff_renumbered`).

A text is empty, or starts with a name, or starts with a character that starts none: that is the induction here (`induction_names`).
-/

namespace Roster.Sql

open Text

/-- The digits of a name that is followed by `rest`. -/
structure IsRun (run rest : Text) : Prop where
  ne_nil : run ≠ []
  digits : ∀ d ∈ run, Text.isDigit d = true
  ends : ∀ d ∈ rest.head?, Text.isDigit d = false

/-- The text has a name with these digits. -/
def HasName (s run : Text) : Prop := ∃ before rest, s = before ++ '@' :: 'p' :: run ++ rest ∧ IsRun run rest

/-- No name has the greatest number of 64 bits, after which there is no other. -/
def Renumberable (s : Text) : Prop := ∀ run, HasName s run → toNat? run ≠ some (UInt64.size - 1)

/-- What stands for the name with these digits. -/
inductive Replaces (run : Text) : Text → Prop
  | argument {k : Nat} (h : toNat? run = some k) (hk : k < UInt64.size - 1) : Replaces run (argument (k + 1))
  | itself (h : ∀ k, toNat? run = some k → UInt64.size ≤ k) : Replaces run ('@' :: 'p' :: run)

/-- The second text is the first with its names replaced, and with what stands between them as it was. -/
inductive Renumbered : Text → Text → Prop
  | text {s : Text} (hs : ∀ run, ¬HasName s run) : Renumbered s s
  | name {before run rest x t : Text} (hbefore : ∀ run, ¬HasName before run) (hrun : IsRun run rest)
      (hx : Replaces run x) (hrest : Renumbered rest t) :
      Renumbered (before ++ '@' :: 'p' :: run ++ rest) (before ++ x ++ t)

/-! ### Names -/

/-- The digits of the name that the text starts with. -/
def leading? : Text → Option Text
  | '@' :: 'p' :: s => if (s.takeWhile Text.isDigit).isEmpty then none else some (s.takeWhile Text.isDigit)
  | _ => none

/-- The digits of the names in a text, from left to right. -/
def names (s : Text) : List Text := s.tails.filterMap leading?

section

variable {c : Char} {s run rest : Text}

theorem leading?_name (h : IsRun run rest) : leading? ('@' :: 'p' :: run ++ rest) = some run := by
  rw [List.cons_append, List.cons_append, leading?, takeWhile_isDigit_append h.digits h.ends]
  simp [h.ne_nil]

theorem exists_of_leading? (h : leading? s = some run) : ∃ rest, s = '@' :: 'p' :: run ++ rest ∧ IsRun run rest := by
  fun_cases leading? s with
  | case1 s hempty => simp [leading?, hempty] at h
  | case2 s hne =>
    obtain rfl : s.takeWhile Text.isDigit = run := by simpa [leading?, hne] using h
    refine ⟨s.dropWhile Text.isDigit, ?_, by simpa using hne, List.all_eq_true.1 List.all_takeWhile, ?_⟩
    · rw [List.cons_append, List.cons_append, List.takeWhile_append_dropWhile]
    · intro d hd
      have hhead := List.head?_dropWhile_not Text.isDigit s
      rwa [hd] at hhead
  | case3 => simp_all [leading?]

theorem mem_names : run ∈ names s ↔ HasName s run := by
  rw [names, List.mem_filterMap]
  constructor
  · rintro ⟨t, ht, hrun⟩
    obtain ⟨before, rfl⟩ := (List.mem_tails _ _).1 ht
    obtain ⟨rest, rfl, hends⟩ := exists_of_leading? hrun
    exact ⟨before, rest, by rw [List.append_assoc], hends⟩
  · rintro ⟨before, rest, rfl, hends⟩
    refine ⟨'@' :: 'p' :: run ++ rest, (List.mem_tails _ _).2 ⟨before, by rw [List.append_assoc]⟩, leading?_name hends⟩

theorem names_eq_nil_iff : names s = [] ↔ ∀ run, ¬HasName s run := by
  simp only [← mem_names, List.eq_nil_iff_forall_not_mem]

theorem renumberable_iff : Renumberable s ↔ ∀ run ∈ names s, toNat? run ≠ some (UInt64.size - 1) := by
  simp only [Renumberable, mem_names]

instance (s : Text) : Decidable (Renumberable s) := decidable_of_iff' _ renumberable_iff

@[elab_as_elim]
theorem induction_names {motive : Text → Prop} (nil : motive [])
    (char : ∀ c s, leading? (c :: s) = none → motive s → motive (c :: s))
    (name : ∀ run rest, IsRun run rest → motive rest → motive ('@' :: 'p' :: run ++ rest)) (s : Text) : motive s := by
  induction hn : s.length using Nat.strong_induction_on generalizing s with
  | h n ih =>
    cases s with
    | nil => exact nil
    | cons c s =>
      rw [List.length_cons] at hn
      cases hleading : leading? (c :: s) with
      | none => exact char c s hleading (ih s.length (by omega) s rfl)
      | some run =>
        obtain ⟨rest, hs, hrun⟩ := exists_of_leading? hleading
        have hlength := congrArg List.length hs
        simp only [List.length_cons, List.length_append] at hlength
        rw [hs]
        exact name run rest hrun (ih rest.length (by omega) rest rfl)

theorem leading?_of_ne (h : c ≠ '@') (s : Text) : leading? (c :: s) = none := by
  simp [leading?, h]

theorem leading?_mark_of_ne (h : c ≠ 'p') (s : Text) : leading? ('@' :: c :: s) = none := by
  simp [leading?, h]

theorem leading?_mark_eq_none : leading? ('@' :: 'p' :: s) = none ↔ ∀ d ∈ s.head?, Text.isDigit d = false := by
  cases s with
  | nil => simp [leading?]
  | cons d s => cases hd : Text.isDigit d <;> simp [leading?, hd]

theorem takeWhile_isDigit_append_mark (s t : Text) :
    (s ++ '@' :: t).takeWhile Text.isDigit = s.takeWhile Text.isDigit := by
  have hmark : Text.isDigit '@' = false := by decide
  induction s with
  | nil => simp [hmark]
  | cons c s ih => rw [List.cons_append, List.takeWhile_cons, List.takeWhile_cons, ih]

/-- A name that starts before a mark ends before it: neither its `p` nor its digits are marks. -/
theorem leading?_append_mark (c : Char) (s t : Text) : leading? (c :: s ++ '@' :: t) = leading? (c :: s) := by
  by_cases hc : c = '@'
  · subst hc
    cases s with
    | nil => exact leading?_mark_of_ne (by decide) t
    | cons d s =>
      by_cases hd : d = 'p'
      · subst hd
        simp only [leading?, List.cons_append, takeWhile_isDigit_append_mark]
      · rw [List.cons_append, List.cons_append, leading?_mark_of_ne hd, leading?_mark_of_ne hd]
  · rw [List.cons_append, leading?_of_ne hc, leading?_of_ne hc]

@[simp] theorem names_nil : names [] = [] := rfl

theorem names_cons_of_none (h : leading? (c :: s) = none) : names (c :: s) = names s := by
  rw [names, List.tails, List.filterMap_cons_none h]
  rfl

theorem names_cons_of_some (h : leading? (c :: s) = some run) : names (c :: s) = run :: names s := by
  rw [names, List.tails, List.filterMap_cons_some h]
  rfl

theorem names_cons_eq_nil : names (c :: s) = [] ↔ leading? (c :: s) = none ∧ names s = [] := by
  cases h : leading? (c :: s) with
  | none => simp [names_cons_of_none h]
  | some run => simp [names_cons_of_some h]

theorem names_append (h : '@' ∉ s) (t : Text) : names (s ++ t) = names t := by
  induction s with
  | nil => rfl
  | cons c s ih =>
    rw [List.mem_cons, not_or] at h
    rw [List.cons_append, names_cons_of_none (leading?_of_ne (Ne.symm h.1) _), ih h.2]

theorem not_mem_of_forall_isDigit (h : ∀ d ∈ run, Text.isDigit d = true) : '@' ∉ run := by
  intro hmem
  exact absurd (h _ hmem) (by decide)

theorem names_name (h : IsRun run rest) : names ('@' :: 'p' :: run ++ rest) = run :: names rest := by
  have hmark : '@' ∉ 'p' :: run := by simpa using not_mem_of_forall_isDigit h.digits
  have htail : names ('p' :: run ++ rest) = names rest := names_append hmark rest
  rw [← htail]
  exact names_cons_of_some (leading?_name h)

theorem not_hasName_nil : ∀ run, ¬HasName [] run := names_eq_nil_iff.1 names_nil

theorem not_hasName_cons (h : leading? (c :: s) = none) (hs : ∀ run, ¬HasName s run) : ∀ run, ¬HasName (c :: s) run := by
  rw [← names_eq_nil_iff] at hs ⊢
  exact names_cons_eq_nil.2 ⟨h, hs⟩

theorem renumberable_cons_of_none (h : leading? (c :: s) = none) : Renumberable (c :: s) ↔ Renumberable s := by
  rw [renumberable_iff, renumberable_iff, names_cons_of_none h]

theorem renumberable_name (h : IsRun run rest) :
    Renumberable ('@' :: 'p' :: run ++ rest) ↔ toNat? run ≠ some (UInt64.size - 1) ∧ Renumberable rest := by
  rw [renumberable_iff, renumberable_iff, names_name h, List.forall_mem_cons]

end

/-! ### Renumbering -/

section

variable {c : Char} {s run rest : Text}

theorem numbered_cons_of_none (h : leading? (c :: s) = none) : numbered (c :: s) = c :: numbered s := by
  by_cases hname : ∃ u, c = '@' ∧ s = 'p' :: u
  · obtain ⟨u, rfl, rfl⟩ := hname
    have hempty : (u.takeWhile Text.isDigit).isEmpty = true := by
      by_contra hne
      simp [leading?, hne] at h
    rw [numbered, if_pos hempty, numbered_cons (by decide)]
  · rw [numbered]
    intro u hc hs
    exact hname ⟨u, hc, hs⟩

theorem numbered_name (h : IsRun run rest) : numbered ('@' :: 'p' :: run ++ rest) = rename run ++ numbered rest :=
  renumbers_name h.ne_nil h.digits rest h.ends

/-- The number of a name, if it is one of 64 bits. -/
def number? (run : Text) : Option Nat := (toNat? run).filter (· < UInt64.size)

theorem number?_eq_none_iff : number? run = none ↔ ∀ k, toNat? run = some k → UInt64.size ≤ k := by
  simp [number?]

theorem number?_eq_some_iff {k : Nat} : number? run = some k ↔ toNat? run = some k ∧ k < UInt64.size := by
  simp [number?, Option.filter_eq_some_iff]

theorem rename_of_number? {k : Nat} (h : number? run = some k) : rename run = argument (k + 1) := by
  rw [rename, ← number?, h]

theorem rename_of_none (h : number? run = none) : rename run = '@' :: 'p' :: run := by
  rw [rename, ← number?, h]

/-- A text starts as it did, or with a replaced name. -/
theorem mem_head?_of_numbered : ∀ c ∈ (numbered s).head?, c ∈ s.head? ∨ c = '?' := by
  induction s using induction_names with
  | nil => simp
  | char c s h _ => simp [numbered_cons_of_none h]
  | name run rest h _ =>
    rw [numbered_name h]
    cases hk : number? run with
    | none => simp [rename_of_none hk]
    | some k => simp [rename_of_number? hk, argument]

theorem isDigit_head?_numbered (h : ∀ d ∈ s.head?, Text.isDigit d = false) :
    ∀ d ∈ (numbered s).head?, Text.isDigit d = false := by
  intro d hd
  rcases mem_head?_of_numbered d hd with hmem | rfl
  · exact h d hmem
  · decide

theorem IsRun.numbered (h : IsRun run rest) : IsRun run (numbered rest) :=
  ⟨h.ne_nil, h.digits, isDigit_head?_numbered h.ends⟩

/-- A character that starts no name starts none when what follows it is renumbered. -/
theorem leading?_cons_numbered (h : leading? (c :: s) = none) : leading? (c :: numbered s) = none := by
  by_cases hc : c = '@'
  · subst hc
    cases hs : numbered s with
    | nil => rfl
    | cons d u =>
      by_cases hd : d = 'p'
      · -- The `p` is from `s`. What follows it there is no digit, and what follows it now is none either.
        subst hd
        have hmem : 'p' ∈ s.head? := (mem_head?_of_numbered 'p' (by simp [hs])).resolve_right (by decide)
        obtain ⟨v, rfl⟩ := List.head?_eq_some_iff.1 hmem
        rw [numbered_cons (by decide)] at hs
        obtain ⟨-, rfl⟩ := List.cons.inj hs
        rw [leading?_mark_eq_none] at h ⊢
        exact isDigit_head?_numbered h
      · exact leading?_mark_of_ne hd u
  · exact leading?_of_ne hc _

/-- The names that are left are those that have no number of 64 bits. -/
theorem names_numbered (s : Text) : names (numbered s) = (names s).filter fun run => (number? run).isNone := by
  induction s using induction_names with
  | nil => simp
  | char c s h ih =>
    rw [numbered_cons_of_none h, names_cons_of_none (leading?_cons_numbered h), names_cons_of_none h, ih]
  | name run rest h ih =>
    rw [numbered_name h, names_name h]
    cases hk : number? run with
    | none =>
      rw [rename_of_none hk, names_name h.numbered, ih, List.filter_cons_of_pos (by simp [hk])]
    | some k =>
      have hmark : '@' ∉ argument (k + 1) := by
        simpa [argument] using not_mem_of_forall_isDigit (isDigit_ofNat (k + 1))
      rw [rename_of_number? hk, names_append hmark, ih, List.filter_cons_of_neg (by simp [hk])]

theorem numbered_eq_self (h : ∀ run ∈ names s, number? run = none) : numbered s = s := by
  induction s using induction_names with
  | nil => simp
  | char c s hleading ih =>
    rw [names_cons_of_none hleading] at h
    rw [numbered_cons_of_none hleading, ih h]
  | name run rest hrun ih =>
    rw [names_name hrun, List.forall_mem_cons] at h
    rw [numbered_name hrun, ih h.2, rename_of_none h.1]

theorem numbered_numbered (s : Text) : numbered (numbered s) = numbered s := by
  apply numbered_eq_self
  intro run hrun
  rw [names_numbered, List.mem_filter, Option.isNone_iff_eq_none] at hrun
  exact hrun.2

/-- A text without names before a mark stays as it is. -/
theorem numbered_append_mark (h : names s = []) (t : Text) : numbered (s ++ '@' :: t) = s ++ numbered ('@' :: t) := by
  induction s with
  | nil => rfl
  | cons c s ih =>
    obtain ⟨hleading, hs⟩ := names_cons_eq_nil.1 h
    rw [← leading?_append_mark c s t] at hleading
    rw [List.cons_append] at hleading ⊢
    rw [numbered_cons_of_none hleading, ih hs, List.cons_append]

end

/-! ### Replacing names -/

theorem Replaces.eq_rename {run x : Text} (h : Replaces run x) : x = rename run := by
  cases h with
  | argument h hk =>
    have hsize := Nat.lt_of_lt_pred hk
    exact (rename_of_number? (number?_eq_some_iff.2 ⟨h, hsize⟩)).symm
  | itself h => exact (rename_of_none (number?_eq_none_iff.2 h)).symm

theorem replaces_rename {run : Text} (h : toNat? run ≠ some (UInt64.size - 1)) : Replaces run (rename run) := by
  cases hk : number? run with
  | none =>
    rw [rename_of_none hk]
    exact .itself (number?_eq_none_iff.1 hk)
  | some k =>
    obtain ⟨hvalue, hsize⟩ := number?_eq_some_iff.1 hk
    rw [rename_of_number? hk]
    refine .argument hvalue (Nat.lt_of_le_of_ne (Nat.le_pred_of_lt hsize) ?_)
    rintro rfl
    exact h hvalue

namespace Renumbered

variable {s t : Text}

theorem cons {c : Char} (hc : leading? (c :: s) = none) (h : Renumbered s t) : Renumbered (c :: s) (c :: t) := by
  cases h with
  | text hs => exact .text (not_hasName_cons hc hs)
  | @name before run rest x t hbefore hrun hx hrest =>
    rw [List.append_assoc, List.cons_append, ← List.cons_append, leading?_append_mark] at hc
    exact .name (not_hasName_cons hc hbefore) hrun hx hrest

theorem eq_numbered (h : Renumbered s t) : t = numbered s := by
  induction h with
  | text hs => exact (numbered_eq_self (by simp [names_eq_nil_iff.2 hs])).symm
  | @name before run rest x t hbefore hrun hx _ ih =>
    calc before ++ x ++ t = before ++ numbered ('@' :: 'p' :: run ++ rest) := by
          rw [numbered_name hrun, ← hx.eq_rename, ← ih, List.append_assoc]
      _ = numbered (before ++ '@' :: 'p' :: run ++ rest) := by
          rw [List.append_assoc, List.cons_append, numbered_append_mark (names_eq_nil_iff.2 hbefore)]

end Renumbered

theorem renumbered_numbered {s : Text} (h : Renumberable s) : Renumbered s (numbered s) := by
  induction s using induction_names with
  | nil =>
    rw [numbered_nil]
    exact .text not_hasName_nil
  | char c s hleading ih =>
    rw [renumberable_cons_of_none hleading] at h
    rw [numbered_cons_of_none hleading]
    exact (ih h).cons hleading
  | name run rest hrun ih =>
    obtain ⟨hvalue, hrest⟩ := (renumberable_name hrun).1 h
    rw [numbered_name hrun]
    exact .name not_hasName_nil hrun (replaces_rename hvalue) (ih hrest)

theorem Renumberable.numbered {s : Text} (h : Renumberable s) : Renumberable (numbered s) := by
  rw [renumberable_iff] at h ⊢
  intro run hrun
  rw [names_numbered] at hrun
  exact h run (List.mem_of_mem_filter hrun)

/-- Renumbering replaces the names of a text by the arguments after their numbers, and it leaves alone names that have no number of 64 bits and all that stands between names. A second renumbering changes nothing. The greatest number of 64 bits must not be a name. -/
theorem numbered_eq_iff_renumbered {s : Text} (h : Renumberable s) :
    (∀ t, numbered s = t ↔ Renumbered s t) ∧ Renumberable (numbered s) ∧ numbered (numbered s) = numbered s := by
  refine ⟨?_, h.numbered, numbered_numbered s⟩
  intro t
  constructor
  · rintro rfl
    exact renumbered_numbered h
  · intro ht
    exact ht.eq_numbered.symm

/-- Marks before other marks, zeros in front, digits of two scripts, and the numbers next to the one that must not be a name. -/
theorem numbered_eq_iff_renumbered_lookalikes :
    let s := "@p@p0 @@p1p2 @p007 @p1٣ @p18446744073709551614 @p18446744073709551616".toList
    let t := "@p?1 @?2p2 ?8 @p1٣ ?18446744073709551615 @p18446744073709551616".toList
    Renumberable s ∧ numbered s = t ∧ Renumbered s t ∧ Renumberable t ∧ numbered t = t := by
  intro s t
  have h : Renumberable s := by decide +kernel
  have hnumbered : numbered s = t := by decide +kernel
  obtain ⟨hiff, hrenumberable, hagain⟩ := numbered_eq_iff_renumbered h
  rw [hnumbered] at hrenumberable hagain
  exact ⟨h, hnumbered, (hiff t).1 hnumbered, hrenumberable, hagain⟩

end Roster.Sql
