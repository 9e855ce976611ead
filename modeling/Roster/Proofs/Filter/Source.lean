import Roster.Proofs.Filter.Compilation

/-!
# What a filter text says

A filter text spells a tree, or it is blank and spells none. A text is compiled exactly if it is short enough and spells something, and nothing but what it spells decides about the compiled filter (`compile_eq_ok_iff`).
-/

namespace Roster

open Text

namespace Filter

theorem scanFrom_blank {here : Nat} {s : Text} (h : ∀ c ∈ s, isBlank c = true) : scanFrom here s = .ok [] := by
  induction s generalizing here with
  | nil => rw [scanFrom]
  | cons c s ih =>
    rw [scanFrom, if_pos (h c (by simp))]
    exact ih fun d hd => h d (by simp [hd])

mutual

theorem Chain.tokens_ne_nil (e : Chain) : e.tokens ≠ [] := by
  match e with
  | .single x => exact x.tokens_ne_nil
  | .join left _ _ => simp [Chain.tokens]

theorem Operand.tokens_ne_nil (x : Operand) : x.tokens ≠ [] := by
  match x with
  | .test c => simp [Operand.tokens, Comparison.tokens]
  | .group inner => simp [Operand.tokens]

end

/-- What a filter text says: nothing, or a chain of conditions. -/
inductive Spells (input : Text) : Option Chain → Prop
  | blank (h : ∀ c ∈ input, isBlank c = true) : Spells input none
  | chain {e : Chain} {tokens : List Located} (hscan : scan input = .ok tokens)
    (htokens : e.tokens = tokens.map Located.token) : Spells input (some e)

theorem not_blank_of_scan {input : Text} {e : Chain} {tokens : List Located} (hscan : scan input = .ok tokens)
    (htokens : e.tokens = tokens.map Located.token) : ¬ ∀ c ∈ input, isBlank c = true := by
  intro hblank
  rw [scan, scanFrom_blank hblank] at hscan
  cases hscan
  exact e.tokens_ne_nil htokens

theorem Spells.unique {input : Text} {source source' : Option Chain} (h : Spells input source)
    (h' : Spells input source') : source = source' := by
  cases h with
  | blank hblank =>
    cases h' with
    | blank => rfl
    | chain hscan htokens => exact absurd hblank (not_blank_of_scan hscan htokens)
  | chain hscan htokens =>
    cases h' with
    | blank hblank => exact absurd hblank (not_blank_of_scan hscan htokens)
    | chain hscan' htokens' =>
      rw [hscan] at hscan'
      cases hscan'
      exact congrArg some (Chain.eq_of_tokens (htokens.trans htokens'.symm))

/-- The compiled filter of what a text says. -/
def compiledSource (collation : Text) : Option Chain → Compiled
  | none => .all
  | some e => e.compiled collation

theorem compile_eq_ok_iff {options : Options} {input : Text} {c : Compiled} :
    compile options input = .ok c ↔
      byteSize input ≤ options.maxLength ∧
        ∃ source, Spells input source ∧ c = compiledSource options.collation source := by
  unfold compile
  split
  · simp only [reduceCtorEq, false_iff]
    omega
  · rename_i hlength
    rw [and_iff_right (Nat.le_of_not_lt hlength)]
    split
    · rename_i htrim
      have hblank := trim_eq_nil.1 (List.isEmpty_iff.1 htrim)
      constructor
      · intro h
        cases h
        exact ⟨none, .blank hblank, rfl⟩
      · rintro ⟨source, hsource, rfl⟩
        rw [hsource.unique (.blank hblank)]
        rfl
    · rename_i htrim
      cases hscan : scan input with
      | error e =>
        simp only [reduceCtorEq, false_iff]
        rintro ⟨source, hsource, -⟩
        cases hsource with
        | blank hblank => exact htrim (List.isEmpty_iff.2 (trim_eq_nil.2 hblank))
        | chain hscan' _ => simp [hscan] at hscan'
      | ok tokens =>
        simp only [except_mapError_eq_ok, compileTokens_eq_ok_iff]
        constructor
        · rintro ⟨e, htokens, rfl⟩
          exact ⟨some e, .chain hscan htokens, rfl⟩
        · rintro ⟨source, hsource, rfl⟩
          cases hsource with
          | blank hblank => exact absurd (List.isEmpty_iff.2 (trim_eq_nil.2 hblank)) htrim
          | chain hscan' htokens =>
            cases hscan.symm.trans hscan'
            exact ⟨_, htokens, rfl⟩

end Filter

end Roster
