import Roster.Proofs.Filter.Placeholders

/-!
# Renumbering a condition

The condition of a tree is renumbered by naming its placeholders otherwise and leaving the rest as it is (`Chain.renumbers_render`): no column has an `@` in it, and no digit follows a placeholder.
-/

namespace Roster.Filter

open Text Sql

/-- What stands for the placeholder with the index `n` after renumbering. -/
def renamed (n : Nat) : Text := rename (ofNat n)

/-- The name of the placeholder with the index `n` in a query. -/
def numberedPlaceholder (n : Nat) : Text := argument (n + 1)

theorem renamed_eq {n : Nat} (h : n < UInt64.size) : renamed n = numberedPlaceholder n := rename_ofNat h

theorem numbered_matchAll : numbered matchAll = matchAll := by
  have hmatchAll : '@' ∉ matchAll := by decide
  simpa using numbered_append hmatchAll []

theorem renumbers_flatMap_text {ps : List Piece} (hfits : ps.IsChain Piece.Fits) (hfree : FreeOf '@' ps) :
    Renumbers (ps.flatMap (Piece.text placeholder)) (ps.flatMap (Piece.text renamed)) := by
  induction ps with
  | nil =>
    intro t _
    rfl
  | cons p ps ih =>
    have hrest := ih hfits.of_cons hfree.of_cons
    rw [List.flatMap_cons, List.flatMap_cons]
    cases hp : p.index? with
    | none =>
      rw [Piece.text_of_index? hp renamed placeholder]
      exact .text_append (hfree p (by simp) hp) hrest
    | some n =>
      -- The name is not cut short or carried on: the next piece, or `t`, starts with no digit.
      obtain rfl := Piece.index?_eq_some.1 hp
      intro t ht
      have hname := renumbers_name (ofNat_ne_nil n) (isDigit_ofNat n) (ps.flatMap (Piece.text placeholder) ++ t)
        (isDigit_after_placeholder hfits ht)
      rw [hrest t ht] at hname
      rw [List.append_assoc, List.append_assoc]
      exact hname

/-- Pieces have the same text under two names of placeholders that agree on theirs. -/
theorem flatMap_text_congr {name name' : Nat → Text} {ps : List Piece}
    (h : ∀ n ∈ ps.filterMap Piece.index?, name n = name' n) :
    ps.flatMap (Piece.text name) = ps.flatMap (Piece.text name') := by
  apply List.flatMap_congr
  intro p hp
  cases hindex : p.index? with
  | none => exact Piece.text_of_index? hindex name name'
  | some n =>
    obtain rfl := Piece.index?_eq_some.1 hindex
    exact h n (List.mem_filterMap.2 ⟨_, hp, rfl⟩)

/-- Pieces whose placeholders have numbers of 64 bits are renumbered to the numbers that a query has for them. -/
theorem renumbers_numbered {ps : List Piece} (hfits : ps.IsChain Piece.Fits) (hfree : FreeOf '@' ps)
    (hsize : ∀ n ∈ ps.filterMap Piece.index?, n < UInt64.size) :
    Renumbers (ps.flatMap (Piece.text placeholder)) (ps.flatMap (Piece.text numberedPlaceholder)) := by
  rw [← flatMap_text_congr fun n hn => renamed_eq (hsize n hn)]
  exact renumbers_flatMap_text hfits hfree

section

variable {collation : Text} (hcollation : '@' ∉ collation)

include hcollation

/-- A comparison that is written by itself is renumbered, whatever the values are that are bound to it. -/
theorem Rule.renumbers_render {rule : Rule} (hrule : rule.connective? = none) {column : Text} (hcolumn : '@' ∉ column)
    {n : Nat} (hn : n ≠ 0) (hone : rule.takesList = false → n = 1) (hsize : n ≤ UInt64.size) :
    Renumbers (rule.render column ((List.range' 0 n).map placeholder) collation)
      (rule.render column ((List.range' 0 n).map numberedPlaceholder) collation) := by
  have hne : List.range' 0 n ≠ [] := by simpa using hn
  have hlength (h : rule.takesList = false) : (List.range' 0 n).length = 1 := by rw [List.length_range', hone h]
  have hfree : FreeOf '@' (rule.pieces column (List.range' 0 n) collation) := by
    refine .of_names (by decide) ?_ ?_
    · intro s hs
      have hmem : s ∈ (rule.pieces column (List.range' 0 n) collation).filterMap Piece.column? :=
        List.mem_filterMap.2 ⟨_, hs, rfl⟩
      rw [Rule.filterMap_column?_pieces hrule, List.mem_singleton] at hmem
      rw [hmem]
      exact hcolumn
    · intro s hs
      rw [Rule.collation_of_mem_pieces hs]
      exact hcollation
  rw [← Rule.flatMap_text_pieces placeholder hrule column hne, ← Rule.flatMap_text_pieces _ hrule column hne]
  refine renumbers_numbered (Rule.tidy_pieces hrule column hne collation).fits hfree ?_
  intro k hk
  rw [Rule.filterMap_index?_pieces hrule column hlength, List.mem_range'_1] at hk
  omega

variable (e : Chain) (hcolumns : ∀ c ∈ e.comparisons, '@' ∉ c.column)

include hcolumns

theorem Chain.renumbers_render_renamed (n : Nat) :
    Renumbers (e.render placeholder collation n) (e.render renamed collation n) := by
  have hfree := Chain.freeOf_pieces (by decide) hcollation hcolumns n
  rw [← e.flatMap_text_pieces, ← e.flatMap_text_pieces]
  exact renumbers_flatMap_text (e.tidy_pieces collation n).fits hfree

theorem Chain.renumbers_render {n : Nat} (hsize : n + (boundLiterals e.comparisons).length ≤ UInt64.size) :
    Renumbers (e.render placeholder collation n) (e.render numberedPlaceholder collation n) := by
  rw [← e.flatMap_text_pieces, ← e.flatMap_text_pieces]
  refine renumbers_numbered (e.tidy_pieces collation n).fits (Chain.freeOf_pieces (by decide) hcollation hcolumns n) ?_
  intro k hk
  rw [e.filterMap_index?_pieces, List.mem_range'_1] at hk
  omega

end

end Roster.Filter
