import Roster.Proofs.Filter.Condition

/-!
# Collations of conditions

The collation is written after every LIKE and nowhere else. A condition is read only if the collation is a name, so without LIKE it is read whatever the collation is (`Chain.namesCollations_render`).
-/

namespace Roster.Filter

open Text Sql

/-- The rule is written with the collation. -/
def Rule.isLike : Rule → Bool
  | .like _ _ => true
  | _ => false

/-- A word that does not announce a collation. -/
structure IsOrdinary (s : Text) : Prop where
  isWord : IsWord s
  ne_collate : s ≠ "COLLATE".toList

instance (s : Text) : Decidable (IsOrdinary s) :=
  decidable_of_iff (IsWord s ∧ s ≠ "COLLATE".toList) ⟨fun h => ⟨h.1, h.2⟩, fun h => ⟨h.isWord, h.ne_collate⟩⟩

theorem isOrdinary_of_filterable {column : Text} (h : column ∈ filterable) : IsOrdinary column := by
  have hall : ∀ s ∈ filterable, IsOrdinary s := by decide
  exact hall column h

theorem isOrdinary_argument (n : Nat) : IsOrdinary (argument n) := ⟨isWord_argument n, by simp [argument]⟩

theorem isOrdinary_keyword (r : Relation) : IsOrdinary r.keyword := by
  cases r <;> decide

theorem isOrdinary_connective (k : Connective) : IsOrdinary k.keyword := by
  cases k <;> decide

theorem IsOrdinary.ne {s : Text} (h : IsOrdinary s) : Lexeme.word "COLLATE".toList ≠ .word s := by
  intro he
  exact h.ne_collate (Lexeme.word.inj he).symm

/-! ### Comparisons -/

theorem collate_not_mem_notLexemes (negated : Bool) : Lexeme.word "COLLATE".toList ∉ notLexemes negated := by
  cases negated <;> decide

theorem collate_not_mem_itemLexemes {first : Text} {rest : List Text} (hfirst : IsOrdinary first)
    (hrest : ∀ s ∈ rest, IsOrdinary s) : Lexeme.word "COLLATE".toList ∉ itemLexemes first rest := by
  induction rest generalizing first with
  | nil =>
    simp only [itemLexemes, List.mem_cons, reduceCtorEq, List.not_mem_nil, or_false]
    exact hfirst.ne
  | cons next rest ih =>
    rw [List.forall_mem_cons] at hrest
    simp only [itemLexemes, List.mem_cons, reduceCtorEq, false_or, not_or]
    exact ⟨hfirst.ne, ih hrest.1 hrest.2⟩

section

variable {rule : Rule} {column first : Text} {rest : List Text} (hcolumn : IsOrdinary column)
  (hfirst : IsOrdinary first) (hrest : ∀ s ∈ rest, IsOrdinary s) (collation : Text)

include hcolumn hfirst hrest

theorem Rule.collate_not_mem_lexemes (hlike : rule.isLike = false) :
    Lexeme.word "COLLATE".toList ∉ rule.lexemes column first rest collation := by
  have hsoundex : IsOrdinary "SOUNDEX".toList := by decide
  have hin : IsOrdinary "IN".toList := by decide
  cases rule with
  | relation r =>
    simp only [Rule.lexemes, List.mem_cons, List.not_mem_nil, or_false, not_or]
    exact ⟨hcolumn.ne, (isOrdinary_keyword r).ne, hfirst.ne⟩
  | like negated place => cases hlike
  | phonetic negated =>
    simp only [Rule.lexemes, List.mem_cons, List.not_mem_nil, or_false, not_or]
    exact ⟨hsoundex.ne, nofun, hcolumn.ne, nofun, (isOrdinary_keyword _).ne, hsoundex.ne, nofun, hfirst.ne, nofun⟩
  | member negated =>
    simp only [Rule.lexemes, List.cons_append, List.mem_cons, List.mem_append, not_or]
    exact ⟨hcolumn.ne, collate_not_mem_notLexemes negated, hin.ne, nofun, collate_not_mem_itemLexemes hfirst hrest⟩
  | connective k =>
    rw [Rule.lexemes, List.mem_singleton]
    exact (isOrdinary_connective k).ne

/-- A comparison names the collation, if it is written with one. -/
theorem Rule.namesCollations_lexemes (hname : rule.isLike = true → isIdentifier collation = true) :
    NamesCollations (rule.lexemes column first rest collation) := by
  cases hlike : rule.isLike with
  | false => exact namesCollations_of_not_mem (Rule.collate_not_mem_lexemes hcolumn hfirst hrest collation hlike)
  | true =>
    cases rule with
    | like negated place =>
      have hname := hname rfl
      have hcollation : collation ≠ "COLLATE".toList := by
        rintro rfl
        exact absurd hname (by decide)
      have hlast : NamesCollations [.word "COLLATE".toList, .word collation] :=
        namesCollations_cons.2 ⟨fun _ => nameFault?_eq_none.2 ⟨collation, [], rfl, hname⟩,
          namesCollations_of_not_mem (by simpa using hcollation.symm)⟩
      have hbefore : Lexeme.word "COLLATE".toList ∉
          .word column :: notLexemes negated ++ [.word "LIKE".toList, .word first] := by
        have hword : IsOrdinary "LIKE".toList := by decide
        simp only [List.cons_append, List.mem_cons, List.mem_append, List.not_mem_nil, or_false, not_or]
        exact ⟨hcolumn.ne, collate_not_mem_notLexemes negated, hword.ne, hfirst.ne⟩
      have happend := (namesCollations_of_not_mem hbefore).append hlast
      rw [List.append_assoc] at happend
      exact happend
    | _ => cases hlike

end

theorem Rule.collate_mem_lexemes {rule : Rule} (hlike : rule.isLike = true) (column first : Text) (rest : List Text)
    (collation : Text) : Lexeme.word "COLLATE".toList ∈ rule.lexemes column first rest collation := by
  cases rule with
  | like negated place =>
    simp only [Rule.lexemes, List.mem_append, List.mem_cons]
    exact .inr (.inr (.inr (.inl trivial)))
  | _ => cases hlike

/-! ### Trees -/

variable {name : Nat → Text} {collation : Text}

theorem Comparison.lexemes_render {c : Comparison} (hplaceholder : ∀ k, IsOrdinary (name k))
    (hcollation : IsWord collation) (hcolumn : IsOrdinary c.column) (n : Nat) :
    ∃ first rest, IsOrdinary first ∧ (∀ s ∈ rest, IsOrdinary s) ∧
      lexemes (c.render name collation n) = c.operator.rule.lexemes c.column first rest collation := by
  obtain ⟨k, ks, hks⟩ := List.exists_cons_of_ne_nil
    (show List.range' n c.bound.length ≠ [] by simpa using c.bound_ne_nil)
  have hrest : ∀ s ∈ ks.map name, IsOrdinary s := by
    intro s hs
    obtain ⟨j, -, rfl⟩ := List.mem_map.1 hs
    exact hplaceholder j
  refine ⟨name k, ks.map name, hplaceholder k, hrest, ?_⟩
  rw [Comparison.render, hks, List.map_cons]
  exact Rule.lexemes_render c.operator.connective?_eq_none hcolumn.isWord hcollation (hplaceholder k).isWord
    fun s hs => (hrest s hs).isWord

mutual

/-- A condition names its collation, if it is written with one. -/
theorem Chain.namesCollations_render (hplaceholder : ∀ k, IsOrdinary (name k)) (hcollation : IsWord collation)
    (e : Chain) (hcolumns : ∀ c ∈ e.comparisons, IsOrdinary c.column)
    (hname : ∀ c ∈ e.comparisons, c.operator.rule.isLike = true → isIdentifier collation = true) (n : Nat) :
    NamesCollations (lexemes (e.render name collation n)) := by
  match e with
  | .single x => exact x.namesCollations_render hplaceholder hcollation hcolumns hname n
  | .join left connective right =>
    rw [Chain.forall_comparisons_join] at hcolumns hname
    have hleft := left.namesCollations_render hplaceholder hcollation hcolumns.1 hname.1 n
    have hright := right.namesCollations_render hplaceholder hcollation hcolumns.2 hname.2
      (n + (boundLiterals left.comparisons).length)
    rw [Chain.render, lexemes_writeLeft]
    refine .append ?_ (namesCollations_cons.2 ⟨fun h => absurd h.symm (isOrdinary_connective connective).ne, hright⟩)
    split
    · exact .append (namesCollations_cons.2 ⟨fun h => absurd h nofun, hleft⟩) (namesCollations_of_not_mem (by simp))
    · exact hleft

theorem Operand.namesCollations_render (hplaceholder : ∀ k, IsOrdinary (name k)) (hcollation : IsWord collation)
    (x : Operand) (hcolumns : ∀ c ∈ x.comparisons, IsOrdinary c.column)
    (hname : ∀ c ∈ x.comparisons, c.operator.rule.isLike = true → isIdentifier collation = true) (n : Nat) :
    NamesCollations (lexemes (x.render name collation n)) := by
  match x with
  | .test c =>
    rw [Operand.forall_comparisons_test] at hcolumns hname
    obtain ⟨first, rest, hfirst, hrest, hlexemes⟩ := c.lexemes_render hplaceholder hcollation hcolumns n
    rw [Operand.render, hlexemes]
    exact Rule.namesCollations_lexemes hcolumns hfirst hrest collation hname
  | .group inner =>
    have hinner := inner.namesCollations_render hplaceholder hcollation hcolumns hname n
    rw [Operand.render, List.cons_append, lexemes_leftParen, lexemes_append rfl, lexemes_rightParen, lexemes_nil]
    exact namesCollations_cons.2 ⟨fun h => absurd h nofun, hinner.append (namesCollations_of_not_mem (by simp))⟩

end

mutual

/-- With a LIKE the collation is written. -/
theorem Chain.collate_mem_render (hplaceholder : ∀ k, IsOrdinary (name k)) (hcollation : IsWord collation) (e : Chain)
    (hcolumns : ∀ c ∈ e.comparisons, IsOrdinary c.column) {c : Comparison} (hc : c ∈ e.comparisons)
    (hlike : c.operator.rule.isLike = true) (n : Nat) :
    Lexeme.word "COLLATE".toList ∈ lexemes (e.render name collation n) := by
  match e with
  | .single x => exact x.collate_mem_render hplaceholder hcollation hcolumns hc hlike n
  | .join left connective right =>
    rw [Chain.forall_comparisons_join] at hcolumns
    rw [Chain.render, lexemes_writeLeft, List.mem_append, List.mem_cons]
    rcases List.mem_append.1 hc with hc | hc
    · have hleft := left.collate_mem_render hplaceholder hcollation hcolumns.1 hc hlike n
      refine .inl ?_
      split
      · exact List.mem_append_left _ (List.mem_cons_of_mem _ hleft)
      · exact hleft
    · exact .inr (.inr (right.collate_mem_render hplaceholder hcollation hcolumns.2 hc hlike _))

theorem Operand.collate_mem_render (hplaceholder : ∀ k, IsOrdinary (name k)) (hcollation : IsWord collation)
    (x : Operand) (hcolumns : ∀ c ∈ x.comparisons, IsOrdinary c.column) {c : Comparison} (hc : c ∈ x.comparisons)
    (hlike : c.operator.rule.isLike = true) (n : Nat) :
    Lexeme.word "COLLATE".toList ∈ lexemes (x.render name collation n) := by
  match x with
  | .test d =>
    obtain rfl := List.mem_singleton.1 hc
    rw [Operand.forall_comparisons_test] at hcolumns
    obtain ⟨first, rest, -, -, hlexemes⟩ := c.lexemes_render hplaceholder hcollation hcolumns n
    rw [Operand.render, hlexemes]
    exact Rule.collate_mem_lexemes hlike _ _ _ _
  | .group inner =>
    have hinner := inner.collate_mem_render hplaceholder hcollation hcolumns hc hlike n
    rw [Operand.render, List.cons_append, lexemes_leftParen, lexemes_append rfl, lexemes_rightParen, lexemes_nil]
    exact List.mem_cons_of_mem _ (List.mem_append_left _ hinner)

end

end Roster.Filter
