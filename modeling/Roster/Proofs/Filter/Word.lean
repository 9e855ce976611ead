import Roster.Proofs.Filter.Scan
import Roster.Proofs.Filter.Source

/-!
# The characters of words

A word of a filter goes on up to a blank, a quote, a bracket or an operator, and of the characters of operators it can only have underscores in it. The names of columns are words of the filter. So no text that is typed for a column can pass for a placeholder (`Spells.forall_isWordChar`).
-/

namespace Roster.Filter

open Text

def isWordChar (c : Char) : Bool := c == '_' || !(isBlank c || isQuote c || isBracket c || isOperatorChar c)

theorem isWordChar_iff {c : Char} :
    isWordChar c = true ↔
      c = '_' ∨ isBlank c = false ∧ isQuote c = false ∧ isBracket c = false ∧ isOperatorChar c = false := by
  simp [isWordChar, and_assoc]

theorem isWordChar_of_not_endsWord {last c : Char} {s : Text} (h : endsWord last c s = false) : isWordChar c = true := by
  simp only [endsWord, Bool.or_eq_false_iff, Bool.and_eq_false_iff, Bool.not_eq_false', Bool.and_eq_true] at h
  obtain ⟨⟨⟨hblank, hbracket⟩, hquote⟩, hoperator | ⟨⟨hunderscore, -⟩, -⟩⟩ := h
  · simp [isWordChar, hblank, hbracket, hquote, hoperator]
  · simp [isWordChar, hunderscore]

theorem isWordChar_of_mem_wordTail {last : Char} {s : Text} : ∀ c ∈ (wordTail last s).1, isWordChar c = true := by
  induction s generalizing last with
  | nil => simp [wordTail]
  | cons d s ih =>
    rw [wordTail]
    split
    · simp
    · rename_i hends
      intro c hc
      rcases List.mem_cons.1 hc with rfl | hc
      · exact isWordChar_of_not_endsWord (by simpa using hends)
      · exact ih c hc

theorem isWordChar_of_starts {offset : Nat} {c : Char} {s rest text : Text} (hblank : isBlank c = false)
    (h : Token.Starts offset c s (.word text) rest) : ∀ d ∈ text, isWordChar d = true := by
  cases h with
  | word hquote hbracket hoperator =>
    have hc : isWordChar c = true := by simp [isWordChar, hblank, hquote, hbracket, hoperator]
    exact List.forall_mem_cons.2 ⟨hc, isWordChar_of_mem_wordTail⟩

theorem isWordChar_of_scanFrom {here : Nat} {s : Text} {tokens : List Located} (h : scanFrom here s = .ok tokens)
    {text : Text} (htext : Token.word text ∈ tokens.map Located.token) : ∀ c ∈ text, isWordChar c = true := by
  obtain ⟨t, ht, hword⟩ := List.mem_map.1 htext
  obtain ⟨-, c, after, rest, -, -, hblank, hstarts⟩ := exists_starts_of_scanFrom h t ht
  rw [hword] at hstarts
  exact isWordChar_of_starts hblank hstarts

mutual

theorem Chain.tokens_subset (e : Chain) : ∀ c ∈ e.comparisons, c.tokens ⊆ e.tokens := by
  match e with
  | .single x => exact x.tokens_subset
  | .join left connective right =>
    rw [Chain.forall_comparisons_join]
    constructor
    · intro c hc
      exact List.subset_append_of_subset_left _ (left.tokens_subset c hc)
    · intro c hc
      exact List.subset_append_of_subset_right _ (List.subset_cons_of_subset _ (right.tokens_subset c hc))

theorem Operand.tokens_subset (x : Operand) : ∀ c ∈ x.comparisons, c.tokens ⊆ x.tokens := by
  match x with
  | .test c => exact Operand.forall_comparisons_test.2 (List.Subset.refl _)
  | .group inner =>
    intro c hc
    exact List.subset_append_of_subset_left _ (List.subset_cons_of_subset _ (inner.tokens_subset c hc))

end

theorem Spells.forall_isWordChar {input : Text} {e : Chain} (h : Spells input (some e)) :
    ∀ x ∈ e.comparisons, ∀ c ∈ x.column, isWordChar c = true := by
  cases h with
  | chain hscan htokens =>
    intro x hx
    have hmem : Token.word x.column ∈ e.tokens := e.tokens_subset x hx (by simp [Comparison.tokens])
    rw [htokens] at hmem
    exact isWordChar_of_scanFrom hscan hmem

/-- No column of a filter has an `@` in it. -/
theorem Spells.not_mem_column {input : Text} {e : Chain} (h : Spells input (some e)) :
    ∀ x ∈ e.comparisons, '@' ∉ x.column := by
  intro x hx hmem
  exact absurd (h.forall_isWordChar x hx _ hmem) (by decide)

end Roster.Filter
