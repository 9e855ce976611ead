import Roster.Proofs.Filter.Respelling
import Roster.Proofs.Filter.Word

/-!
# The shapes of words and symbols

Words and operator symbols share two characters, and their neighbours decide which of them takes one. An underscore in a word stands behind a letter or digit, and before another one or at the end; a `-` in a symbol stands between characters of symbols. A symbol goes on as long as it can (`shapes_of_scan`).
-/

namespace Roster.Filter

open Text

/-- The characters that no word has, blanks apart. -/
def wordEnders : List Char :=
  ['(', ')', '[', ']', '"', '\'', '=', '<', '>', '!', '&', '|', '@', '^', '~', '$', '#']

structure IsWordShaped (text : Text) : Prop where
  ne_nil : text ≠ []
  not_ender : ∀ c ∈ text, isBlank c = false ∧ c ∉ wordEnders
  underscore : ∀ before after, text = before ++ '_' :: after →
    (∃ c ∈ before.getLast?, isAlphanumeric c = true) ∧ ∀ c ∈ after.head?, isAlphanumeric c = true

structure IsSymbolShaped (symbol : Text) : Prop where
  ne_nil : symbol ≠ []
  chars : ∀ c ∈ symbol, isOperatorChar c = true ∨ c = '-'
  head_ne : '-' ∉ symbol.head?
  getLast_ne : '-' ∉ symbol.getLast?
  hyphen : ∀ before after, symbol = before ++ '-' :: after → startsWith isOperatorChar after = true

/-- A symbol does not go on with this text. -/
structure EndsSymbol (rest : Text) : Prop where
  not_operator : startsWith isOperatorChar rest = false
  not_hyphen : ∀ after, rest = '-' :: after → startsWith isOperatorChar after = false

/-! ### Words -/

theorem not_ender_of_isWordChar {c : Char} (h : isWordChar c = true) : isBlank c = false ∧ c ∉ wordEnders := by
  rcases isWordChar_iff.1 h with rfl | ⟨hblank, hquote, hbracket, hoperator⟩
  · decide
  · have henders : ∀ d ∈ wordEnders, (isQuote d || isBracket d || isOperatorChar d) = true :=
      List.all_eq_true.1 (by decide)
    refine ⟨hblank, fun hmem => ?_⟩
    simpa [hquote, hbracket, hoperator] using henders c hmem

theorem underscore_of_not_endsWord {last : Char} {s : Text} (h : endsWord last '_' s = false) :
    isAlphanumeric last = true ∧ continuesWord s = true := by
  have hclass : isBlank '_' = false ∧ isBracket '_' = false ∧ isQuote '_' = false ∧ isOperatorChar '_' = true := by decide
  simpa [endsWord, hclass] using h

/-- If a word may go on behind an underscore, it goes on with a letter or digit. -/
theorem isAlphanumeric_head?_wordTail {last : Char} {s : Text} (h : continuesWord s = true) :
    ∀ c ∈ (wordTail last s).1.head?, isAlphanumeric c = true := by
  cases s with
  | nil => simp [wordTail]
  | cons d s =>
    rw [wordTail]
    split
    · simp
    · rename_i hends
      have hclass : isBlank d = false ∧ isBracket d = false := by
        simp only [endsWord, Bool.or_eq_true, not_or, Bool.not_eq_true] at hends
        exact hends.1.1
      have hd : isAlphanumeric d = true := by simpa [continuesWord, hclass] using h
      simpa using hd

theorem underscore_of_wordTail {last : Char} {s before after : Text} (h : (wordTail last s).1 = before ++ '_' :: after) :
    (∃ c ∈ (last :: before).getLast?, isAlphanumeric c = true) ∧ ∀ c ∈ after.head?, isAlphanumeric c = true := by
  induction s generalizing last before with
  | nil => simp [wordTail] at h
  | cons d s ih =>
    rw [wordTail] at h
    split at h
    · simp at h
    · rename_i hends
      rw [Bool.not_eq_true] at hends
      cases before with
      | nil =>
        obtain ⟨rfl, rfl⟩ := List.cons.inj h
        obtain ⟨hlast, hnext⟩ := underscore_of_not_endsWord hends
        exact ⟨⟨last, rfl, hlast⟩, isAlphanumeric_head?_wordTail hnext⟩
      | cons b before =>
        obtain ⟨rfl, hrest⟩ := List.cons.inj h
        simpa using ih hrest

theorem isWordShaped_of_starts {offset : Nat} {c : Char} {s text rest : Text} (hblank : isBlank c = false)
    (h : Token.Starts offset c s (.word text) rest) : IsWordShaped text := by
  have hchars := isWordChar_of_starts hblank h
  cases h with
  | word hquote hbracket hoperator =>
    refine ⟨List.cons_ne_nil _ _, fun d hd => not_ender_of_isWordChar (hchars d hd), ?_⟩
    intro before after htext
    cases before with
    | nil =>
      obtain ⟨rfl, -⟩ := List.cons.inj htext
      cases hoperator
    | cons b before =>
      obtain ⟨rfl, htail⟩ := List.cons.inj htext
      exact underscore_of_wordTail htail

/-! ### Symbols -/

theorem chars_operatorTail (s : Text) : ∀ c ∈ (operatorTail s).1, isOperatorChar c = true ∨ c = '-' := by
  induction s with
  | nil => simp [operatorTail]
  | cons c s ih =>
    rw [operatorTail]
    split
    · rename_i hjoins
      have hc : isOperatorChar c = true ∨ c = '-' := by
        rw [Bool.or_eq_true, Bool.and_eq_true, beq_iff_eq] at hjoins
        exact hjoins.imp_right And.left
      exact List.forall_mem_cons.2 ⟨hc, ih⟩
    · simp

theorem endsSymbol_operatorTail (s : Text) : EndsSymbol (operatorTail s).2 := by
  induction s with
  | nil => exact ⟨rfl, by simp [operatorTail]⟩
  | cons c s ih =>
    rw [operatorTail]
    split
    · exact ih
    · rename_i hends
      rw [Bool.or_eq_true, not_or, Bool.not_eq_true] at hends
      refine ⟨hends.1, ?_⟩
      rintro after hrest
      obtain ⟨rfl, rfl⟩ := List.cons.inj hrest
      simpa using hends.2

theorem hyphen_of_operatorTail {s before after : Text} (h : (operatorTail s).1 = before ++ '-' :: after) :
    startsWith isOperatorChar after = true := by
  induction s generalizing before with
  | nil => simp [operatorTail] at h
  | cons c s ih =>
    rw [operatorTail] at h
    split at h
    · rename_i hjoins
      cases before with
      | nil =>
        obtain ⟨rfl, rfl⟩ := List.cons.inj h
        have hnext : startsWith isOperatorChar s = true := by simpa [show isOperatorChar '-' = false from rfl] using hjoins
        exact startsWith_operatorTail hnext
      | cons b before =>
        obtain ⟨-, hrest⟩ := List.cons.inj h
        exact ih hrest
    · simp at h

theorem isSymbolShaped_cons {c : Char} (hc : isOperatorChar c = true) (s : Text) :
    IsSymbolShaped (c :: (operatorTail s).1) := by
  have hne : c ≠ '-' := by
    rintro rfl
    cases hc
  have hhyphen : ∀ before after, c :: (operatorTail s).1 = before ++ '-' :: after →
      startsWith isOperatorChar after = true := by
    intro before after hsymbol
    cases before with
    | nil => exact absurd (List.cons.inj hsymbol).1 hne
    | cons b before => exact hyphen_of_operatorTail (List.cons.inj hsymbol).2
  refine ⟨List.cons_ne_nil _ _, List.forall_mem_cons.2 ⟨.inl hc, chars_operatorTail s⟩, by simpa using hne, ?_, hhyphen⟩
  -- A `-` at the end would have nothing after it.
  intro hlast
  obtain ⟨before, hsymbol⟩ := List.getLast?_eq_some_iff.1 hlast
  cases hhyphen before [] hsymbol

/-- Words have no blanks, no quotes, no brackets and no characters of symbols but underscores inside and at the end. Symbols are made of their own characters and of `-` between these, and they go on as long as they can. -/
theorem shapes_of_scan {input : Text} {tokens : List Located} (h : scan input = .ok tokens) :
    ∀ t ∈ tokens,
      (∀ text, t.token = .word text → IsWordShaped text) ∧
        ∀ symbol, t.token = .operator symbol →
          IsSymbolShaped symbol ∧
            ∃ before rest, input = before ++ symbol ++ rest ∧ byteSize before = t.offset ∧ EndsSymbol rest := by
  intro t ht
  obtain ⟨before, c, after, rest, hinput, hoffset, hblank, hstarts⟩ := exists_starts_of_scanFrom h t ht
  constructor
  · intro text htoken
    rw [htoken] at hstarts
    exact isWordShaped_of_starts hblank hstarts
  · intro symbol htoken
    rw [htoken] at hstarts
    cases hstarts with
    | operator _ _ hoperator =>
      refine ⟨isSymbolShaped_cons hoperator after, before, (operatorTail after).2, ?_, by simp [hoffset],
        endsSymbol_operatorTail after⟩
      rw [hinput, List.append_assoc, List.cons_append, operatorTail_append]

/-- Underscores in a word, at its end and in symbols, and a `-` in a symbol and at the front of a number behind it. -/
theorem shapes_of_scan_shared :
    let input := " last_login_ !_-=-5 && Größe__=x".toList
    ∃ tokens, scan input = .ok tokens ∧
      tokens.map Located.token =
        [.word "last_login_".toList, .operator "!_-=".toList, .word "-5".toList, .operator "&&".toList,
          .word "Größe".toList, .operator "__=".toList, .word "x".toList] ∧
      IsWordShaped "last_login_".toList ∧ IsSymbolShaped "!_-=".toList ∧
      ∃ before rest, input = before ++ "!_-=".toList ++ rest ∧ byteSize before = 13 ∧ EndsSymbol rest := by
  intro input
  let tokens : List Located :=
    [⟨.word "last_login_".toList, 1⟩, ⟨.operator "!_-=".toList, 13⟩, ⟨.word "-5".toList, 17⟩,
      ⟨.operator "&&".toList, 20⟩, ⟨.word "Größe".toList, 23⟩, ⟨.operator "__=".toList, 30⟩, ⟨.word "x".toList, 33⟩]
  have h : scan input = .ok tokens := by decide +kernel
  obtain ⟨hword, -⟩ := shapes_of_scan h ⟨.word "last_login_".toList, 1⟩ (by decide)
  obtain ⟨-, hsymbol⟩ := shapes_of_scan h ⟨.operator "!_-=".toList, 13⟩ (by decide)
  obtain ⟨hshaped, hplace⟩ := hsymbol _ rfl
  exact ⟨tokens, h, rfl, hword _ rfl, hshaped, hplace⟩

end Roster.Filter
