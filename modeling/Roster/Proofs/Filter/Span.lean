import Mathlib.Data.List.Basic
import Roster.Proofs.Filter.Scan

/-!
# Where tokens stand

Scanning leaves nothing out but blanks. Every token has a span of bytes in the filter text, the spans do not overlap, and the text of a span is a spelling of its token (`spans_of_scan`). The argument goes by layouts: from its front to its end a text is made of blanks and of spellings, each at the offset of its token.
-/

namespace Roster

open Text

namespace Text

/-- The text between two byte offsets, if both are offsets of characters or of the end. -/
def slice? (start stop : Nat) (s : Text) : Option Text :=
  (splitAtByte? start s).bind fun parts => (splitAtByte? (stop - start) parts.2).map Prod.fst

theorem slice?_append (before inner after : Text) :
    slice? (byteSize before) (byteSize before + byteSize inner) (before ++ (inner ++ after)) = some inner := by
  simp [slice?]

end Text

namespace Filter

theorem Token.IsSpelling.extent_pos {token : Token} {spelling : Text} (h : token.IsSpelling spelling)
    (hne : spelling ≠ []) : 0 < token.extent := by
  have hpos := List.length_pos_iff.2 hne
  have hlength := length_le_byteSize spelling
  have hsize := h.byteSize
  omega

/-- The offset at which a token ends. -/
def Located.stop (t : Located) : Nat := t.offset + t.token.extent

/-- A text that starts at the offset `here` is made of the tokens, where they stand, and of blanks. -/
inductive Laid : Nat → Text → List Located → Prop
  | nil {here} : Laid here [] []
  | blank {here c s tokens} (hblank : isBlank c = true) (rest : Laid (here + c.utf8Size) s tokens) :
    Laid here (c :: s) tokens
  | token {here token spelling s tokens} (hspelling : token.IsSpelling spelling) (hne : spelling ≠ [])
    (rest : Laid (here + token.extent) s tokens) : Laid here (spelling ++ s) (⟨token, here⟩ :: tokens)

theorem laid_of_scanFrom {here : Nat} {s : Text} {tokens : List Located} (h : scanFrom here s = .ok tokens) :
    Laid here s tokens := by
  fun_induction scanFrom here s generalizing tokens with
  | case1 =>
    cases h
    exact .nil
  | case2 here c s hblank ih => exact .blank hblank (ih h)
  | case3 => cases h
  | case4 here c s _ token rest hfirst _ ih =>
    obtain ⟨ts, hts, rfl⟩ := except_map_eq_ok.1 h
    obtain ⟨spelling, hspelling, htext⟩ := Token.exists_spelling_of_first hfirst
    have hne : spelling ≠ [] := by
      rintro rfl
      have hlength := Token.length_of_first hfirst
      rw [List.nil_append] at htext
      rw [← htext, List.length_cons] at hlength
      omega
    rw [htext]
    exact .token hspelling hne (ih hts)

namespace Laid

variable {here : Nat} {s : Text} {tokens : List Located}

theorem le_offset (h : Laid here s tokens) : ∀ t ∈ tokens, here ≤ t.offset := by
  induction h with
  | nil => simp
  | blank _ _ ih =>
    intro t ht
    have := ih t ht
    omega
  | token _ _ _ ih =>
    intro t ht
    rcases List.mem_cons.1 ht with rfl | ht
    · exact Nat.le_refl _
    · have := ih t ht
      omega

theorem pairwise (h : Laid here s tokens) : tokens.Pairwise fun t u => t.offset < u.offset ∧ t.stop ≤ u.offset := by
  induction h with
  | nil => exact .nil
  | blank _ _ ih => exact ih
  | @token here token spelling s tokens hspelling hne rest ih =>
    have hpos := hspelling.extent_pos hne
    refine .cons ?_ ih
    intro u hu
    have hoffset := rest.le_offset u hu
    simp only [Located.stop]
    omega

/-- Each token is spelled by the text of its span, whatever stands before the layout. -/
theorem exists_slice (h : Laid here s tokens) {before : Text} (hbefore : byteSize before = here) :
    ∀ t ∈ tokens, ∃ spelling, t.token.IsSpelling spelling ∧ spelling ≠ [] ∧
      slice? t.offset t.stop (before ++ s) = some spelling := by
  induction h generalizing before with
  | nil => simp
  | @blank here c s _ _ _ ih =>
    have hnext : byteSize (before ++ [c]) = here + c.utf8Size := by simp [hbefore]
    simpa using ih hnext
  | @token here token spelling s _ hspelling hne _ ih =>
    have hnext : byteSize (before ++ spelling) = here + token.extent := by
      rw [byteSize_append, hbefore, hspelling.byteSize]
    intro t ht
    rcases List.mem_cons.1 ht with rfl | ht
    · refine ⟨spelling, hspelling, hne, ?_⟩
      have hslice := slice?_append before spelling s
      rwa [hbefore, hspelling.byteSize] at hslice
    · rw [← List.append_assoc]
      exact ih hnext t ht

theorem isBlank_of_nil (h : Laid here s []) : ∀ c ∈ s, isBlank c = true := by
  generalize htokens : [] = tokens at h
  induction h with
  | nil => simp
  | blank hblank _ ih =>
    intro c hc
    rcases List.mem_cons.1 hc with rfl | hc
    · exact hblank
    · exact ih htokens c hc
  | token => cases htokens

/-- A character is blank or lies in the span of a token. -/
theorem blank_or_mem_span (h : Laid here s tokens) {before after : Text} {c : Char} (hs : s = before ++ c :: after) :
    isBlank c = true ∨
      ∃ t ∈ tokens, t.offset ≤ here + byteSize before ∧ here + byteSize before + c.utf8Size ≤ t.stop := by
  induction h generalizing before with
  | nil => simp at hs
  | @blank here d s _ hblank _ ih =>
    cases before with
    | nil =>
      obtain ⟨rfl, -⟩ := List.cons.inj hs
      exact .inl hblank
    | cons e before =>
      obtain ⟨rfl, hrest⟩ := List.cons.inj hs
      simpa [Nat.add_assoc] using ih hrest
  | @token here token spelling s tokens hspelling _ _ ih =>
    have hsize := hspelling.byteSize
    rcases List.append_eq_append_iff.1 hs with ⟨between, rfl, hrest⟩ | ⟨inside, rfl, hrest⟩
    · have hnext := ih hrest
      rw [byteSize_append, hsize, ← Nat.add_assoc]
      refine hnext.imp_right ?_
      rintro ⟨t, ht, hspan⟩
      exact ⟨t, List.mem_cons_of_mem _ ht, hspan⟩
    · cases inside with
      | nil =>
        have hstart : s = [] ++ c :: after := hrest.symm
        have hnext := ih hstart
        rw [List.append_nil] at hsize
        rw [hsize]
        refine hnext.imp_right ?_
        rintro ⟨t, ht, hspan⟩
        exact ⟨t, List.mem_cons_of_mem _ ht, by simpa using hspan⟩
      | cons d inside =>
        obtain ⟨rfl, -⟩ := List.cons.inj hrest
        refine .inr ⟨_, List.mem_cons_self, ?_⟩
        simp only [byteSize_append, byteSize_cons] at hsize
        simp only [Located.stop]
        omega

end Laid

theorem extent_pos_of_scan {input : Text} {tokens : List Located} (h : scan input = .ok tokens) :
    ∀ t ∈ tokens, 0 < t.token.extent := by
  intro t ht
  obtain ⟨spelling, hspelling, hne, -⟩ := (laid_of_scanFrom h).exists_slice byteSize_nil t ht
  exact hspelling.extent_pos hne

/-- Tokens stand in the text from left to right without overlap. The text of each token's span is its spelling, and all characters outside the spans are blank. Words and operators are not empty. -/
theorem spans_of_scan {input : Text} {tokens : List Located} (h : scan input = .ok tokens) :
    (∀ t ∈ tokens, ∃ spelling, t.token.IsSpelling spelling ∧ slice? t.offset t.stop input = some spelling) ∧
      tokens.Pairwise (fun t u => t.offset < u.offset ∧ t.stop ≤ u.offset) ∧
      (∀ before c after, input = before ++ c :: after →
        isBlank c = true ∨ ∃ t ∈ tokens, t.offset ≤ byteSize before ∧ byteSize before + c.utf8Size ≤ t.stop) ∧
      ∀ t ∈ tokens, t.token ≠ .word [] ∧ t.token ≠ .operator [] := by
  have hlaid : Laid 0 input tokens := laid_of_scanFrom h
  have hslice := hlaid.exists_slice byteSize_nil
  refine ⟨?_, hlaid.pairwise, ?_, ?_⟩
  · intro t ht
    obtain ⟨spelling, hspelling, -, htext⟩ := hslice t ht
    exact ⟨spelling, hspelling, htext⟩
  · intro before c after hinput
    simpa using hlaid.blank_or_mem_span hinput
  · intro t ht
    obtain ⟨spelling, hspelling, hne, -⟩ := hslice t ht
    constructor
    · intro he
      rw [he] at hspelling
      cases hspelling
      exact hne rfl
    · intro he
      rw [he] at hspelling
      cases hspelling
      exact hne rfl

/-- Tokens that touch, both kinds of quotes, brackets in quoted runs, characters of several bytes, and blanks at both ends. -/
theorem spans_of_scan_list :
    let input := " Größe_>='a\"]'&&(Straße ^^ [\"x]\", 'ß']) ".toList
    ∃ tokens : List Located,
      scan input = .ok tokens ∧ tokens.map Located.offset = [1, 8, 11, 16, 18, 19, 27, 30, 42] ∧
      slice? 30 42 input = some "[\"x]\", 'ß']".toList ∧
      tokens.Pairwise (fun t u => t.offset < u.offset ∧ t.stop ≤ u.offset) ∧
      ∀ t ∈ tokens, ∃ spelling, t.token.IsSpelling spelling ∧ slice? t.offset t.stop input = some spelling := by
  intro input
  let tokens : List Located :=
    [⟨.word "Größe".toList, 1⟩, ⟨.operator "_>=".toList, 8⟩, ⟨.quoted "a\"]".toList, 11⟩, ⟨.operator "&&".toList, 16⟩,
      ⟨.leftParen, 18⟩, ⟨.word "Straße".toList, 19⟩, ⟨.operator "^^".toList, 27⟩,
      ⟨.list "\"x]\", 'ß'".toList, 30⟩, ⟨.rightParen, 42⟩]
  have h : scan input = .ok tokens := by decide +kernel
  obtain ⟨hslice, hpairwise, -, -⟩ := spans_of_scan h
  exact ⟨tokens, h, rfl, by decide +kernel, hpairwise, hslice⟩

end Filter

end Roster
