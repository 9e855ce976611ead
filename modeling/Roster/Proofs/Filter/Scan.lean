import Mathlib.Algebra.GroupWithZero.Nat
import Roster.Proofs.Filter.Chain

/-!
# Spellings of tokens

Scanning takes each token off the front of the text as it is spelled there. So tokens take up no more bytes than the text has, and a filter has no more literals than bytes.
-/

namespace Roster.Filter

open Text

/-- The text stands for the token in a filter. -/
inductive Token.IsSpelling : Token → Text → Prop
  | word (text : Text) : IsSpelling (.word text) text
  | quoted {quote : Char} (h : isQuote quote = true) (text : Text) :
    IsSpelling (.quoted text) (quote :: (text ++ [quote]))
  | operator (symbol : Text) : IsSpelling (.operator symbol) symbol
  | leftParen : IsSpelling .leftParen ['(']
  | rightParen : IsSpelling .rightParen [')']
  | list (raw : Text) : IsSpelling (.list raw) ('[' :: (raw ++ [']']))

theorem utf8Size_of_isQuote {c : Char} (h : isQuote c = true) : c.utf8Size = 1 := by
  simp only [isQuote, Bool.or_eq_true, beq_iff_eq] at h
  rcases h with rfl | rfl <;> rfl

/-- The bytes of a token are those of its spelling. -/
theorem Token.IsSpelling.byteSize {token : Token} {s : Text} (h : token.IsSpelling s) :
    Text.byteSize s = token.extent := by
  cases h with
  | quoted hquote text =>
    have := utf8Size_of_isQuote hquote
    simp only [byteSize_cons, byteSize_append, byteSize_nil, Token.extent]
    omega
  | list raw =>
    have hopen : '['.utf8Size = 1 := rfl
    have hclose : ']'.utf8Size = 1 := rfl
    simp only [byteSize_cons, byteSize_append, byteSize_nil, Token.extent]
    omega
  | _ => rfl

theorem untilQuote_eq_some {quote : Char} {s text rest : Text} (h : untilQuote quote s = some (text, rest)) :
    s = text ++ quote :: rest := by
  induction s generalizing text with
  | nil => cases h
  | cons c s ih =>
    rw [untilQuote] at h
    split at h
    · cases h
      simp_all
    · obtain ⟨⟨x, y⟩, hxy, he⟩ := Option.map_eq_some_iff.1 h
      obtain ⟨rfl, rfl⟩ := Prod.mk.inj he
      rw [ih hxy, List.cons_append, id]

theorem untilQuote_eq_none_iff {quote : Char} {s : Text} : untilQuote quote s = none ↔ quote ∉ s := by
  induction s with
  | nil => simp [untilQuote]
  | cons c s ih =>
    by_cases hc : c = quote
    · simp [untilQuote, hc]
    · simp [untilQuote, hc, ih, Ne.symm hc]

theorem untilBracket_eq_ok {start here : Nat} {run : Option (Char × Nat)} {s raw rest : Text}
    (h : untilBracket start run here s = .ok (raw, rest)) : s = raw ++ ']' :: rest := by
  induction s generalizing run here raw with
  | nil => cases run <;> simp [untilBracket] at h
  | cons c s ih =>
    rw [untilBracket] at h
    split at h
    · rename_i hclose
      cases h
      rw [hclose.1, List.nil_append]
    · obtain ⟨⟨x, y⟩, hxy, he⟩ := except_map_eq_ok.1 h
      obtain ⟨rfl, rfl⟩ := Prod.mk.inj he
      rw [ih hxy, List.cons_append, id]

theorem operatorTail_append (s : Text) : (operatorTail s).1 ++ (operatorTail s).2 = s := by
  induction s with
  | nil => rfl
  | cons c s ih =>
    rw [operatorTail]
    split
    · rw [Prod.map_fst, Prod.map_snd, id, List.cons_append, ih]
    · rfl

theorem wordTail_append (last : Char) (s : Text) : (wordTail last s).1 ++ (wordTail last s).2 = s := by
  induction s generalizing last with
  | nil => rfl
  | cons c s ih =>
    rw [wordTail]
    split
    · rfl
    · rw [Prod.map_fst, Prod.map_snd, id, List.cons_append, ih]

/-- The token that starts with the character `c` before the text `s`, and what follows it: one case for each kind of token. -/
inductive Token.Starts (offset : Nat) (c : Char) (s : Text) : Token → Text → Prop
  | quoted {text rest : Text} (hquote : isQuote c = true) (h : untilQuote c s = some (text, rest)) :
    Starts offset c s (.quoted text) rest
  | leftParen (hc : c = '(') : Starts offset c s .leftParen s
  | rightParen (hc : c = ')') : Starts offset c s .rightParen s
  | list {raw rest : Text} (hc : c = '[') (h : untilBracket offset none (offset + 1) s = .ok (raw, rest)) :
    Starts offset c s (.list raw) rest
  | operator (hquote : isQuote c = false) (hbracket : isBracket c = false) (hoperator : isOperatorChar c = true) :
    Starts offset c s (.operator (c :: (operatorTail s).1)) (operatorTail s).2
  | word (hquote : isQuote c = false) (hbracket : isBracket c = false) (hoperator : isOperatorChar c = false) :
    Starts offset c s (.word (c :: (wordTail c s).1)) (wordTail c s).2

theorem Token.first_eq_ok_iff {offset : Nat} {c : Char} {s rest : Text} {token : Token} :
    Token.first offset c s = .ok (token, rest) ↔ Token.Starts offset c s token rest := by
  constructor
  · intro h
    unfold Token.first at h
    split at h
    · rename_i hquote
      split at h <;> cases h
      exact .quoted hquote ‹_›
    rename_i hquote
    split at h
    · cases h
      exact .leftParen ‹_›
    rename_i hleft
    split at h
    · cases h
      exact .rightParen ‹_›
    rename_i hright
    split at h
    · obtain ⟨⟨raw, rest'⟩, hraw, he⟩ := except_map_eq_ok.1 h
      obtain ⟨rfl, rfl⟩ := Prod.mk.inj he
      exact .list ‹_› hraw
    rename_i hopen
    split at h
    · cases h
    rename_i hclose
    have hbracket : isBracket c = false := by simp [isBracket, hleft, hright, hopen, hclose]
    split at h <;> cases h
    · exact .operator (by simpa using hquote) hbracket ‹_›
    · exact .word (by simpa using hquote) hbracket (by simpa using ‹¬isOperatorChar c = true›)
  · intro h
    have hnot (hbracket : isBracket c = false) : c ≠ '(' ∧ c ≠ ')' ∧ c ≠ '[' ∧ c ≠ ']' := by
      simpa [isBracket] using hbracket
    cases h with
    | quoted hquote h => simp [Token.first, hquote, h]
    | leftParen hc => rw [hc]; rfl
    | rightParen hc => rw [hc]; rfl
    | list hc h => rw [hc]; exact except_map_eq_ok.2 ⟨_, h, rfl⟩
    | operator hquote hbracket hoperator => simp [Token.first, hquote, hnot hbracket, hoperator, Prod.map]
    | word hquote hbracket hoperator => simp [Token.first, hquote, hnot hbracket, hoperator, Prod.map]

/-- The first token is spelled by the front of the text. -/
theorem Token.exists_spelling_of_first {offset : Nat} {c : Char} {s rest : Text} {token : Token}
    (h : Token.first offset c s = .ok (token, rest)) :
    ∃ spelling, token.IsSpelling spelling ∧ c :: s = spelling ++ rest := by
  cases Token.first_eq_ok_iff.1 h with
  | quoted hquote htext => exact ⟨_, .quoted hquote _, by simp [untilQuote_eq_some htext]⟩
  | leftParen hc => exact ⟨_, .leftParen, by rw [hc]; rfl⟩
  | rightParen hc => exact ⟨_, .rightParen, by rw [hc]; rfl⟩
  | list hc hraw => exact ⟨_, .list _, by simp [hc, untilBracket_eq_ok hraw]⟩
  | operator => exact ⟨_, .operator _, by simp [operatorTail_append]⟩
  | word => exact ⟨_, .word _, by simp [wordTail_append]⟩

theorem Token.byteSize_of_first {offset : Nat} {c : Char} {s rest : Text} {token : Token}
    (h : Token.first offset c s = .ok (token, rest)) : byteSize (c :: s) = token.extent + byteSize rest := by
  obtain ⟨spelling, hspelling, htext⟩ := Token.exists_spelling_of_first h
  rw [htext, byteSize_append, hspelling.byteSize]

/-- Every token of a text was taken from it at its offset. -/
theorem exists_starts_of_scanFrom {here : Nat} {s : Text} {tokens : List Located} (h : scanFrom here s = .ok tokens) :
    ∀ t ∈ tokens, ∃ before c after rest, s = before ++ c :: after ∧ t.offset = here + byteSize before ∧
      isBlank c = false ∧ Token.Starts t.offset c after t.token rest := by
  fun_induction scanFrom here s generalizing tokens with
  | case1 =>
    cases h
    exact List.forall_mem_nil _
  | case2 here c s _ ih =>
    intro t ht
    obtain ⟨before, d, after, rest, rfl, hoffset, hd⟩ := ih h t ht
    exact ⟨c :: before, d, after, rest, rfl, by rw [hoffset, byteSize_cons, Nat.add_assoc], hd⟩
  | case3 => cases h
  | case4 here c s hblank token rest hfirst _ ih =>
    obtain ⟨ts, hts, rfl⟩ := except_map_eq_ok.1 h
    refine List.forall_mem_cons.2 ⟨⟨[], c, s, rest, rfl, rfl, by simpa using hblank, Token.first_eq_ok_iff.1 hfirst⟩, ?_⟩
    intro t ht
    obtain ⟨spelling, hspelling, htext⟩ := Token.exists_spelling_of_first hfirst
    obtain ⟨before, d, after, rest', rfl, hoffset, hd⟩ := ih hts t ht
    refine ⟨spelling ++ before, d, after, rest', by rw [htext, List.append_assoc], ?_, hd⟩
    rw [hoffset, byteSize_append, hspelling.byteSize, Nat.add_assoc]

/-- The bytes that tokens take up in a filter. -/
def extents (tokens : List Token) : Nat := (tokens.map Token.extent).sum

theorem Comparison.extents_tokens (c : Comparison) :
    extents c.tokens = byteSize c.column + (byteSize c.operator.symbol + c.value.extent) := by
  simp [extents, Comparison.tokens, Token.extent]

theorem Chain.extents_join (left : Chain) (connective : Connective) (right : Operand) :
    extents (Chain.join left connective right).tokens =
      extents left.tokens + (byteSize connective.symbol + extents right.tokens) := by
  simp [extents, Chain.tokens, Token.extent]

theorem Operand.extents_group (inner : Chain) : extents (Operand.group inner).tokens = 1 + (extents inner.tokens + 1) := by
  simp [extents, Operand.tokens, Token.extent]

theorem extents_of_scanFrom {here : Nat} {s : Text} {tokens : List Located} (h : scanFrom here s = .ok tokens) :
    extents (tokens.map Located.token) ≤ byteSize s := by
  fun_induction scanFrom here s generalizing tokens with
  | case1 =>
    cases h
    exact Nat.le_refl _
  | case2 here c s _ ih =>
    have := ih h
    rw [byteSize_cons]
    omega
  | case3 => cases h
  | case4 here c s _ token rest hfirst _ ih =>
    obtain ⟨ts, hts, rfl⟩ := except_map_eq_ok.1 h
    have hrest : extents (ts.map Located.token) ≤ byteSize rest := ih hts
    have hsize := Token.byteSize_of_first hfirst
    have hcons : extents ((⟨token, here⟩ :: ts).map Located.token) = token.extent + extents (ts.map Located.token) := by
      simp [extents]
    omega

/-! ### The number of literals -/

theorem Items.length_of_readFrom {run : Option Char} {piece s : Text} {items : List Literal}
    (h : Items.readFrom run piece s = .ok items) : items.length ≤ s.length + 1 := by
  fun_induction Items.readFrom run piece s generalizing items with
  | case1 => cases h
  | case2 =>
    obtain ⟨value, -, rfl⟩ := except_map_eq_ok.1 h
    simp
  | case3 => cases h
  | case4 _ _ _ _ _ _ _ ih =>
    obtain ⟨values, hvalues, rfl⟩ := except_map_eq_ok.1 h
    have := ih hvalues
    simp only [List.length_cons]
    omega
  | case5 => cases h
  | case6 _ _ _ _ _ _ ih =>
    have := ih h
    simp only [List.length_cons]
    omega

theorem TestOperator.byteSize_symbol_pos (op : TestOperator) : 0 < byteSize op.symbol := by
  have hall : ∀ op ∈ Operator.all, 0 < byteSize op.symbol := by decide
  exact hall _ op.mem_all

theorem Comparison.length_bound_le (c : Comparison) : c.bound.length ≤ extents c.tokens := by
  have hsymbol := c.operator.byteSize_symbol_pos
  rw [Comparison.bound, List.length_map, c.extents_tokens]
  rcases Rule.literals?_eq_some.1 c.literals?_eq with
    ⟨-, text, -, hliterals⟩ | ⟨-, text, -, hliterals⟩ | ⟨-, raw, hvalue, hread⟩
  · rw [hliterals, List.length_singleton]
    omega
  · rw [hliterals, List.length_singleton]
    omega
  · have hlength : c.literals.length ≤ raw.length + 1 := by
      unfold Items.read at hread
      split at hread
      · cases hread
      · exact Items.length_of_readFrom hread
    have hraw := length_le_byteSize raw
    rw [hvalue, Token.extent]
    omega

mutual

theorem Chain.length_boundLiterals_le (e : Chain) : (boundLiterals e.comparisons).length ≤ extents e.tokens := by
  match e with
  | .single x => exact x.length_boundLiterals_le
  | .join left connective right =>
    have hleft := left.length_boundLiterals_le
    have hright := right.length_boundLiterals_le
    rw [Chain.comparisons, boundLiterals_append, List.length_append, Chain.extents_join]
    omega

theorem Operand.length_boundLiterals_le (x : Operand) : (boundLiterals x.comparisons).length ≤ extents x.tokens := by
  match x with
  | .test c => simpa [Operand.comparisons, Operand.tokens, boundLiterals] using c.length_bound_le
  | .group inner =>
    have hinner := inner.length_boundLiterals_le
    rw [Operand.comparisons, Operand.extents_group]
    omega

end

/-- A filter has no more literals than bytes. -/
theorem length_boundLiterals_le_byteSize {input : Text} {tokens : List Located} {e : Chain}
    (hscan : scan input = .ok tokens) (htokens : e.tokens = tokens.map Located.token) :
    (boundLiterals e.comparisons).length ≤ byteSize input := by
  have hliterals := e.length_boundLiterals_le
  have hextents := extents_of_scanFrom hscan
  rw [htokens] at hliterals
  omega

end Roster.Filter
