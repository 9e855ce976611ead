import Mathlib.Data.List.Forall2
import Roster.Proofs.Filter.Boundary
import Roster.Proofs.Filter.Source
import Roster.Proofs.Filter.Span

/-!
# Spelling tokens again

The tokens of a filter can be written down again with one blank between neighbours, and the new text has the same tokens, so that it says the same (`scan_join_respelled`). A token was cut off where it was because of what followed it, and now a blank or nothing follows. So the argument is that whatever follows, a token that was once cut from a text is cut from its own spelling as a whole.
-/

namespace Roster.Filter

open Text

/-- The text stands for the token, and the quotes around quoted text do not occur in it. -/
structure Token.Respelled (token : Token) (spelling : Text) : Prop where
  isSpelling : token.IsSpelling spelling
  quote_not_mem : ∀ text, token = .quoted text → ∀ quote ∈ spelling.head?, quote ∉ text

/-! ### Runs -/

theorem not_mem_of_untilQuote {quote : Char} {s text rest : Text} (h : untilQuote quote s = some (text, rest)) :
    quote ∉ text := by
  induction s generalizing text with
  | nil => cases h
  | cons c s ih =>
    rw [untilQuote] at h
    split at h
    · cases h
      simp
    · rename_i hc
      obtain ⟨⟨x, y⟩, hxy, he⟩ := Option.map_eq_some_iff.1 h
      obtain ⟨rfl, rfl⟩ := Prod.mk.inj he
      exact List.not_mem_cons_of_ne_of_not_mem (Ne.symm hc) (ih hxy)

theorem untilQuote_append_quote {quote : Char} {text : Text} (h : quote ∉ text) (rest : Text) :
    untilQuote quote (text ++ quote :: rest) = some (text, rest) := by
  induction text with
  | nil => rw [List.nil_append, untilQuote, if_pos rfl]
  | cons c text ih =>
    have hne : c ≠ quote := Ne.symm (List.ne_of_not_mem_cons h)
    rw [List.cons_append, untilQuote, if_neg hne, ih (List.not_mem_of_not_mem_cons h)]
    rfl

/-- A list is closed at the same place wherever it stands and whatever follows it. -/
theorem untilBracket_again {start here start' here' : Nat} {run run' : Option (Char × Nat)} {s raw rest : Text}
    (h : untilBracket start run here s = .ok (raw, rest)) (hrun : run.map Prod.fst = run'.map Prod.fst)
    (rest' : Text) : untilBracket start' run' here' (raw ++ ']' :: rest') = .ok (raw, rest') := by
  have hnone {run run' : Option (Char × Nat)} (hrun : run.map Prod.fst = run'.map Prod.fst) :
      run = none ↔ run' = none := by
    rw [← Option.map_eq_none_iff (f := Prod.fst), hrun, Option.map_eq_none_iff]
  induction s generalizing run run' here here' raw with
  | nil => cases run <;> simp [untilBracket] at h
  | cons c s ih =>
    rw [untilBracket] at h
    split at h
    · rename_i hclose
      cases h
      rw [List.nil_append, untilBracket, if_pos ⟨rfl, (hnone hrun).1 hclose.2⟩]
    · rename_i hclose
      obtain ⟨⟨x, y⟩, hxy, he⟩ := except_map_eq_ok.1 h
      obtain ⟨rfl, rfl⟩ := Prod.mk.inj he
      rw [hnone hrun] at hclose
      rw [List.cons_append, untilBracket, if_neg hclose]
      refine except_map_eq_ok.2 ⟨_, ih hxy ?_, rfl⟩
      simp [hrun, Function.comp_def]

theorem startsWith_operatorTail {s : Text} (h : startsWith isOperatorChar s = true) :
    startsWith isOperatorChar (operatorTail s).1 = true := by
  cases s with
  | nil => exact h
  | cons c s =>
    have hc : isOperatorChar c = true := h
    simp [operatorTail, hc, startsWith]

theorem operatorTail_again (s : Text) : operatorTail (operatorTail s).1 = ((operatorTail s).1, []) := by
  induction s with
  | nil => rfl
  | cons c s ih =>
    rw [operatorTail]
    split
    · rename_i hjoins
      -- What joins a `-` to the operator, the character after it, belongs to the operator too.
      have hjoins' : (isOperatorChar c || (c == '-' && startsWith isOperatorChar (operatorTail s).1)) = true := by
        simp only [Bool.or_eq_true, Bool.and_eq_true] at hjoins ⊢
        rcases hjoins with hoperator | ⟨hminus, hnext⟩
        · exact .inl hoperator
        · exact .inr ⟨hminus, startsWith_operatorTail hnext⟩
      rw [Prod.map_fst, operatorTail, if_pos hjoins', ih]
      rfl
    · rfl

theorem continuesWord_wordTail {last : Char} {s : Text} (h : continuesWord s = true) :
    continuesWord (wordTail last s).1 = true := by
  cases s with
  | nil => rfl
  | cons c s =>
    rw [wordTail]
    split
    · rfl
    · exact h

theorem wordTail_again (last : Char) (s : Text) : wordTail last (wordTail last s).1 = ((wordTail last s).1, []) := by
  induction s generalizing last with
  | nil => rfl
  | cons c s ih =>
    rw [wordTail]
    split
    · rfl
    · rename_i hends
      -- An underscore goes on before the end of its word as it did before a blank or a bracket.
      have hends' : ¬ endsWord last c (wordTail c s).1 = true := by
        have hcontinues : continuesWord s = true → continuesWord (wordTail c s).1 = true := continuesWord_wordTail
        simp only [endsWord] at hends ⊢
        grind
      rw [Prod.map_fst, wordTail, if_neg hends', ih]
      rfl

/-! ### Tokens -/

theorem isBlank_of_isQuote {c : Char} (h : isQuote c = true) : isBlank c = false := by
  simp only [isQuote, Bool.or_eq_true, beq_iff_eq] at h
  rcases h with rfl | rfl <;> decide

theorem scanFrom_of_first {here : Nat} {c : Char} {s : Text} {token : Token} (hc : isBlank c = false)
    (h : Token.first here c s = .ok (token, [])) : scanFrom here (c :: s) = .ok [⟨token, here⟩] := by
  rw [scanFrom_cons_of_first hc h, scanFrom]
  rfl

/-- A token that was cut from a text makes up its own spelling. -/
theorem Token.Starts.scanFrom_again {offset : Nat} {c : Char} {s rest : Text} {token : Token}
    (hblank : isBlank c = false) (h : Token.Starts offset c s token rest) {spelling : Text} (hspelling : token.Respelled spelling) (here : Nat) :
    scanFrom here spelling = .ok [⟨token, here⟩] := by
  obtain ⟨hspelling, hquote_not_mem⟩ := hspelling
  cases h with
  | quoted =>
    cases hspelling with
    | quoted hquote =>
      refine scanFrom_of_first (isBlank_of_isQuote hquote) (Token.first_eq_ok_iff.2 (.quoted hquote ?_))
      exact untilQuote_append_quote (hquote_not_mem _ rfl _ rfl) []
  | leftParen =>
    cases hspelling
    exact scanFrom_of_first rfl rfl
  | rightParen =>
    cases hspelling
    exact scanFrom_of_first rfl rfl
  | list _ hraw =>
    cases hspelling
    exact scanFrom_of_first rfl (Token.first_eq_ok_iff.2 (.list rfl (untilBracket_again hraw rfl [])))
  | operator hquote hbracket hoperator =>
    cases hspelling
    have hstarts : Token.Starts here c (operatorTail s).1 _ _ := .operator hquote hbracket hoperator
    rw [operatorTail_again] at hstarts
    exact scanFrom_of_first hblank (Token.first_eq_ok_iff.2 hstarts)
  | word hquote hbracket hoperator =>
    cases hspelling
    have hstarts : Token.Starts here c (wordTail c s).1 _ _ := .word hquote hbracket hoperator
    rw [wordTail_again] at hstarts
    exact scanFrom_of_first hblank (Token.first_eq_ok_iff.2 hstarts)

theorem Token.Starts.exists_respelled {offset : Nat} {c : Char} {s rest : Text} {token : Token}
    (h : Token.Starts offset c s token rest) : ∃ spelling, token.Respelled spelling := by
  cases h with
  | quoted hquote htext =>
    refine ⟨_, .quoted hquote _, ?_⟩
    rintro _ ⟨⟩ _ ⟨⟩
    exact not_mem_of_untilQuote htext
  | leftParen => exact ⟨_, .leftParen, nofun⟩
  | rightParen => exact ⟨_, .rightParen, nofun⟩
  | list => exact ⟨_, .list _, nofun⟩
  | operator => exact ⟨_, .operator _, nofun⟩
  | word => exact ⟨_, .word _, nofun⟩

/-- The token has a spelling, and all its spellings are read as the token and nothing else. -/
def Token.Readable (token : Token) : Prop :=
  (∃ spelling, token.Respelled spelling) ∧
    ∀ spelling, token.Respelled spelling → ∀ here, scanFrom here spelling = .ok [⟨token, here⟩]

theorem readable_of_scanFrom {here : Nat} {s : Text} {tokens : List Located} (h : scanFrom here s = .ok tokens) :
    ∀ t ∈ tokens, t.token.Readable := by
  intro t ht
  obtain ⟨-, c, after, rest, -, -, hblank, hstarts⟩ := exists_starts_of_scanFrom h t ht
  refine ⟨hstarts.exists_respelled, ?_⟩
  intro spelling hspelling
  exact hstarts.scanFrom_again hblank hspelling

/-! ### Texts -/

/-- Readable tokens are read from their spellings with one blank between neighbours. -/
theorem exists_scanFrom_join {tokens : List Located} {spellings : List Text}
    (hreadable : ∀ t ∈ tokens, t.token.Readable)
    (h : List.Forall₂ (fun t spelling => t.token.Respelled spelling) tokens spellings) (here : Nat) :
    ∃ again, scanFrom here (join [' '] spellings) = .ok again ∧
      again.map Located.token = tokens.map Located.token := by
  induction h generalizing here with
  | nil => exact ⟨[], by rw [join, scanFrom], rfl⟩
  | @cons t spelling tokens spellings hspelling hrest ih =>
    have htoken := (hreadable t List.mem_cons_self).2 spelling hspelling here
    cases hrest with
    | nil => exact ⟨_, htoken, rfl⟩
    | @cons u next tokens spellings hnext hrest =>
      obtain ⟨again, hagain, htokens⟩ :=
        ih (fun t ht => hreadable t (List.mem_cons_of_mem _ ht)) (here + byteSize spelling + ' '.utf8Size)
      refine ⟨⟨t.token, here⟩ :: again, ?_, congrArg (t.token :: ·) htokens⟩
      have hjoin : join [' '] (spelling :: next :: spellings) = spelling ++ ' ' :: join [' '] (next :: spellings) := by
        simp [join]
      rw [hjoin, scanFrom_append htoken rfl, scanFrom_cons_blank rfl, hagain]
      rfl

theorem exists_respelled {tokens : List Located} (h : ∀ t ∈ tokens, t.token.Readable) :
    ∃ spellings, List.Forall₂ (fun t spelling => t.token.Respelled spelling) tokens spellings := by
  induction tokens with
  | nil => exact ⟨[], .nil⟩
  | cons t tokens ih =>
    obtain ⟨spelling, hspelling⟩ := (h t List.mem_cons_self).1
    obtain ⟨spellings, hrest⟩ := ih fun u hu => h u (List.mem_cons_of_mem _ hu)
    exact ⟨spelling :: spellings, .cons hspelling hrest⟩

/-- What a text says is decided by its tokens. -/
theorem Spells.of_scan_eq {input again : Text} {tokens tokens' : List Located} (hinput : scan input = .ok tokens)
    (hagain : scan again = .ok tokens') (htokens : tokens'.map Located.token = tokens.map Located.token)
    {source : Option Chain} (h : Spells input source) : Spells again source := by
  cases h with
  | blank hblank =>
    have hnil : scan input = .ok [] := scanFrom_blank hblank
    obtain rfl : tokens = [] := by
      rw [hinput] at hnil
      cases hnil
      rfl
    obtain rfl : tokens' = [] := by simpa using htokens
    exact .blank (laid_of_scanFrom hagain).isBlank_of_nil
  | chain hscan hspelled =>
    cases hinput.symm.trans hscan
    exact .chain hagain (hspelled.trans htokens.symm)

/-- The tokens of a text have spellings, with either kind of quotes where both will do. Written down with one blank between neighbours they make a text with the same tokens, and if the first text is compiled and the second is not too long, it is compiled to the same. -/
theorem scan_join_respelled {input : Text} {tokens : List Located} (h : scan input = .ok tokens) :
    (∃ spellings, List.Forall₂ (fun t spelling => t.token.Respelled spelling) tokens spellings) ∧
      ∀ spellings, List.Forall₂ (fun t spelling => t.token.Respelled spelling) tokens spellings →
        (∃ again, scan (join [' '] spellings) = .ok again ∧
          again.map Located.token = tokens.map Located.token) ∧
        ∀ options c, compile options input = .ok c → byteSize (join [' '] spellings) ≤ options.maxLength →
          compile options (join [' '] spellings) = .ok c := by
  have hreadable := readable_of_scanFrom h
  refine ⟨exists_respelled hreadable, ?_⟩
  intro spellings hspellings
  obtain ⟨again, hagain, htokens⟩ := exists_scanFrom_join hreadable hspellings 0
  refine ⟨⟨again, hagain, htokens⟩, ?_⟩
  intro options c hcompile hlength
  obtain ⟨-, source, hsource, rfl⟩ := compile_eq_ok_iff.1 hcompile
  exact compile_eq_ok_iff.2 ⟨hlength, source, hsource.of_scan_eq h hagain htokens, rfl⟩

/-- Tokens that are cut apart by their neighbours: an underscore, a minus, quotes of both kinds and a bracket in a list. -/
theorem scan_join_respelled_touching :
    let input := "Name_='a\"b'&&(last_login>=-5||x_ ^^[\"]\", b])".toList
    let respelled := "Name _= 'a\"b' && ( last_login >= -5 || x_ ^^ [\"]\", b] )".toList
    ∃ tokens again : List Located, scan input = .ok tokens ∧ scan respelled = .ok again ∧
      again.map Located.token = tokens.map Located.token ∧
      ∃ c, compile ⟨"NOCASE".toList, 4096⟩ input = .ok c ∧ compile ⟨"NOCASE".toList, 4096⟩ respelled = .ok c ∧
        c.sql = "Name LIKE @p0 COLLATE NOCASE AND (last_login >= @p1 OR x_ IN (@p2, @p3))".toList := by
  intro input respelled
  let tokens : List Located :=
    [⟨.word "Name".toList, 0⟩, ⟨.operator "_=".toList, 4⟩, ⟨.quoted "a\"b".toList, 6⟩, ⟨.operator "&&".toList, 11⟩,
      ⟨.leftParen, 13⟩, ⟨.word "last_login".toList, 14⟩, ⟨.operator ">=".toList, 24⟩, ⟨.word "-5".toList, 26⟩,
      ⟨.operator "||".toList, 28⟩, ⟨.word "x_".toList, 30⟩, ⟨.operator "^^".toList, 33⟩,
      ⟨.list "\"]\", b".toList, 35⟩, ⟨.rightParen, 43⟩]
  let spellings : List Text :=
    ["Name".toList, "_=".toList, "'a\"b'".toList, "&&".toList, "(".toList, "last_login".toList, ">=".toList,
      "-5".toList, "||".toList, "x_".toList, "^^".toList, "[\"]\", b]".toList, ")".toList]
  let c : Compiled :=
    ⟨"Name LIKE @p0 COLLATE NOCASE AND (last_login >= @p1 OR x_ IN (@p2, @p3))".toList,
      parametersFrom 0 [.str "a\"b%".toList, .int (-5), .str "]".toList, .raw "b".toList],
      ["Name".toList, "last_login".toList, "x_".toList]⟩
  have h : scan input = .ok tokens := by decide +kernel
  have hcompile : compile ⟨"NOCASE".toList, 4096⟩ input = .ok c := by decide +kernel
  have hword (text : Text) : (Token.word text).Respelled text := ⟨.word text, nofun⟩
  have hoperator (symbol : Text) : (Token.operator symbol).Respelled symbol := ⟨.operator symbol, nofun⟩
  have hquoted : (Token.quoted "a\"b".toList).Respelled "'a\"b'".toList := by
    show (Token.quoted "a\"b".toList).Respelled ('\'' :: ("a\"b".toList ++ ['\'']))
    refine ⟨.quoted rfl _, ?_⟩
    rintro _ ⟨⟩ _ ⟨⟩
    decide
  have hspellings : List.Forall₂ (fun t spelling => t.token.Respelled spelling) tokens spellings :=
    .cons (hword _) <| .cons (hoperator _) <| .cons hquoted <| .cons (hoperator _) <| .cons ⟨.leftParen, nofun⟩ <|
      .cons (hword _) <| .cons (hoperator _) <| .cons (hword _) <| .cons (hoperator _) <| .cons (hword _) <|
      .cons (hoperator _) <| .cons ⟨.list _, nofun⟩ <| .cons ⟨.rightParen, nofun⟩ .nil
  have hjoin : join [' '] spellings = respelled := by decide +kernel
  obtain ⟨⟨again, hagain, htokens⟩, hsame⟩ := (scan_join_respelled h).2 spellings hspellings
  rw [hjoin] at hagain hsame
  exact ⟨tokens, again, h, hagain, htokens, c, hcompile, hsame _ c hcompile (by decide +kernel), rfl⟩

end Roster.Filter
