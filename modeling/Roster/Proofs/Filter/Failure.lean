import Roster.Proofs.Filter.Quotation
import Roster.Proofs.Filter.Word

/-!
# Where scanning fails

Scanning can fail at a quote, at a bracket that opens a list and at one that closes none, and nowhere else. A text is scanned up to the first of them that has no partner, and the error stands at the offset of this character (`scan_eq_error_iff`). The argument takes the text apart before it is scanned: in front there are whole quoted runs, whole lists and characters that are safe, and then the text ends or the culprit follows.
-/

namespace Roster.Filter

open Text

/-- Scanning does not fail at the character. -/
def IsSafe (c : Char) : Prop := isQuote c = false ∧ c ≠ '[' ∧ c ≠ ']'

instance : DecidablePred IsSafe := fun c => inferInstanceAs (Decidable (isQuote c = false ∧ c ≠ '[' ∧ c ≠ ']'))

/-- The quoted runs and the lists of the text are whole, and no other bracket closes a list. -/
inductive Scannable : Text → Prop
  | nil : Scannable []
  | char {c : Char} {s : Text} (hc : IsSafe c) (rest : Scannable s) : Scannable (c :: s)
  | quotation (q : Quotation) {s : Text} (rest : Scannable s) : Scannable (q.spelling ++ s)
  | list {raw s : Text} (hraw : Closed (· ≠ ']') raw) (rest : Scannable s) : Scannable ('[' :: (raw ++ ']' :: s))

/-- Scanning fails at the character before the text `after`, and the error is told with the offset of the character. Before it there stands, after whole tokens, the text `inside`: nothing, or the beginning of a list. -/
inductive Culprit : Text → Char → Text → (Nat → ScanError) → Prop
  | string {quote : Char} {after : Text} (hquote : isQuote quote = true) (hnot_mem : quote ∉ after) :
    Culprit [] quote after .unterminatedString
  | stringInList {raw : Text} {quote : Char} {after : Text} (hraw : Closed (· ≠ ']') raw)
    (hquote : isQuote quote = true) (hnot_mem : quote ∉ after) :
    Culprit ('[' :: raw) quote after .unterminatedString
  | list {after : Text} (hafter : Closed (· ≠ ']') after) : Culprit [] '[' after .unterminatedList
  | bracket {after : Text} : Culprit [] ']' after (.unexpectedCharacter ']')

theorem Scannable.append {s t : Text} (hs : Scannable s) (ht : Scannable t) : Scannable (s ++ t) := by
  induction hs with
  | nil => exact ht
  | char hc _ ih => exact .char hc ih
  | quotation q _ ih =>
    rw [List.append_assoc]
    exact .quotation q ih
  | list hraw _ ih =>
    rw [List.cons_append, List.append_assoc]
    exact .list hraw ih

/-- A text starts with something whole, or scanning fails at its first character or in a list that starts there. -/
theorem exists_scannable_or_culprit {s : Text} (hne : s ≠ []) :
    (∃ u t, s = u ++ t ∧ u ≠ [] ∧ Scannable u) ∨
      ∃ inside c after error, s = inside ++ c :: after ∧ Culprit inside c after error := by
  obtain ⟨c, s, rfl⟩ := List.exists_cons_of_ne_nil hne
  by_cases hopen : c = '['
  · subst hopen
    rcases Closed.or_stops (· ≠ ']') s with
      hs | ⟨raw, d, rest, rfl, hraw, -, hd⟩ | ⟨raw, quote, after, rfl, hraw, hquote, hnot_mem⟩
    · exact .inr ⟨[], _, _, _, rfl, .list hs⟩
    · obtain rfl : d = ']' := not_not.1 hd
      exact .inl ⟨'[' :: (raw ++ [']']), rest, by simp, List.cons_ne_nil _ _, .list hraw .nil⟩
    · exact .inr ⟨_, _, _, _, rfl, .stringInList hraw hquote hnot_mem⟩
  by_cases hclose : c = ']'
  · subst hclose
    exact .inr ⟨[], _, _, _, rfl, .bracket⟩
  cases hquote : isQuote c with
  | false => exact .inl ⟨[c], s, rfl, List.cons_ne_nil _ _, .char ⟨hquote, hopen, hclose⟩ .nil⟩
  | true =>
    cases huntil : untilQuote c s with
    | none => exact .inr ⟨[], _, _, _, rfl, .string hquote (untilQuote_eq_none_iff.1 huntil)⟩
    | some parts =>
      obtain ⟨q, -, hs⟩ := Quotation.exists_of_untilQuote hquote huntil
      exact .inl ⟨q.spelling, _, hs, List.cons_ne_nil _ _, by simpa using Scannable.quotation q .nil⟩

/-- A text is scannable, or it is so up to a culprit. -/
theorem scannable_or_culprit (s : Text) :
    Scannable s ∨ ∃ opened inside c after error,
      s = opened ++ (inside ++ c :: after) ∧ Scannable opened ∧ Culprit inside c after error := by
  induction hlength : s.length using Nat.strongRecOn generalizing s with
  | ind n ih =>
    by_cases hne : s = []
    · exact .inl (hne ▸ .nil)
    rcases exists_scannable_or_culprit hne with ⟨u, t, rfl, hu, hwhole⟩ | ⟨inside, c, after, error, rfl, hc⟩
    · have hpos := List.length_pos_iff.2 hu
      rw [List.length_append] at hlength
      refine (ih t.length (by omega) t rfl).imp hwhole.append ?_
      rintro ⟨opened, inside, c, after, error, rfl, hopened, hc⟩
      exact ⟨u ++ opened, inside, c, after, error, (List.append_assoc _ _ _).symm, hwhole.append hopened, hc⟩
    · exact .inr ⟨[], inside, c, after, error, rfl, .nil, hc⟩

/-! ### Tokens -/

theorem isSafe_of_isOperatorChar {c : Char} (h : isOperatorChar c = true) : IsSafe c := by
  have hall : (['=', '<', '>', '!', '&', '|', '_', '@', '^', '~', '$', '#'].all fun c => decide (IsSafe c)) = true :=
    rfl
  exact of_decide_eq_true (List.all_eq_true.1 hall c (List.contains_iff_mem.1 h))

theorem isSafe_of_isWordChar {c : Char} (h : isWordChar c = true) : IsSafe c := by
  simp only [isWordChar, Bool.or_eq_true, beq_iff_eq, Bool.not_eq_true', Bool.or_eq_false_iff] at h
  rcases h with rfl | ⟨⟨⟨-, hquote⟩, hbracket⟩, -⟩
  · decide
  · have hnot : c ≠ '(' ∧ c ≠ ')' ∧ c ≠ '[' ∧ c ≠ ']' := by simpa [isBracket] using hbracket
    exact ⟨hquote, hnot.2.2⟩

theorem isSafe_of_mem_operatorTail {s : Text} : ∀ c ∈ (operatorTail s).1, IsSafe c := by
  induction s with
  | nil => simp [operatorTail]
  | cons d s ih =>
    rw [operatorTail]
    split
    · rename_i hjoins
      simp only [Bool.or_eq_true, Bool.and_eq_true, beq_iff_eq] at hjoins
      refine List.forall_mem_cons.2 ⟨?_, ih⟩
      rcases hjoins with hoperator | ⟨rfl, -⟩
      · exact isSafe_of_isOperatorChar hoperator
      · decide
    · simp

/-- A part of a text that has only safe characters ends before one that is not safe. -/
theorem exists_eq_append_of_safe {s t u v : Text} (h : u ++ v = s ++ t) (hu : ∀ c ∈ u, IsSafe c)
    (ht : ∀ c ∈ t.head?, ¬IsSafe c) : ∃ rest, s = u ++ rest ∧ v = rest ++ t := by
  rcases List.append_eq_append_iff.1 h with ⟨rest, rfl, rfl⟩ | ⟨between, rfl, rfl⟩
  · exact ⟨rest, rfl, rfl⟩
  · cases between with
    | nil => exact ⟨[], by simp, by simp⟩
    | cons c between => exact absurd (hu c (by simp)) (ht c rfl)

theorem Scannable.of_append {s t : Text} (hs : ∀ c ∈ s, IsSafe c) (h : Scannable (s ++ t)) : Scannable t := by
  induction s with
  | nil => exact h
  | cons c s ih =>
    rw [List.forall_mem_cons] at hs
    obtain ⟨hquote, hopen, -⟩ := hs.1
    generalize htext : c :: s ++ t = text at h
    cases h with
    | nil => cases htext
    | char _ hrest =>
      obtain ⟨-, rfl⟩ := List.cons.inj htext
      exact ih hs.2 hrest
    | quotation q =>
      obtain ⟨rfl, -⟩ := List.cons.inj htext
      simp [q.isQuote_quote] at hquote
    | list =>
      obtain ⟨rfl, -⟩ := List.cons.inj htext
      exact absurd rfl hopen

/-- A token that starts with a safe character is complete before a character that is not safe. -/
theorem Token.exists_first_of_safe {c : Char} (hc : IsSafe c) {s t : Text} (hs : Scannable s)
    (ht : ∀ d ∈ t.head?, ¬IsSafe d) (offset : Nat) :
    ∃ token rest, Token.first offset c (s ++ t) = .ok (token, rest ++ t) ∧ Scannable rest ∧ rest.length ≤ s.length := by
  obtain ⟨hquote, hopen, hclose⟩ := hc
  -- The rest of the token is taken from `s`, and what is left of `s` comes before `t`.
  have htail {token : Token} {u v : Text} (htext : u ++ v = s ++ t) (hu : ∀ d ∈ u, IsSafe d)
      (hstarts : Token.Starts offset c (s ++ t) token v) :
      ∃ token rest, Token.first offset c (s ++ t) = .ok (token, rest ++ t) ∧ Scannable rest ∧
        rest.length ≤ s.length := by
    obtain ⟨rest, rfl, rfl⟩ := exists_eq_append_of_safe htext hu ht
    refine ⟨token, rest, Token.first_eq_ok_iff.2 hstarts, hs.of_append hu, ?_⟩
    rw [List.length_append]
    exact Nat.le_add_left _ _
  by_cases hleft : c = '('
  · exact htail (List.nil_append _) (List.forall_mem_nil _) (.leftParen hleft)
  by_cases hright : c = ')'
  · exact htail (List.nil_append _) (List.forall_mem_nil _) (.rightParen hright)
  have hbracket : isBracket c = false := by simp [isBracket, hleft, hright, hopen, hclose]
  cases hoperator : isOperatorChar c with
  | true => exact htail (operatorTail_append _) isSafe_of_mem_operatorTail (.operator hquote hbracket hoperator)
  | false =>
    have hword : ∀ d ∈ (wordTail c (s ++ t)).1, IsSafe d := by
      intro d hd
      exact isSafe_of_isWordChar (isWordChar_of_mem_wordTail d hd)
    exact htail (wordTail_append _ _) hword (.word hquote hbracket hoperator)

/-! ### Scanning -/

/-- Scanning passes over a scannable text before the end or before a character that is not safe. -/
theorem exists_scanFrom_append {s : Text} (hs : Scannable s) (here : Nat) {t : Text} (ht : ∀ c ∈ t.head?, ¬IsSafe c) :
    ∃ tokens, scanFrom here (s ++ t) = (scanFrom (here + byteSize s) t).map (tokens ++ ·) := by
  induction hlength : s.length using Nat.strongRecOn generalizing s here with
  | ind n ih =>
    -- The first token is followed by a text that is scannable too.
    have hstep {c : Char} {u rest : Text} {token : Token} (hu : s = c :: u) (hblank : isBlank c = false)
        (hfirst : Token.first here c (u ++ t) = .ok (token, rest ++ t)) (hrest : Scannable rest)
        (hle : rest.length ≤ u.length) :
        ∃ tokens, scanFrom here (s ++ t) = (scanFrom (here + byteSize s) t).map (tokens ++ ·) := by
      subst hu
      rw [List.length_cons] at hlength
      obtain ⟨tokens, htokens⟩ := ih rest.length (by omega) hrest (here + token.extent) rfl
      have hsize := Token.byteSize_of_first hfirst
      simp only [byteSize_cons, byteSize_append] at hsize
      have hend : here + token.extent + byteSize rest = here + byteSize (c :: u) := by
        rw [byteSize_cons]
        omega
      refine ⟨⟨token, here⟩ :: tokens, ?_⟩
      rw [List.cons_append, scanFrom_cons_of_first hblank hfirst, htokens, hend, except_map_map]
      rfl
    cases hs with
    | nil =>
      refine ⟨[], ?_⟩
      rw [List.nil_append, byteSize_nil, Nat.add_zero]
      cases scanFrom here t <;> rfl
    | @char c u hc hu =>
      cases hblank : isBlank c with
      | true =>
        rw [List.length_cons] at hlength
        obtain ⟨tokens, htokens⟩ := ih u.length (by omega) hu (here + c.utf8Size) rfl
        refine ⟨tokens, ?_⟩
        rw [List.cons_append, scanFrom_cons_blank hblank, htokens, byteSize_cons, Nat.add_assoc]
      | false =>
        obtain ⟨token, rest, hfirst, hrest, hle⟩ := Token.exists_first_of_safe hc hu ht here
        exact hstep rfl hblank hfirst hrest hle
    | @quotation q u hu =>
      have hfirst : Token.first here q.quote (q.text ++ q.quote :: (u ++ t)) = .ok (.quoted q.text, u ++ t) :=
        Token.first_eq_ok_iff.2 (.quoted q.isQuote_quote (untilQuote_append_quote q.quote_not_mem _))
      refine hstep (q.spelling_append u) (isBlank_of_isQuote q.isQuote_quote) (by simpa using hfirst) hu ?_
      simp
      omega
    | @list raw u hraw hu =>
      have hfirst : Token.first here '[' (raw ++ ']' :: (u ++ t)) = .ok (.list raw, u ++ t) :=
        Token.first_eq_ok_iff.2 (.list rfl (untilBracket_closed hraw _ _ _))
      refine hstep rfl rfl (by simpa using hfirst) hu ?_
      simp
      omega

theorem Culprit.not_isSafe {inside after : Text} {c : Char} {error : Nat → ScanError}
    (h : Culprit inside c after error) : ∀ d ∈ (inside ++ c :: after).head?, ¬IsSafe d := by
  have hquoted {quote : Char} (hquote : isQuote quote = true) : ¬IsSafe quote := by
    intro hsafe
    simp [hsafe.1] at hquote
  cases h with
  | string hquote => simpa using hquoted hquote
  | stringInList => simpa using (by decide : ¬IsSafe '[')
  | list => simpa using (by decide : ¬IsSafe '[')
  | bracket => simpa using (by decide : ¬IsSafe ']')

theorem Culprit.scanFrom {inside after : Text} {c : Char} {error : Nat → ScanError}
    (h : Culprit inside c after error) (here : Nat) :
    scanFrom here (inside ++ c :: after) = .error (error (here + byteSize inside)) := by
  cases h with
  | string hquote hnot_mem =>
    refine scanFrom_cons_of_error (isBlank_of_isQuote hquote) ?_
    simp [Token.first, hquote, untilQuote_eq_none_iff.2 hnot_mem]
  | @stringInList raw _ _ hraw hquote hnot_mem =>
    have hne : c ≠ ']' := by
      rintro rfl
      cases hquote
    refine scanFrom_cons_of_error rfl ?_
    show (untilBracket here none (here + 1) (raw ++ c :: after)).map _ = _
    rw [untilBracket_append_of_closed hraw, untilBracket, if_neg (mt And.left hne)]
    simp [quoteAfter, hquote, untilBracket_unended hnot_mem, Except.map, Nat.add_assoc]
    rfl
  | list hafter =>
    refine scanFrom_cons_of_error rfl ?_
    have hlist := untilBracket_append_of_closed hafter here (here + 1) []
    rw [List.append_nil] at hlist
    show (untilBracket here none (here + 1) after).map _ = _
    rw [hlist]
    rfl
  | bracket => exact scanFrom_cons_of_error rfl rfl

/-- A text scans exactly if its quoted runs and lists are whole and no other bracket closes a list. -/
theorem exists_scan_iff {s : Text} : (∃ tokens, scan s = .ok tokens) ↔ Scannable s := by
  constructor
  · rintro ⟨tokens, h⟩
    refine (scannable_or_culprit s).resolve_right ?_
    rintro ⟨opened, inside, c, after, error, rfl, hopened, hc⟩
    obtain ⟨before, hbefore⟩ := exists_scanFrom_append hopened 0 hc.not_isSafe
    rw [scan, hbefore, hc.scanFrom] at h
    cases h
  · intro h
    obtain ⟨tokens, htokens⟩ := exists_scanFrom_append h 0 (t := []) (by simp)
    rw [List.append_nil, scanFrom] at htokens
    exact ⟨tokens ++ [], htokens⟩

/-- Scanning fails exactly if, after a text that scans, a culprit follows; and then the error is that of the culprit, with its offset. A quote has no partner in all that follows it, outside a list or in a list that is open; a list goes on to the end of the text; or a bracket closes no list. -/
theorem scan_eq_error_iff {input : Text} {e : ScanError} :
    scan input = .error e ↔
      ∃ opened inside c after error, input = opened ++ inside ++ c :: after ∧ (∃ tokens, scan opened = .ok tokens) ∧
        Culprit inside c after error ∧ e = error (byteSize (opened ++ inside)) := by
  have hculprit {opened inside after : Text} {c : Char} {error : Nat → ScanError} (hopened : Scannable opened)
      (hc : Culprit inside c after error) :
      scan (opened ++ (inside ++ c :: after)) = .error (error (byteSize (opened ++ inside))) := by
    obtain ⟨tokens, htokens⟩ := exists_scanFrom_append hopened 0 hc.not_isSafe
    rw [scan, htokens, hc.scanFrom, Nat.zero_add, byteSize_append]
    rfl
  constructor
  · intro h
    have hnot : ¬Scannable input := by
      intro hinput
      obtain ⟨tokens, htokens⟩ := exists_scan_iff.2 hinput
      rw [h] at htokens
      cases htokens
    obtain ⟨opened, inside, c, after, error, rfl, hopened, hc⟩ := (scannable_or_culprit input).resolve_left hnot
    rw [hculprit hopened hc] at h
    exact ⟨opened, inside, c, after, error, (List.append_assoc _ _ _).symm, exists_scan_iff.2 hopened, hc,
      (Except.error.inj h).symm⟩
  · rintro ⟨opened, inside, c, after, error, rfl, hopened, hc, rfl⟩
    rw [List.append_assoc]
    exact hculprit (exists_scan_iff.1 hopened) hc

end Roster.Filter
