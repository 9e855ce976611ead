import Mathlib.Data.List.Basic
import Roster.Proofs.Filter.Scan

/-!
# Scanning side by side

A blank or a bracket ends every token that is open before it, except quoted runs and lists, which have ends of their own. So a text that scans by itself has the same tokens when a blank or a bracket follows it, and what follows is scanned as if it stood alone (`scanFrom_append`). Where a text starts makes no difference but to offsets (`scanFrom_shift`). So texts with blanks between them are scanned one by one (`scan_append_blanks`).
-/

namespace Roster.Filter

open Text

def isBoundary (c : Char) : Bool := isBlank c || isBracket c

theorem not_isOperatorChar_of_isBoundary {c : Char} (h : isBoundary c = true) : isOperatorChar c = false := by
  have hall : (['=', '<', '>', '!', '&', '|', '_', '@', '^', '~', '$', '#'].all fun d => !isBoundary d) = true := by
    decide
  cases hoperator : isOperatorChar c with
  | false => rfl
  | true => simpa [h] using List.all_eq_true.1 hall c (List.contains_iff_mem.1 hoperator)

/-! ### Runs -/

theorem untilQuote_append {quote : Char} {s text rest : Text} (h : untilQuote quote s = some (text, rest)) (t : Text) :
    untilQuote quote (s ++ t) = some (text, rest ++ t) := by
  induction s generalizing text with
  | nil => cases h
  | cons c s ih =>
    rw [untilQuote] at h
    rw [List.cons_append, untilQuote]
    split at h
    · rename_i hc
      cases h
      rw [if_pos hc]
    · rename_i hc
      obtain ⟨⟨x, y⟩, hxy, he⟩ := Option.map_eq_some_iff.1 h
      obtain ⟨rfl, rfl⟩ := Prod.mk.inj he
      rw [if_neg hc, ih hxy]
      rfl

theorem untilBracket_append {start here : Nat} {run : Option (Char × Nat)} {s raw rest : Text}
    (h : untilBracket start run here s = .ok (raw, rest)) (t : Text) :
    untilBracket start run here (s ++ t) = .ok (raw, rest ++ t) := by
  induction s generalizing run here raw with
  | nil => cases run <;> simp [untilBracket] at h
  | cons c s ih =>
    rw [untilBracket] at h
    rw [List.cons_append, untilBracket]
    split at h
    · rename_i hc
      cases h
      rw [if_pos hc]
    · rename_i hc
      obtain ⟨⟨x, y⟩, hxy, he⟩ := except_map_eq_ok.1 h
      obtain ⟨rfl, rfl⟩ := Prod.mk.inj he
      rw [if_neg hc]
      exact except_map_eq_ok.2 ⟨_, ih hxy, rfl⟩

section

variable {c : Char} (hc : isBoundary c = true)

include hc

theorem operatorTail_boundary (s t : Text) :
    operatorTail (s ++ c :: t) = ((operatorTail s).1, (operatorTail s).2 ++ c :: t) := by
  have hoperator := not_isOperatorChar_of_isBoundary hc
  have hstart (s : Text) : startsWith isOperatorChar (s ++ c :: t) = startsWith isOperatorChar s := by
    cases s with
    | nil => exact hoperator
    | cons d s => rfl
  have hminus : (c == '-') = false := by
    rw [beq_eq_false_iff_ne]
    rintro rfl
    exact absurd hc (by decide)
  induction s with
  | nil => simp [operatorTail, hoperator, hminus]
  | cons d s ih =>
    rw [List.cons_append, operatorTail, operatorTail, hstart, ih]
    split <;> rfl

theorem endsWord_boundary (last d : Char) (s t : Text) : endsWord last d (s ++ c :: t) = endsWord last d s := by
  have hcontinues : continuesWord (s ++ c :: t) = continuesWord s := by
    cases s with
    | nil =>
      simp only [isBoundary, Bool.or_eq_true] at hc
      rcases hc with hc | hc <;> simp [continuesWord, hc]
    | cons d s => rfl
  rw [endsWord, endsWord, hcontinues]

theorem wordTail_boundary (last : Char) (s t : Text) :
    wordTail last (s ++ c :: t) = ((wordTail last s).1, (wordTail last s).2 ++ c :: t) := by
  induction s generalizing last with
  | nil =>
    have hends : endsWord last c t = true := by
      simp only [isBoundary, Bool.or_eq_true] at hc
      rcases hc with hc | hc <;> simp [endsWord, hc]
    show wordTail last (c :: t) = ([], c :: t)
    rw [wordTail, if_pos hends]
  | cons d s ih =>
    rw [List.cons_append, wordTail, wordTail, endsWord_boundary hc, ih]
    split <;> rfl

theorem Token.first_boundary {offset : Nat} {d : Char} {s rest : Text} {token : Token}
    (h : Token.first offset d s = .ok (token, rest)) (t : Text) :
    Token.first offset d (s ++ c :: t) = .ok (token, rest ++ c :: t) := by
  rw [Token.first_eq_ok_iff] at h ⊢
  cases h with
  | quoted hquote htext => exact .quoted hquote (untilQuote_append htext _)
  | leftParen hd => exact .leftParen hd
  | rightParen hd => exact .rightParen hd
  | list hd hraw => exact .list hd (untilBracket_append hraw _)
  | operator hquote hbracket hoperator =>
    have hstarts : Token.Starts offset d (s ++ c :: t) _ _ := .operator hquote hbracket hoperator
    rwa [operatorTail_boundary hc] at hstarts
  | word hquote hbracket hoperator =>
    have hstarts : Token.Starts offset d (s ++ c :: t) _ _ := .word hquote hbracket hoperator
    rwa [wordTail_boundary hc] at hstarts

end

/-! ### Texts -/

theorem scanFrom_cons_blank {c : Char} (h : isBlank c = true) (here : Nat) (s : Text) :
    scanFrom here (c :: s) = scanFrom (here + c.utf8Size) s := by
  rw [scanFrom, if_pos h]

theorem scanFrom_cons_of_first {here : Nat} {c : Char} {s rest : Text} {token : Token} (hc : isBlank c = false)
    (h : Token.first here c s = .ok (token, rest)) :
    scanFrom here (c :: s) = (scanFrom (here + token.extent) rest).map (⟨token, here⟩ :: ·) := by
  rw [scanFrom, if_neg (by simp [hc])]
  split
  · simp_all
  · rename_i htoken
    rw [h] at htoken
    cases htoken
    rfl

theorem scanFrom_cons_of_error {here : Nat} {c : Char} {s : Text} {e : ScanError} (hc : isBlank c = false)
    (h : Token.first here c s = .error e) : scanFrom here (c :: s) = .error e := by
  rw [scanFrom, if_neg (by simp [hc])]
  split
  · rename_i herror
    rw [h] at herror
    cases herror
    rfl
  · simp_all

/-- A text that scans is scanned alike before a blank or a bracket, from which scanning goes on. -/
theorem scanFrom_append {here : Nat} {s : Text} {tokens : List Located} (h : scanFrom here s = .ok tokens) {c : Char}
    (hc : isBoundary c = true) (t : Text) :
    scanFrom here (s ++ c :: t) = (scanFrom (here + byteSize s) (c :: t)).map (tokens ++ ·) := by
  fun_induction scanFrom here s generalizing tokens with
  | case1 here =>
    cases h
    rw [List.nil_append, byteSize_nil, Nat.add_zero]
    cases scanFrom here (c :: t) <;> rfl
  | case2 here d s hblank ih =>
    rw [List.cons_append, scanFrom_cons_blank hblank, ih h, byteSize_cons, Nat.add_assoc]
  | case3 => cases h
  | case4 here d s hblank token rest hfirst _ ih =>
    obtain ⟨ts, hts, rfl⟩ := except_map_eq_ok.1 h
    rw [List.cons_append, scanFrom_cons_of_first (by simpa using hblank) (Token.first_boundary hc hfirst t), ih hts,
      Token.byteSize_of_first hfirst, Nat.add_assoc]
    cases scanFrom (here + (token.extent + byteSize rest)) (c :: t) <;> rfl

/-! ### Offsets -/

/-- The token `n` bytes further on. -/
def Located.shift (n : Nat) (t : Located) : Located := ⟨t.token, t.offset + n⟩

/-- The error `n` bytes further on. -/
def ScanError.shift (n : Nat) : ScanError → ScanError
  | .unterminatedString offset => .unterminatedString (offset + n)
  | .unterminatedList offset => .unterminatedList (offset + n)
  | .unexpectedCharacter c offset => .unexpectedCharacter c (offset + n)

theorem untilBracket_shift (n start here : Nat) (run : Option (Char × Nat)) (s : Text) :
    untilBracket (start + n) (run.map (Prod.map id (· + n))) (here + n) s =
      (untilBracket start run here s).mapError (ScanError.shift n) := by
  induction s generalizing run here with
  | nil => cases run <;> rfl
  | cons c s ih =>
    by_cases hclose : c = ']' ∧ run = none
    · obtain ⟨rfl, rfl⟩ := hclose
      rfl
    · have hclose' : ¬(c = ']' ∧ run.map (Prod.map id (· + n)) = none) := by simpa using hclose
      have hfst : (run.map (Prod.map id (· + n))).map Prod.fst = run.map Prod.fst := by cases run <;> rfl
      have hsnd : ((run.map (Prod.map id (· + n))).map Prod.snd).getD (here + n) =
          (run.map Prod.snd).getD here + n := by cases run <;> rfl
      -- The run that is open after `c` was opened here, or it is the one that was open before.
      have hrun : (quoteAfter (run.map Prod.fst) c).map (fun quote => (quote, (run.map Prod.snd).getD here + n)) =
          ((quoteAfter (run.map Prod.fst) c).map fun quote => (quote, (run.map Prod.snd).getD here)).map
            (Prod.map id (· + n)) := by
        rw [Option.map_map]
        rfl
      rw [untilBracket, untilBracket, if_neg hclose', if_neg hclose]
      simp only [hfst, hsnd, hrun, Nat.add_right_comm here n, ih]
      cases untilBracket start _ (here + c.utf8Size) s <;> rfl

theorem Token.first_shift (n offset : Nat) (c : Char) (s : Text) :
    Token.first (offset + n) c s = (Token.first offset c s).mapError (ScanError.shift n) := by
  unfold Token.first
  split
  · split <;> rfl
  split
  · rfl
  split
  · rfl
  split
  · have hbracket := untilBracket_shift n offset (offset + 1) none s
    rw [Nat.add_right_comm]
    refine (congrArg (Except.map (Prod.map Token.list id)) hbracket).trans ?_
    cases untilBracket offset none (offset + 1) s <;> rfl
  split
  · rfl
  split <;> rfl

/-- A text that starts further on has the same tokens, and the same error, further on. -/
theorem scanFrom_shift (n here : Nat) (s : Text) :
    scanFrom (here + n) s =
      ((scanFrom here s).map (List.map (Located.shift n))).mapError (ScanError.shift n) := by
  fun_induction scanFrom here s with
  | case1 here => rw [scanFrom]; rfl
  | case2 here c s hblank ih => rw [scanFrom_cons_blank hblank, Nat.add_right_comm, ih]
  | case3 here c s hblank e hfirst =>
    have hshift := Token.first_shift n here c s
    rw [hfirst] at hshift
    rw [scanFrom_cons_of_error (by simpa using hblank) hshift]
    rfl
  | case4 here c s hblank token rest hfirst _ ih =>
    have hshift := Token.first_shift n here c s
    rw [hfirst] at hshift
    rw [scanFrom_cons_of_first (by simpa using hblank) hshift, Nat.add_right_comm, ih]
    cases scanFrom (here + token.extent) rest <;> rfl

/-! ### Blanks between texts -/

theorem scanFrom_blanks_append {blanks : Text} (h : ∀ c ∈ blanks, isBlank c = true) (here : Nat) (s : Text) :
    scanFrom here (blanks ++ s) = scanFrom (here + byteSize blanks) s := by
  induction blanks generalizing here with
  | nil => rfl
  | cons c blanks ih =>
    have hrest : ∀ d ∈ blanks, isBlank d = true := fun d hd => h d (List.mem_cons_of_mem _ hd)
    rw [List.cons_append, scanFrom_cons_blank (h c List.mem_cons_self), ih hrest, byteSize_cons, Nat.add_assoc]

theorem scan_append_eq {s blanks : Text} {tokens : List Located} (h : scan s = .ok tokens) (hne : blanks ≠ [])
    (hblank : ∀ c ∈ blanks, isBlank c = true) (t : Text) :
    scan (s ++ blanks ++ t) =
      (((scan t).map (List.map (Located.shift (byteSize (s ++ blanks))))).mapError
        (ScanError.shift (byteSize (s ++ blanks)))).map (tokens ++ ·) := by
  have hstart : scan (s ++ blanks ++ t) = (scanFrom (byteSize (s ++ blanks)) t).map (tokens ++ ·) := by
    obtain ⟨c, rest, rfl⟩ := List.exists_cons_of_ne_nil hne
    have hboundary : isBoundary c = true := by simp [isBoundary, hblank c List.mem_cons_self]
    rw [scan, List.append_assoc, List.cons_append, scanFrom_append h hboundary, ← List.cons_append,
      scanFrom_blanks_append hblank, Nat.zero_add, byteSize_append]
  have hshift := scanFrom_shift (byteSize (s ++ blanks)) 0 t
  rw [Nat.zero_add] at hshift
  rw [hstart, hshift, scan]

/-- Two texts with a blank between them have the tokens of both. -/
theorem exists_scan_append {s t : Text} {ts us : List Located} (hs : scan s = .ok ts) (ht : scan t = .ok us) :
    ∃ tokens, scan (s ++ ' ' :: t) = .ok tokens ∧
      tokens.map Located.token = ts.map Located.token ++ us.map Located.token := by
  have hblank : ∀ c ∈ [' '], isBlank c = true := List.all_eq_true.1 (by decide)
  have happend := scan_append_eq hs (List.cons_ne_nil ' ' []) hblank t
  rw [ht, List.append_assoc, List.singleton_append] at happend
  refine ⟨_, happend, ?_⟩
  simp [Located.shift, Function.comp_def]

/-- Two texts with blanks between them are scanned one by one. The tokens of the second text follow those of the first, and its error, if it has one, is that of the whole; both stand as many bytes further on as there are before the second text. -/
theorem scan_append_blanks {s blanks : Text} {tokens : List Located} (h : scan s = .ok tokens) (hne : blanks ≠ [])
    (hblank : ∀ c ∈ blanks, isBlank c = true) (t : Text) :
    (∀ next, scan t = .ok next →
        scan (s ++ blanks ++ t) = .ok (tokens ++ next.map (Located.shift (byteSize (s ++ blanks))))) ∧
      ∀ e, scan t = .error e → scan (s ++ blanks ++ t) = .error (e.shift (byteSize (s ++ blanks))) := by
  have happend := scan_append_eq h hne hblank t
  constructor
  · intro next hnext
    rw [happend, hnext]
    rfl
  · intro e he
    rw [happend, he]
    rfl

/-- Without the blanks the first text would run into the second; and an error in a list. -/
theorem scan_append_blanks_operator :
    let s := "ß_ >".toList
    let blanks := "\u3000\t".toList
    ∃ tokens next : List Located, scan s = .ok tokens ∧ scan "-=5_".toList = .ok next ∧
      tokens.map Located.offset = [0, 4] ∧
      next.map Located.token = [.word "-".toList, .operator "=".toList, .word "5_".toList] ∧
      scan (s ++ blanks ++ "-=5_".toList) = .ok (tokens ++ next.map (Located.shift 9)) ∧
      scan (s ++ blanks ++ "x ^^ [1, 'ß".toList) = .error (.unterminatedString 18) := by
  intro s blanks
  let tokens : List Located := [⟨.word "ß_".toList, 0⟩, ⟨.operator ">".toList, 4⟩]
  let next : List Located := [⟨.word "-".toList, 0⟩, ⟨.operator "=".toList, 1⟩, ⟨.word "5_".toList, 2⟩]
  have h : scan s = .ok tokens := by decide +kernel
  have hnext : scan "-=5_".toList = .ok next := by decide +kernel
  have herror : scan "x ^^ [1, 'ß".toList = .error (.unterminatedString 9) := by decide +kernel
  have hne : blanks ≠ [] := by decide
  have hblank : ∀ c ∈ blanks, isBlank c = true := List.all_eq_true.1 (by decide)
  have hok := (scan_append_blanks h hne hblank _).1 next hnext
  have herror' := (scan_append_blanks h hne hblank _).2 _ herror
  have hsize : byteSize (s ++ blanks) = 9 := by decide +kernel
  rw [hsize] at hok herror'
  exact ⟨tokens, next, h, hnext, rfl, rfl, hok, herror'⟩

end Roster.Filter
