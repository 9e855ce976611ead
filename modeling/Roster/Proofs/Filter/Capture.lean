import Roster.Proofs.Filter.Items

/-!
# Lists in filters

A list is looked at twice: once to find the bracket that closes it, and once, without its brackets, to read its items. Both times quotes decide what is text. What the first look takes as a list leaves no quoted run open, and no `]` stands in it outside quoted runs (`closed_of_scan`), so of the faults of a list the second look can find nested brackets only where another `[` stands outside quoted runs, and an unended run nowhere.
-/

namespace Roster.Filter

open Text

/-- The character stands in the text outside quoted runs. -/
def Outside (c : Char) (s : Text) : Prop := ∃ before after, s = before ++ c :: after ∧ Closed (fun _ => True) before

/-! ### The first look -/

theorem closed_of_untilBracket {start here : Nat} {run : Option (Char × Nat)} {read s raw rest : Text}
    (hread : Open (· ≠ ']') (run.map Prod.fst) read) (h : untilBracket start run here s = .ok (raw, rest)) :
    Closed (· ≠ ']') (read ++ raw) := by
  induction s generalizing run here read raw with
  | nil => cases run <;> simp [untilBracket] at h
  | cons c s ih =>
    rw [untilBracket] at h
    split at h
    · rename_i hclose
      cases h
      rw [hclose.2] at hread
      simpa using hread.of_none
    · rename_i hclose
      obtain ⟨⟨x, y⟩, hxy, he⟩ := except_map_eq_ok.1 h
      obtain ⟨rfl, rfl⟩ := Prod.mk.inj he
      have hc : run.map Prod.fst = none → isQuote c = false → c ≠ ']' := by
        intro hrun _ hbracket
        exact hclose ⟨hbracket, Option.map_eq_none_iff.1 hrun⟩
      have hnext := hread.snoc hc
      rw [List.append_cons]
      exact ih (by simpa [Function.comp_def] using hnext) hxy

/-! ### The second look -/

namespace Items

theorem item_ne_error {piece : Text} {fault : ListFault} (h : item piece = .error fault) :
    fault ≠ .unterminatedString ∧ fault ≠ .nestedBrackets := by
  unfold item at h
  split at h
  · cases h
    exact ⟨by simp, by simp⟩
  split at h
  · split at h <;> cases h
    exact ⟨by simp, by simp⟩
  split at h <;> cases h
  exact ⟨by simp, by simp⟩

/-- In a text of which `read` has been read, a run without an end is told if one is open at the end, and nested brackets where a bracket stands outside quoted runs. -/
theorem open_or_outside_of_readFrom {run : Option Char} {piece read s : Text} {fault : ListFault}
    (hread : Open (fun _ => True) run read) (h : readFrom run piece s = .error fault) :
    (fault = .unterminatedString → ∃ quote, Open (fun _ => True) (some quote) (read ++ s)) ∧
      (fault = .nestedBrackets → Outside '[' (read ++ s) ∨ Outside ']' (read ++ s)) := by
  have hnone {piece : Text} {fault : ListFault} {p q : Prop} (h : item piece = .error fault) :
      (fault = .unterminatedString → p) ∧ (fault = .nestedBrackets → q) := by
    obtain ⟨hstring, hbrackets⟩ := item_ne_error h
    exact ⟨fun h => absurd h hstring, fun h => absurd h hbrackets⟩
  fun_induction readFrom run piece s generalizing read with
  | case1 run piece hrun =>
    cases h
    obtain ⟨quote, rfl⟩ := Option.isSome_iff_exists.1 hrun
    exact ⟨fun _ => ⟨quote, by simpa using hread⟩, by simp⟩
  | case2 run piece => exact hnone (except_map_eq_error.1 h)
  | case3 run piece c s _ fault' hitem =>
    cases h
    exact hnone hitem
  | case4 run piece c s hc value _ ih =>
    simp only [Bool.and_eq_true, Option.isNone_iff_eq_none, beq_iff_eq] at hc
    obtain ⟨rfl, rfl⟩ := hc
    have hcomma : Closed (fun _ => True) [','] := .char rfl trivial .nil
    simpa using ih (.closed (hread.of_none.append hcomma)) (except_map_eq_error.1 h)
  | case5 run piece c s hc hbracket =>
    cases h
    simp only [Bool.and_eq_true, Option.isNone_iff_eq_none, Bool.or_eq_true, beq_iff_eq] at hbracket
    obtain ⟨rfl, hbracket⟩ := hbracket
    refine ⟨by simp, fun _ => ?_⟩
    rcases hbracket with rfl | rfl
    · exact .inl ⟨read, s, rfl, hread.of_none⟩
    · exact .inr ⟨read, s, rfl, hread.of_none⟩
  | case6 run piece c s hc hbracket ih =>
    simpa using ih (hread.snoc fun _ _ => trivial) h

end Items

/-! ### Both looks -/

namespace ListFault

/-- The letter that the message starts with. -/
def letter : ListFault → Char
  | .empty => 'l'
  | .nestedBrackets => 'n'
  | .unterminatedString => 'u'
  | .emptyItem => 'e'
  | .malformedItem _ => 'm'
  | .notTaken _ => 'o'

theorem head?_message (fault : ListFault) : fault.message.head? = some fault.letter := by
  cases fault <;> rfl

/-- A message tells its fault. Messages of different kinds start with different letters. -/
theorem message_inj {fault fault' : ListFault} (h : fault.message = fault'.message) : fault = fault' := by
  have hletter := congrArg List.head? h
  rw [head?_message, head?_message, Option.some.injEq] at hletter
  cases fault <;> cases fault' <;> cases hletter
  case malformedItem.malformedItem.refl item item' =>
    have hitem : item = item' := List.append_cancel_left (List.append_cancel_right h)
    rw [hitem]
  case notTaken.notTaken.refl symbol symbol' =>
    have hsymbol : symbol = symbol' := List.append_cancel_left (List.append_cancel_right h)
    rw [hsymbol]
  all_goals rfl

end ListFault

theorem Closed.not_outside {c : Char} {s : Text} (hc : isQuote c = false) (h : Closed (· ≠ c) s) : ¬Outside c s := by
  rintro ⟨before, after, rfl, hbefore⟩
  have hrest := (hbefore.of_append h).2
  exact (hrest.of_cons hc).1 rfl

theorem Open.not_closed {p p' : Char → Prop} {quote : Char} {s : Text} (h : Open p (some quote) s) : ¬Closed p' s := by
  cases h with
  | run hs hquote hnot_mem => exact hs.not_run hquote hnot_mem

/-- What the brackets of a list enclose leaves no quoted run open, and no `]` stands in it outside quoted runs. So reading its items never fails for a run without an end, and for nested brackets only if there is a `[` outside quoted runs. -/
theorem closed_of_scan {input : Text} {tokens : List Located} (h : scan input = .ok tokens) {raw : Text} {offset : Nat}
    (hmem : ⟨.list raw, offset⟩ ∈ tokens) :
    Closed (· ≠ ']') raw ∧
      ∀ fault, Items.read raw = .error fault →
        fault.message ≠ "unterminated string in list".toList ∧
          (fault.message = "nested brackets are not allowed".toList → Outside '[' raw) := by
  obtain ⟨-, c, after, rest, -, -, -, hstarts⟩ := exists_starts_of_scanFrom h _ hmem
  cases hstarts with
  | list _ huntil =>
    have hnil (p : Char → Prop) : Open p none [] := .closed .nil
    have hclosed : Closed (· ≠ ']') ([] ++ raw) := closed_of_untilBracket (hnil _) huntil
    refine ⟨hclosed, ?_⟩
    intro fault hread
    unfold Items.read at hread
    split at hread
    · cases hread
      exact ⟨by decide, fun h => absurd h (by decide)⟩
    obtain ⟨hstring, hbrackets⟩ := Items.open_or_outside_of_readFrom (hnil _) hread
    constructor
    · intro hmessage
      have hfault : fault = .unterminatedString := ListFault.message_inj hmessage
      obtain ⟨quote, hrun⟩ := hstring hfault
      exact hrun.not_closed hclosed
    · intro hmessage
      have hfault : fault = .nestedBrackets := ListFault.message_inj hmessage
      exact (hbrackets hfault).resolve_right (hclosed.not_outside rfl)

/-- Brackets, commas and quotes of one kind in quotes of the other, and a bracket outside of them. -/
theorem closed_of_scan_nested :
    let raw := "']\"' ,\"[',]\", ß[1".toList
    ∃ tokens, scan "Id ^^ [']\"' ,\"[',]\", ß[1] && Id == 1".toList = .ok tokens ∧ ⟨.list raw, 6⟩ ∈ tokens ∧
      Closed (· ≠ ']') raw ∧ Items.read raw = .error .nestedBrackets ∧ Outside '[' raw := by
  intro raw
  let tokens : List Located :=
    [⟨.word "Id".toList, 0⟩, ⟨.operator "^^".toList, 3⟩, ⟨.list raw, 6⟩, ⟨.operator "&&".toList, 27⟩,
      ⟨.word "Id".toList, 30⟩, ⟨.operator "==".toList, 33⟩, ⟨.word "1".toList, 36⟩]
  have h : scan "Id ^^ [']\"' ,\"[',]\", ß[1] && Id == 1".toList = .ok tokens := by decide +kernel
  have hmem : ⟨.list raw, 6⟩ ∈ tokens := by decide
  have hread : Items.read raw = .error .nestedBrackets := by decide +kernel
  obtain ⟨hclosed, hfaults⟩ := closed_of_scan h hmem
  exact ⟨tokens, h, hmem, hclosed, hread, (hfaults _ hread).2 rfl⟩

end Roster.Filter
