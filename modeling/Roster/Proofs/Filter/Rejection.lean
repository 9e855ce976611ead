import Mathlib.Data.List.Basic
import Roster.Proofs.Filter.Compilation

/-!
# Where a filter is refused

A compilation fails at the earliest token at which failure is certain (`compileTokens_eq_error`). As long as tokens are taken, more tokens could still make a filter of them, whatever was read so far: that every draft can be completed is the heart of the argument. So an error about the end of the input leaves a sequence that can be completed, and any other error is about the first token after which nothing helps.
-/

namespace Roster.Filter

open Text

open Draft (Next Run)

/-! ### Sequences of tokens -/

/-- The tokens are compiled. -/
def Compiles (collation : Text) (ts : List Located) : Prop := ∃ c, compileTokens collation ts = .ok c

/-- More tokens, further on in the text, make a sequence that is compiled. -/
def Completable (collation : Text) (ts : List Located) : Prop :=
  ∃ more, (ts ++ more).Pairwise (fun t u => t.offset < u.offset) ∧ Compiles collation (ts ++ more)

/-- After the tokens an operand may start. -/
def AdmitsOperand (collation : Text) (ts : List Located) : Prop :=
  ∃ (x : Operand) (xs more : List Located), xs.map Located.token = x.tokens ∧ Compiles collation (ts ++ (xs ++ more))

/-- The offsets of the parentheses that are open after a token, given those that were open before it. -/
def openAfter (opened : List Nat) (t : Located) : List Nat :=
  match t.token with
  | .leftParen => t.offset :: opened
  | .rightParen => opened.tail
  | _ => opened

/-- The offsets of the parentheses that are left open, the innermost first. -/
def openParens (ts : List Located) : List Nat := ts.foldl openAfter []

/-- The place that an error is about. -/
def ParseError.position? : ParseError → Option Nat
  | .unknownOperator _ position => some position
  | .unexpectedEnd => none
  | .unbalancedParens position => some position
  | .invalidList position _ => some position
  | .unexpectedToken _ position => some position

/-- Something is missing at the end of the tokens: what has to follow there, or the partner of a parenthesis that stands where an operand may start. -/
def ParseError.IsIncomplete (collation : Text) (tokens : List Located) (e : ParseError) : Prop :=
  e = .unexpectedEnd ∨
    ∃ position before after, e = .unbalancedParens position ∧
      tokens = before ++ ⟨.leftParen, position⟩ :: after ∧ AdmitsOperand collation before

namespace Draft

/-! ### Runs -/

theorem Run.exists_of_append {d d'' : Draft} {ts us : List Located} (h : Run d (ts ++ us) d'') :
    ∃ d', Run d ts d' ∧ Run d' us d'' := by
  induction ts generalizing d with
  | nil => exact ⟨d, .nil, h⟩
  | cons t ts ih =>
    cases h with
    | cons hnext hrest =>
      obtain ⟨d', hrun, hrun'⟩ := ih hrest
      exact ⟨d', .cons hnext hrun, hrun'⟩

/-- The value of a comparison is no parenthesis and no operator. -/
theorem value_cases (c : Comparison) :
    (∃ text, c.value = .word text) ∨ (∃ text, c.value = .quoted text) ∨ ∃ raw, c.value = .list raw := by
  rcases Rule.literals?_eq_some.1 c.literals?_eq with ⟨-, text, h, -⟩ | ⟨-, text, h, -⟩ | ⟨-, raw, h, -⟩
  · exact .inl ⟨text, h⟩
  · exact .inr (.inl ⟨text, h⟩)
  · exact .inr (.inr ⟨raw, h⟩)

theorem Next.openAfter {d d' : Draft} {t : Located} (h : Next d t d') :
    openAfter (d.openings.map Opening.offset) t = d'.openings.map Opening.offset := by
  cases h with
  | value c => rcases value_cases c with ⟨text, hc⟩ | ⟨text, hc⟩ | ⟨raw, hc⟩ <;> simp [Filter.openAfter, hc]
  | _ => rfl

theorem Run.foldl_openAfter {d d' : Draft} {ts : List Located} (h : Run d ts d') :
    ts.foldl Filter.openAfter (d.openings.map Opening.offset) = d'.openings.map Opening.offset := by
  induction h with
  | nil => rfl
  | cons hnext _ ih => rw [List.foldl_cons, hnext.openAfter, ih]

/-- An open parenthesis was read where an operand may start. -/
theorem Run.exists_opening {d d' : Draft} {ts : List Located} (h : Run d ts d') :
    ∀ o ∈ d'.openings, o ∈ d.openings ∨
      ∃ before after openings, ts = before ++ ⟨.leftParen, o.offset⟩ :: after ∧
        Run d before ⟨openings, .operand o.before⟩ := by
  induction h with
  | nil => exact fun o ho => .inl ho
  | @cons d d₁ d' t ts hnext _ ih =>
    intro o ho
    rcases ih o ho with hmem | ⟨before, after, openings, rfl, hrun⟩
    · cases hnext with
      | openGroup =>
        rcases List.mem_cons.1 hmem with rfl | hmem
        · exact .inr ⟨[], ts, _, rfl, .nil⟩
        · exact .inl hmem
      | closeGroup => exact .inl (List.mem_cons_of_mem _ hmem)
      | _ => exact .inl hmem
    · exact .inr ⟨t :: before, after, openings, rfl, .cons hnext hrun⟩

/-! ### Completing drafts -/

theorem exists_comparison (column : Text) (test : TestOperator) :
    ∃ c : Comparison, c.column = column ∧ c.operator = test := by
  cases htakes : test.rule.takesList with
  | false =>
    have hvalue : test.rule.literals? (.quoted []) = some [.str []] := by simp [Rule.literals?, htakes]
    exact ⟨⟨column, test, _, _, hvalue⟩, rfl, rfl⟩
  | true =>
    have hread : Items.read ['\'', '\''] = .ok [.str []] := rfl
    have hvalue : test.rule.literals? (.list ['\'', '\'']) = some [.str []] := by
      simp [Rule.literals?, htakes, hread, Except.toOption]
    exact ⟨⟨column, test, _, _, hvalue⟩, rfl, rfl⟩

def equality : TestOperator := ⟨⟨"==".toList, .relation .eq⟩, by decide, rfl⟩

/-- The draft can be completed by tokens whose offsets increase from `n` on. -/
def CompletableFrom (n : Nat) (d : Draft) : Prop :=
  ∃ ts e, (n :: ts.map Located.offset).IsChain (· < ·) ∧ Run d ts ⟨[], .complete e⟩

theorem Next.completableFrom {d d' : Draft} {n : Nat} {token : Token} (h : Next d ⟨token, n + 1⟩ d')
    (hd' : d'.CompletableFrom (n + 1)) : d.CompletableFrom n := by
  obtain ⟨ts, e, hchain, hrun⟩ := hd'
  exact ⟨⟨token, n + 1⟩ :: ts, e, .cons_cons (Nat.lt_succ_self n) hchain, .cons h hrun⟩

theorem completableFrom_complete (openings : List Opening) (chain : Chain) (n : Nat) :
    CompletableFrom n ⟨openings, .complete chain⟩ := by
  induction openings generalizing chain n with
  | nil => exact ⟨[], chain, .singleton n, .nil⟩
  | cons o openings ih => exact Next.completableFrom .closeGroup (ih _ (n + 1))

theorem completableFrom_value (openings : List Opening) (before : Before) (column : Text) (test : TestOperator)
    (n : Nat) : CompletableFrom n ⟨openings, .value before column test⟩ := by
  obtain ⟨c, rfl, rfl⟩ := exists_comparison column test
  exact Next.completableFrom (.value c) (completableFrom_complete _ _ (n + 1))

theorem completableFrom_operator (openings : List Opening) (before : Before) (column : Text) (n : Nat) :
    CompletableFrom n ⟨openings, .operator before column⟩ :=
  Next.completableFrom (.operator equality) (completableFrom_value _ _ _ _ (n + 1))

/-- Every draft can be completed. -/
theorem completableFrom (d : Draft) (n : Nat) : d.CompletableFrom n := by
  obtain ⟨openings, edge⟩ := d
  cases edge with
  | operand before =>
    exact Next.completableFrom .column (completableFrom_operator openings before ['A'] (n + 1))
  | operator before column => exact completableFrom_operator openings before column n
  | value before column test => exact completableFrom_value openings before column test n
  | complete chain => exact completableFrom_complete openings chain n

end Draft

theorem compiles_iff {collation : Text} {ts : List Located} :
    Compiles collation ts ↔ ∃ e, Run Draft.initial ts ⟨[], .complete e⟩ := by
  constructor
  · rintro ⟨c, hc⟩
    obtain ⟨e, htokens, -⟩ := compileTokens_eq_ok_iff.1 hc
    exact ⟨e, e.run [] htokens.symm⟩
  · rintro ⟨e, hrun⟩
    have htokens : e.tokens = ts.map Located.token := by
      simpa [Draft.tokens, Draft.initial, outerTokens, Edge.tokens, Before.tokens] using hrun.tokens
    exact ⟨_, compileTokens_eq_ok_iff.2 ⟨e, htokens, rfl⟩⟩

section

variable {collation : Text} {ts : List Located} {d : Draft} (hrun : Run Draft.initial ts d)

include hrun

theorem completable_of_run (hoffsets : ts.Pairwise fun t u => t.offset < u.offset) : Completable collation ts := by
  obtain ⟨n, hn⟩ : ∃ n, ∀ t ∈ ts, t.offset ≤ n := by
    clear hrun hoffsets
    induction ts with
    | nil => exact ⟨0, by simp⟩
    | cons t ts ih =>
      obtain ⟨n, hn⟩ := ih
      refine ⟨max t.offset n, ?_⟩
      intro u hu
      rcases List.mem_cons.1 hu with rfl | hu
      · exact Nat.le_max_left _ _
      · exact Nat.le_trans (hn u hu) (Nat.le_max_right _ _)
  obtain ⟨more, e, hchain, hmore⟩ := d.completableFrom n
  obtain ⟨hfirst, hpairwise⟩ := List.pairwise_cons.1 (List.isChain_iff_pairwise.1 hchain)
  refine ⟨more, List.pairwise_append.2 ⟨hoffsets, List.pairwise_map.1 hpairwise, ?_⟩, ?_⟩
  · intro t ht u hu
    exact Nat.lt_of_le_of_lt (hn t ht) (hfirst _ (List.mem_map_of_mem hu))
  · exact compiles_iff.2 ⟨e, hrun.append hmore⟩

theorem admitsOperand_of_run {openings : List Opening} {before : Before} (hd : d = ⟨openings, .operand before⟩) :
    AdmitsOperand collation ts := by
  subst hd
  obtain ⟨c, -, -⟩ := Draft.exists_comparison ['A'] Draft.equality
  let xs : List Located := c.tokens.map fun token => ⟨token, 0⟩
  have hxs : xs.map Located.token = c.tokens := by simp [xs, Function.comp_def]
  obtain ⟨more, e, -, hmore⟩ := Draft.completableFrom ⟨openings, .complete (before.add (.test c))⟩ 0
  exact ⟨.test c, xs, more, hxs, compiles_iff.2 ⟨e, hrun.append ((c.run openings before hxs).append hmore)⟩⟩

end

/-! ### Operands -/

/-- The tokens of an operand are taken only where an operand is expected. -/
theorem operand_of_run {d d' : Draft} {x : Operand} {xs : List Located} (hxs : xs.map Located.token = x.tokens)
    (hrun : Run d xs d') : ∃ before, d.edge = .operand before := by
  cases x with
  | group inner =>
    simp only [Operand.tokens, List.cons_append, List.map_eq_cons_iff] at hxs
    obtain ⟨⟨token, offset⟩, us, rfl, rfl, -⟩ := hxs
    cases hrun with
    | cons hnext _ =>
      generalize ht : (⟨.leftParen, offset⟩ : Located) = t at hnext
      cases hnext with
      | openGroup => exact ⟨_, rfl⟩
      | value c => rcases Draft.value_cases c with ⟨text, hc⟩ | ⟨text, hc⟩ | ⟨raw, hc⟩ <;> simp [hc] at ht
      | _ => simp at ht
  | test c =>
    simp only [Operand.tokens, Comparison.tokens, List.map_eq_cons_iff] at hxs
    obtain ⟨⟨token, offset⟩, us, rfl, rfl, ⟨token', offset'⟩, vs, rfl, rfl, -⟩ := hxs
    cases hrun with
    | cons hnext hrest =>
      generalize ht : (⟨.word c.column, offset⟩ : Located) = t at hnext
      cases hnext with
      | column => exact ⟨_, rfl⟩
      | value c' =>
        -- The word passes for a value, but then no operator follows that tests a column.
        cases hrest with
        | cons hnext' _ =>
          generalize ht' : (⟨.operator c.operator.symbol, offset'⟩ : Located) = t' at hnext'
          cases hnext' with
          | connective k =>
            obtain ⟨op, hfind, hop⟩ := Operator.find?_connective.2 (show c.operator.symbol = k.symbol by simp_all)
            have htest := Operator.find?_eq_some_iff.2 ⟨c.operator.mem_all, rfl⟩
            rw [htest] at hfind
            cases hfind
            rw [c.operator.connective?_eq_none] at hop
            cases hop
          | closeGroup => simp at ht'
      | _ => simp at ht

/-! ### Failures -/

namespace State

theorem operator_eq_error {symbol : Text} {position : Nat} {e : ParseError}
    (h : State.operator symbol position = .error e) : e = .unknownOperator symbol position := by
  unfold State.operator at h
  split at h <;> cases h
  rfl

/-- A token that is not taken is the one that the error is about. -/
theorem position?_of_step {collation : Text} {st : State} {t : Located} {e : ParseError}
    (h : step collation st t = .error e) : e.position? = some t.offset := by
  obtain ⟨token, offset⟩ := t
  cases hphase : st.phase with
  | operand =>
    cases token with
    | rightParen =>
      simp only [step, hphase] at h
      split at h <;> cases h <;> rfl
    | operator symbol =>
      simp only [step, hphase] at h
      split at h <;> cases h
      · rename_i hoperator
        rw [operator_eq_error hoperator]
        rfl
      · rfl
    | _ =>
      simp only [step, hphase] at h
      cases h <;> rfl
  | operator column =>
    cases token with
    | operator symbol =>
      simp only [step, hphase] at h
      split at h
      · rename_i hoperator
        cases h
        rw [operator_eq_error hoperator]
        rfl
      · split at h <;> cases h
        rfl
    | _ =>
      simp only [step, hphase] at h
      cases h
      rfl
  | value column op =>
    cases token with
    | list raw =>
      simp only [step, hphase] at h
      split at h
      · split at h <;> cases h
        rfl
      · cases h
        rfl
    | word text =>
      simp only [step, hphase] at h
      split at h <;> cases h
      rfl
    | quoted text =>
      simp only [step, hphase] at h
      split at h <;> cases h
      rfl
    | _ =>
      simp only [step, hphase] at h
      cases h
      rfl
  | connective =>
    cases token with
    | rightParen =>
      simp only [step, hphase] at h
      split at h <;> cases h
      rfl
    | operator symbol =>
      simp only [step, hphase] at h
      split at h
      · rename_i hoperator
        cases h
        rw [operator_eq_error hoperator]
        rfl
      · split at h <;> cases h
        rfl
    | _ =>
      simp only [step, hphase] at h
      cases h
      rfl

end State

/-- Before the end, a compilation fails at a token that cannot be taken. -/
theorem exists_step_of_foldlM {collation : Text} {d : Draft} {ts : List Located} {e : ParseError}
    (h : ts.foldlM (State.step collation) (d.state collation) = .error e) :
    ∃ before t after d', ts = before ++ t :: after ∧ Run d before d' ∧
      State.step collation (d'.state collation) t = .error e := by
  induction ts generalizing d with
  | nil => cases h
  | cons t ts ih =>
    rw [List.foldlM_cons, except_bind_eq_error] at h
    rcases h with hstep | ⟨st, hstep, hrest⟩
    · exact ⟨[], t, ts, d, rfl, .nil, hstep⟩
    · obtain ⟨d₁, hnext, rfl⟩ := step_state.1 hstep
      obtain ⟨before, u, after, d', rfl, hrun, hfail⟩ := ih hrest
      exact ⟨t :: before, u, after, d', rfl, .cons hnext hrun, hfail⟩

theorem finish_state_eq_error {collation : Text} {d : Draft} {e : ParseError}
    (h : (d.state collation).finish = .error e) :
    e = .unexpectedEnd ∨ ∃ o, d.openings.head? = some o ∧ e = .unbalancedParens o.offset := by
  obtain ⟨openings, edge⟩ := d
  cases edge with
  | complete chain =>
    cases openings with
    | nil => simp [State.finish, Draft.state, Edge.phase, innerGroup] at h
    | cons o outer =>
      right
      simpa [State.finish, Draft.state, Edge.phase, innerGroup, eq_comm] using h
  | _ =>
    left
    simpa [State.finish, Draft.state, Edge.phase, eq_comm] using h

/-- A token that is not taken cannot be followed by anything that helps. -/
theorem not_compiles_of_step {collation : Text} {before : List Located} {t : Located} {d : Draft} {e : ParseError}
    (hrun : Run Draft.initial before d) (hstep : State.step collation (d.state collation) t = .error e)
    (more : List Located) : ¬ Compiles collation (before ++ t :: more) := by
  intro hcompiles
  obtain ⟨chain, hall⟩ := compiles_iff.1 hcompiles
  obtain ⟨d', hbefore, hrest⟩ := hall.exists_of_append
  obtain rfl := hrun.deterministic hbefore
  cases hrest with
  | cons hnext _ =>
    have htaken : State.step collation (d.state collation) t = .ok _ := step_state.2 ⟨_, hnext, rfl⟩
    rw [hstep] at htaken
    cases htaken

/-- A parenthesis that is not taken does not stand where an operand may start. -/
theorem not_admitsOperand_of_step {collation : Text} {before : List Located} {d : Draft} {position : Nat}
    {e : ParseError} (hrun : Run Draft.initial before d)
    (hstep : State.step collation (d.state collation) ⟨.leftParen, position⟩ = .error e) :
    ¬ AdmitsOperand collation before := by
  rintro ⟨x, xs, more, hxs, hcompiles⟩
  obtain ⟨chain, hall⟩ := compiles_iff.1 hcompiles
  obtain ⟨d', hbefore, hrest⟩ := hall.exists_of_append
  obtain rfl := hrun.deterministic hbefore
  obtain ⟨d'', hoperand, -⟩ := hrest.exists_of_append
  obtain ⟨before', hedge⟩ := operand_of_run hxs hoperand
  have hphase : (d.state collation).phase = .operand := by
    rw [Draft.state, hedge]
    rfl
  have htaken : State.step collation (d.state collation) ⟨.leftParen, position⟩ = .ok _ :=
    (State.step_operand hphase).2 (.inl ⟨rfl, rfl⟩)
  rw [hstep] at htaken
  cases htaken

/-- Tokens at increasing offsets are told apart by their offsets. -/
theorem eq_of_offset_eq {before before' after after' : List Located} {t t' : Located}
    (hoffsets : (before ++ t :: after).Pairwise fun t u => t.offset < u.offset)
    (h : before ++ t :: after = before' ++ t' :: after') (hoffset : t.offset = t'.offset) :
    before = before' ∧ t = t' := by
  induction before generalizing before' with
  | nil =>
    cases before' with
    | nil => exact ⟨rfl, (List.cons.inj h).1⟩
    | cons u before' =>
      obtain ⟨rfl, hafter⟩ := List.cons.inj h
      have hlt := (List.pairwise_cons.1 hoffsets).1 t' (by simp [hafter])
      omega
  | cons u before ih =>
    cases before' with
    | nil =>
      obtain ⟨rfl, -⟩ := List.cons.inj h
      have hlt := (List.pairwise_cons.1 hoffsets).1 t (by simp)
      omega
    | cons u' before' =>
      obtain ⟨rfl, hrest⟩ := List.cons.inj h
      obtain ⟨rfl, rfl⟩ := ih (List.pairwise_cons.1 hoffsets).2 hrest
      exact ⟨rfl, rfl⟩

/-- If what an error misses is missing at the end, then the tokens can be completed, and a parenthesis that misses its partner is the innermost one that is open. Any other error is about a token: those before it can be completed, but no longer with this token after them. -/
theorem compileTokens_eq_error {collation : Text} {tokens : List Located} {e : ParseError}
    (hoffsets : tokens.Pairwise fun t u => t.offset < u.offset) (h : compileTokens collation tokens = .error e) :
    (e.IsIncomplete collation tokens →
      Completable collation tokens ∧
        ∀ position, e = .unbalancedParens position → (openParens tokens).head? = some position) ∧
    (¬ e.IsIncomplete collation tokens →
      ∃ before t after, tokens = before ++ t :: after ∧ e.position? = some t.offset ∧ Completable collation before ∧
        ∀ more, ¬ Compiles collation (before ++ t :: more)) := by
  rw [compileTokens, ← state_initial, except_bind_eq_error] at h
  rcases h with hfold | ⟨st, hfold, hfinish⟩
  · obtain ⟨before, t, after, d, rfl, hrun, hstep⟩ := exists_step_of_foldlM hfold
    have hposition := State.position?_of_step hstep
    have hcomplete : ¬ e.IsIncomplete collation (before ++ t :: after) := by
      rintro (rfl | ⟨position, before', after', rfl, htokens, hadmits⟩)
      · cases hposition
      · have hoffset : t.offset = position := (Option.some.inj hposition).symm
        obtain ⟨rfl, rfl⟩ := eq_of_offset_eq hoffsets htokens hoffset
        exact not_admitsOperand_of_step hrun hstep hadmits
    refine ⟨fun hincomplete => absurd hincomplete hcomplete, fun _ => ?_⟩
    exact ⟨before, t, after, rfl, hposition, completable_of_run hrun (List.pairwise_append.1 hoffsets).1,
      not_compiles_of_step hrun hstep⟩
  · obtain ⟨d, hrun, rfl⟩ := foldlM_state.1 hfold
    have hopen : openParens tokens = d.openings.map Opening.offset := hrun.foldl_openAfter
    have hincomplete : e.IsIncomplete collation tokens ∧
        ∀ position, e = .unbalancedParens position → (openParens tokens).head? = some position := by
      rcases finish_state_eq_error hfinish with rfl | ⟨o, ho, rfl⟩
      · refine ⟨.inl rfl, ?_⟩
        intro position hposition
        cases hposition
      · constructor
        · rcases hrun.exists_opening o (List.mem_of_head? ho) with hinitial | ⟨before, after, openings, htokens, hbefore⟩
          · cases hinitial
          · exact .inr ⟨o.offset, before, after, rfl, htokens, admitsOperand_of_run hbefore rfl⟩
        · intro position hposition
          cases hposition
          rw [hopen, List.head?_map, ho]
          rfl
    refine ⟨fun _ => ⟨completable_of_run hrun hoffsets, hincomplete.2⟩, fun hcomplete => ?_⟩
    exact absurd hincomplete.1 hcomplete

/-- Two parentheses that are left open, and an operator in the place of a column. -/
theorem compileTokens_eq_error_open :
    let column (s : String) (offset : Nat) : List Located :=
      [⟨.word s.toList, offset⟩, ⟨.operator "==".toList, offset + 2⟩, ⟨.word ['1'], offset + 5⟩]
    let start : List Located := ⟨.leftParen, 0⟩ :: column "A" 1 ++ [⟨.operator "&&".toList, 8⟩]
    let opened : List Located := start ++ ⟨.leftParen, 11⟩ :: column "B" 12
    let refused : List Located := start ++ [⟨.operator "!=".toList, 11⟩, ⟨.rightParen, 13⟩]
    compileTokens [] opened = .error (.unbalancedParens 11) ∧ Completable [] opened ∧
      (openParens opened).head? = some 11 ∧
      compileTokens [] refused = .error (.unexpectedToken (.operator "!=".toList) 11) ∧
      ∃ before t after, refused = before ++ t :: after ∧ t.offset = 11 ∧ Completable [] before ∧
        ∀ more, ¬ Compiles [] (before ++ t :: more) := by
  intro column start opened refused
  have hopened : compileTokens [] opened = .error (.unbalancedParens 11) := by decide +kernel
  have hrefused : compileTokens [] refused = .error (.unexpectedToken (.operator "!=".toList) 11) := by decide +kernel
  have hadmits : AdmitsOperand [] start := by
    let c : Comparison := ⟨"B".toList, Draft.equality, .word ['1'], [.ofWord ['1']], rfl⟩
    let compiled : Compiled :=
      ⟨"(A = @p0 AND B = @p1)".toList, parametersFrom 0 [.int 1, .int 1], ["A".toList, "B".toList]⟩
    exact ⟨.test c, column "B" 12, [⟨.rightParen, 18⟩], by decide, compiled, by decide +kernel⟩
  have hincomplete : (ParseError.unbalancedParens 11).IsIncomplete [] opened :=
    .inr ⟨11, start, column "B" 12, rfl, rfl, hadmits⟩
  obtain ⟨hcompletable, hposition⟩ := (compileTokens_eq_error (by decide) hopened).1 hincomplete
  have hother : ¬ (ParseError.unexpectedToken (.operator "!=".toList) 11).IsIncomplete [] refused := by
    simp [ParseError.IsIncomplete]
  obtain ⟨before, t, after, htokens, ht, hbefore, hmore⟩ := (compileTokens_eq_error (by decide) hrefused).2 hother
  exact ⟨hopened, hcompletable, hposition 11 rfl, hrefused, before, t, after, htokens, (Option.some.inj ht).symm,
    hbefore, hmore⟩

end Roster.Filter
