import Roster.Proofs.Filter.Rejection

/-!
# What is wrong with a token

A token that cannot stand in its place is refused with an error that tells what is wrong with it. Which error is due depends on the place and on the token (`Draft.Prescribes`). Compilations go by this, but for two faults that they do not tell from others (`blames_of_compileTokens`): an unknown operator where a value has to stand, and a `)` without its partner right after a column.
-/

namespace Roster.Filter

open Text

open Draft (Run)

namespace Draft

/-- The error that is due when the token follows the draft. -/
inductive Prescribes : Draft → Located → ParseError → Prop
  /-- An operator that does not exist, wherever it stands. -/
  | unknownOperator {d symbol offset} (h : Operator.find? symbol = none) :
    Prescribes d ⟨.operator symbol, offset⟩ (.unknownOperator symbol offset)
  /-- A parenthesis in the place of a value. -/
  | openAsValue {openings before column test offset} :
    Prescribes ⟨openings, .value before column test⟩ ⟨.leftParen, offset⟩ (.unbalancedParens offset)
  | closeAsValue {openings before column test offset} :
    Prescribes ⟨openings, .value before column test⟩ ⟨.rightParen, offset⟩ (.unbalancedParens offset)
  /-- A parenthesis is closed, and none is open. -/
  | unmatched {edge offset} : Prescribes ⟨[], edge⟩ ⟨.rightParen, offset⟩ (.unbalancedParens offset)
  /-- A list after an operator that takes one value. -/
  | listForScalar {openings before column test raw offset} (h : test.rule.takesList = false) :
    Prescribes ⟨openings, .value before column test⟩ ⟨.list raw, offset⟩
      (.invalidList offset (.notTaken test.symbol))
  | malformedList {openings before column test raw offset fault} (h : test.rule.takesList = true)
    (hraw : Items.read raw = .error fault) :
    Prescribes ⟨openings, .value before column test⟩ ⟨.list raw, offset⟩ (.invalidList offset fault)
  /-- One value after an operator that takes a list. -/
  | wordForList {openings before column test text offset} (h : test.rule.takesList = true) :
    Prescribes ⟨openings, .value before column test⟩ ⟨.word text, offset⟩ (.unexpectedToken (.word text) offset)
  | quotedForList {openings before column test text offset} (h : test.rule.takesList = true) :
    Prescribes ⟨openings, .value before column test⟩ ⟨.quoted text, offset⟩ (.unexpectedToken (.quoted text) offset)
  /-- A connective or the operator of a test where an operand has to stand. -/
  | operatorAsOperand {openings before symbol op offset} (h : Operator.find? symbol = some op) :
    Prescribes ⟨openings, .operand before⟩ ⟨.operator symbol, offset⟩ (.unexpectedToken (.operator symbol) offset)
  /-- A group is closed where an operand has to stand in it. -/
  | closeAsOperand {o openings before offset} :
    Prescribes ⟨o :: openings, .operand before⟩ ⟨.rightParen, offset⟩ (.unexpectedToken .rightParen offset)
  | quotedColumn {openings before text offset} :
    Prescribes ⟨openings, .operand before⟩ ⟨.quoted text, offset⟩ (.unexpectedToken (.quoted text) offset)
  /-- An operand where a connective has to stand. -/
  | groupAsConnective {openings chain offset} :
    Prescribes ⟨openings, .complete chain⟩ ⟨.leftParen, offset⟩ (.unexpectedToken .leftParen offset)
  | columnAsConnective {openings chain column offset} :
    Prescribes ⟨openings, .complete chain⟩ ⟨.word column, offset⟩ (.unexpectedToken (.word column) offset)

/-- The faults that are not told from others. -/
inductive Overlooks : Draft → Located → Prop
  | unknownValue {openings before column test symbol offset} (h : Operator.find? symbol = none) :
    Overlooks ⟨openings, .value before column test⟩ ⟨.operator symbol, offset⟩
  | unmatchedOperator {before column offset} : Overlooks ⟨[], .operator before column⟩ ⟨.rightParen, offset⟩

theorem Prescribes.unique {d : Draft} {t : Located} {e e' : ParseError} (h : d.Prescribes t e)
    (h' : d.Prescribes t e') : e = e' := by
  cases h <;> cases h' <;> simp_all

/-- The token is refused with the error that is due. If its fault is overlooked, or if no error is due, it is unexpected. -/
structure Blames (d : Draft) (t : Located) (e : ParseError) : Prop where
  prescribed : ¬ d.Overlooks t → ∀ e', d.Prescribes t e' → e = e'
  overlooked : d.Overlooks t → e = .unexpectedToken t.token t.offset
  otherwise : (∀ e', ¬ d.Prescribes t e') → e = .unexpectedToken t.token t.offset

theorem Prescribes.blames {d : Draft} {t : Located} {e : ParseError} (h : d.Prescribes t e) (hnot : ¬ d.Overlooks t) :
    d.Blames t e :=
  ⟨fun _ _ h' => h.unique h', fun ho => absurd ho hnot, fun hnone => absurd h (hnone e)⟩

theorem blames_unexpected {d : Draft} {t : Located} (h : d.Overlooks t ∨ ∀ e, ¬ d.Prescribes t e) :
    d.Blames t (.unexpectedToken t.token t.offset) := by
  refine ⟨?_, fun _ => rfl, fun _ => rfl⟩
  intro hnot e he
  rcases h with ho | hnone
  · exact absurd ho hnot
  · exact absurd he (hnone e)

/-- An operator that exists is unexpected wherever it is not taken. -/
theorem blames_known {d : Draft} {symbol : Text} {op : Operator} {offset : Nat} (h : Operator.find? symbol = some op) :
    d.Blames ⟨.operator symbol, offset⟩ (.unexpectedToken (.operator symbol) offset) := by
  refine ⟨fun _ e he => ?_, fun _ => rfl, fun _ => rfl⟩
  cases he with
  | unknownOperator hnone => simp [h] at hnone
  | operatorAsOperand => rfl

section

variable {collation : Text} {openings : List Opening} {t : Located} {e : ParseError}

theorem operator_of_none {symbol : Text} {offset : Nat} (h : Operator.find? symbol = none) :
    State.operator symbol offset = .error (.unknownOperator symbol offset) := by
  rw [State.operator, h]

theorem operator_of_some {symbol : Text} {offset : Nat} {op : Operator} (h : Operator.find? symbol = some op) :
    State.operator symbol offset = .ok op := by
  rw [State.operator, h]

theorem blames_operand {before : Before}
    (h : State.step collation (Draft.state collation ⟨openings, .operand before⟩) t = .error e) :
    Draft.Blames ⟨openings, .operand before⟩ t e := by
  have hphase : (Draft.state collation ⟨openings, .operand before⟩).phase = .operand := rfl
  have houtermost := isOutermost_state collation ⟨openings, .operand before⟩
  obtain ⟨token, offset⟩ := t
  cases token with
  | leftParen =>
    simp only [State.step, hphase] at h
    cases h
  | rightParen =>
    simp only [State.step, hphase, houtermost] at h
    cases openings with
    | nil =>
      cases h
      exact Prescribes.unmatched.blames (by rintro ⟨⟩)
    | cons o openings =>
      cases h
      exact Prescribes.closeAsOperand.blames (by rintro ⟨⟩)
  | operator symbol =>
    cases hfind : Operator.find? symbol with
    | none =>
      simp only [State.step, hphase, operator_of_none hfind] at h
      cases h
      exact (Prescribes.unknownOperator hfind).blames (by rintro ⟨⟩)
    | some op =>
      simp only [State.step, hphase, operator_of_some hfind] at h
      cases h
      exact blames_known hfind
  | word column =>
    simp only [State.step, hphase] at h
    cases h
  | quoted text =>
    simp only [State.step, hphase] at h
    cases h
    exact Prescribes.quotedColumn.blames (by rintro ⟨⟩)
  | list raw =>
    simp only [State.step, hphase] at h
    cases h
    exact blames_unexpected (.inr (by rintro _ ⟨⟩))

theorem blames_operator {before : Before} {column : Text}
    (h : State.step collation (Draft.state collation ⟨openings, .operator before column⟩) t = .error e) :
    Draft.Blames ⟨openings, .operator before column⟩ t e := by
  have hphase : (Draft.state collation ⟨openings, .operator before column⟩).phase = .operator column := rfl
  obtain ⟨token, offset⟩ := t
  cases token with
  | rightParen =>
    simp only [State.step, hphase] at h
    cases h
    cases openings with
    | nil => exact blames_unexpected (.inl .unmatchedOperator)
    | cons o openings => exact blames_unexpected (.inr (by rintro _ ⟨⟩))
  | operator symbol =>
    cases hfind : Operator.find? symbol with
    | none =>
      simp only [State.step, hphase, operator_of_none hfind] at h
      cases h
      exact (Prescribes.unknownOperator hfind).blames (by rintro ⟨⟩)
    | some op =>
      simp only [State.step, hphase, operator_of_some hfind] at h
      split at h <;> cases h
      exact blames_known hfind
  | _ =>
    simp only [State.step, hphase] at h
    cases h
    exact blames_unexpected (.inr (by rintro _ ⟨⟩))

theorem blames_value {before : Before} {column : Text} {test : TestOperator}
    (h : State.step collation (Draft.state collation ⟨openings, .value before column test⟩) t = .error e) :
    Draft.Blames ⟨openings, .value before column test⟩ t e := by
  have hphase : (Draft.state collation ⟨openings, .value before column test⟩).phase = .value column test.toOperator := rfl
  obtain ⟨token, offset⟩ := t
  cases token with
  | leftParen =>
    simp only [State.step, hphase] at h
    cases h
    exact Prescribes.openAsValue.blames (by rintro ⟨⟩)
  | rightParen =>
    simp only [State.step, hphase] at h
    cases h
    exact Prescribes.closeAsValue.blames (by rintro ⟨⟩)
  | operator symbol =>
    simp only [State.step, hphase] at h
    cases h
    cases hfind : Operator.find? symbol with
    | none => exact blames_unexpected (.inl (.unknownValue hfind))
    | some op => exact blames_known hfind
  | list raw =>
    cases htakes : test.rule.takesList with
    | false =>
      simp only [State.step, hphase, htakes] at h
      cases h
      exact (Prescribes.listForScalar htakes).blames (by rintro ⟨⟩)
    | true =>
      simp only [State.step, hphase, htakes, if_true] at h
      cases hread : Items.read raw with
      | ok items => simp [hread] at h
      | error fault =>
        simp only [hread] at h
        cases h
        exact (Prescribes.malformedList htakes hread).blames (by rintro ⟨⟩)
  | word text =>
    simp only [State.step, hphase] at h
    split at h <;> cases h
    rename_i htakes
    exact (Prescribes.wordForList htakes).blames (by rintro ⟨⟩)
  | quoted text =>
    simp only [State.step, hphase] at h
    split at h <;> cases h
    rename_i htakes
    exact (Prescribes.quotedForList htakes).blames (by rintro ⟨⟩)

theorem blames_connective {chain : Chain}
    (h : State.step collation (Draft.state collation ⟨openings, .complete chain⟩) t = .error e) :
    Draft.Blames ⟨openings, .complete chain⟩ t e := by
  have hphase : (Draft.state collation ⟨openings, .complete chain⟩).phase = .connective := rfl
  have houtermost := isOutermost_state collation ⟨openings, .complete chain⟩
  obtain ⟨token, offset⟩ := t
  cases token with
  | leftParen =>
    simp only [State.step, hphase] at h
    cases h
    exact Prescribes.groupAsConnective.blames (by rintro ⟨⟩)
  | rightParen =>
    simp only [State.step, hphase, houtermost] at h
    cases openings with
    | nil =>
      cases h
      exact Prescribes.unmatched.blames (by rintro ⟨⟩)
    | cons o openings => cases h
  | operator symbol =>
    cases hfind : Operator.find? symbol with
    | none =>
      simp only [State.step, hphase, operator_of_none hfind] at h
      cases h
      exact (Prescribes.unknownOperator hfind).blames (by rintro ⟨⟩)
    | some op =>
      simp only [State.step, hphase, operator_of_some hfind] at h
      split at h <;> cases h
      exact blames_known hfind
  | word column =>
    simp only [State.step, hphase] at h
    cases h
    exact Prescribes.columnAsConnective.blames (by rintro ⟨⟩)
  | _ =>
    simp only [State.step, hphase] at h
    cases h
    exact blames_unexpected (.inr (by rintro _ ⟨⟩))

end

theorem blames_of_step {collation : Text} {d : Draft} {t : Located} {e : ParseError}
    (h : State.step collation (d.state collation) t = .error e) : d.Blames t e := by
  obtain ⟨openings, edge⟩ := d
  cases edge with
  | operand before => exact blames_operand h
  | operator before column => exact blames_operator h
  | value before column test => exact blames_value h
  | complete chain => exact blames_connective h

end Draft

/-- Tokens that are not compiled lack something at their end, or one of them cannot stand in its place, and the error is that which this token is to blame for. -/
theorem blames_of_compileTokens {collation : Text} {tokens : List Located} {e : ParseError}
    (h : compileTokens collation tokens = .error e) :
    (∃ d, Run Draft.initial tokens d ∧
        (e = .unexpectedEnd ∨ ∃ o, d.openings.head? = some o ∧ e = .unbalancedParens o.offset)) ∨
      ∃ before t after d, tokens = before ++ t :: after ∧ Run Draft.initial before d ∧ (∀ d', ¬ d.Next t d') ∧
        d.Blames t e := by
  rw [compileTokens, ← state_initial, except_bind_eq_error] at h
  rcases h with hfold | ⟨st, hfold, hfinish⟩
  · obtain ⟨before, t, after, d, rfl, hrun, hstep⟩ := exists_step_of_foldlM hfold
    refine .inr ⟨before, t, after, d, rfl, hrun, ?_, Draft.blames_of_step hstep⟩
    intro d' hnext
    have htaken : State.step collation (d.state collation) t = .ok _ := step_state.2 ⟨d', hnext, rfl⟩
    rw [hstep] at htaken
    cases htaken
  · obtain ⟨d, hrun, rfl⟩ := foldlM_state.1 hfold
    exact .inl ⟨d, hrun, finish_state_eq_error hfinish⟩

/-- A group that is closed after a connective, and an operator that does not exist. -/
theorem blames_of_compileTokens_group :
    let group : List Located :=
      [⟨.leftParen, 0⟩, ⟨.word ['A'], 1⟩, ⟨.operator "==".toList, 3⟩, ⟨.word ['1'], 6⟩, ⟨.operator "&&".toList, 8⟩,
        ⟨.rightParen, 10⟩]
    let unknown : List Located := [⟨.word ['A'], 0⟩, ⟨.operator "#==".toList, 2⟩, ⟨.word ['1'], 6⟩]
    (∃ before t after d, group = before ++ t :: after ∧ Run Draft.initial before d ∧ (∀ d', ¬ d.Next t d') ∧
        d.Blames t (.unexpectedToken .rightParen 10)) ∧
      ∃ before t after d, unknown = before ++ t :: after ∧ Run Draft.initial before d ∧ (∀ d', ¬ d.Next t d') ∧
        d.Blames t (.unknownOperator "#==".toList 2) := by
  intro group unknown
  have hgroup : compileTokens [] group = .error (.unexpectedToken .rightParen 10) := by decide +kernel
  have hunknown : compileTokens [] unknown = .error (.unknownOperator "#==".toList 2) := by decide +kernel
  constructor
  · rcases blames_of_compileTokens hgroup with ⟨d, -, hend | ⟨o, -, hopen⟩⟩ | htoken
    · cases hend
    · cases hopen
    · exact htoken
  · rcases blames_of_compileTokens hunknown with ⟨d, -, hend | ⟨o, -, hopen⟩⟩ | htoken
    · cases hend
    · cases hopen
    · exact htoken

/-- An operator that does not exist, in the place of a value. It is not told from one that does. -/
theorem compileTokens_unknown_value :
    let before : List Located := [⟨.word ['A'], 0⟩, ⟨.operator "==".toList, 2⟩]
    let t : Located := ⟨.operator "=~".toList, 5⟩
    ∃ d, Run Draft.initial before d ∧ d.Prescribes t (.unknownOperator "=~".toList 5) ∧
      compileTokens [] (before ++ [t]) = .error (.unexpectedToken (.operator "=~".toList) 5) := by
  intro before t
  let test : TestOperator := Draft.equality
  have hrun : Run Draft.initial before ⟨[], .value none ['A'] test⟩ :=
    .cons .column (.cons (.operator test) .nil)
  exact ⟨_, hrun, .unknownOperator (by decide), by decide +kernel⟩

end Roster.Filter
