import Roster.Proofs.Filter.Chain

/-!
# Steps of a compilation

Which tokens a compilation takes in each phase, and what becomes of its state. All other tokens are refused.
-/

namespace Roster.Filter

open Text

theorem Operator.find?_eq_some_iff {symbol : Text} {op : Operator} :
    Operator.find? symbol = some op ↔ op ∈ Operator.all ∧ op.symbol = symbol := by
  constructor
  · intro h
    exact ⟨mem_all_of_find? h, symbol_of_find? h⟩
  · rintro ⟨hmem, rfl⟩
    revert op
    decide

/-- The connectives have a symbol each. -/
theorem Operator.find?_connective {symbol : Text} {connective : Connective} :
    (∃ op, Operator.find? symbol = some op ∧ op.rule.connective? = some connective) ↔
      symbol = connective.symbol := by
  constructor
  · rintro ⟨op, hfind, hrule⟩
    rw [find?_eq_some_iff] at hfind
    obtain ⟨hmem, rfl⟩ := hfind
    have hsymbol : ∀ op ∈ all, op.rule.connective? = some connective → op.symbol = connective.symbol := by
      cases connective <;> decide
    exact hsymbol op hmem hrule
  · rintro rfl
    exact ⟨⟨connective.symbol, .connective connective⟩, by cases connective <;> decide, rfl⟩

namespace State

variable {collation : Text} {st st' : State} {t : Located}

theorem step_operand (hphase : st.phase = .operand) :
    step collation st t = .ok st' ↔
      (t.token = .leftParen ∧ st' = st.openGroup t.offset) ∨
      ∃ column, t.token = .word column ∧ st' = { st with phase := .operator column } := by
  obtain ⟨token, offset⟩ := t
  cases token with
  | word column => simp [step, hphase, eq_comm]
  | leftParen => simp [step, hphase, eq_comm]
  | rightParen => simp only [step, hphase]; split <;> simp
  | operator symbol => simp only [step, hphase]; split <;> simp
  | quoted text => simp [step, hphase]
  | list raw => simp [step, hphase]

theorem step_operator {column : Text} (hphase : st.phase = .operator column) :
    step collation st t = .ok st' ↔
      ∃ symbol op, t.token = .operator symbol ∧ Operator.find? symbol = some op ∧
        op.rule.connective? = none ∧ st' = { st with phase := .value column op } := by
  obtain ⟨token, offset⟩ := t
  cases token with
  | operator symbol =>
    simp only [step, hphase, operator]
    cases hfind : Operator.find? symbol with
    | none => simp [hfind]
    | some op => cases hrule : op.rule.connective? <;> simp [hfind, hrule, eq_comm]
  | _ => simp [step, hphase]

theorem step_value {column : Text} {op : Operator} (hphase : st.phase = .value column op) :
    step collation st t = .ok st' ↔
      ∃ values, op.rule.literals? t.token = some values ∧ st' = st.compare collation column op values := by
  obtain ⟨token, offset⟩ := t
  cases token with
  | list raw =>
    simp only [step, hphase, Rule.literals?]
    split
    · cases Items.read raw <;> simp [Except.toOption, eq_comm]
    · simp
  | word text => simp only [step, hphase, Rule.literals?]; split <;> simp [eq_comm]
  | quoted text => simp only [step, hphase, Rule.literals?]; split <;> simp [eq_comm]
  | _ => simp [step, hphase, Rule.literals?]

theorem step_connective (hphase : st.phase = .connective) :
    step collation st t = .ok st' ↔
      (t.token = .rightParen ∧ st.isOutermost = false ∧ st' = st.closeGroup) ∨
      ∃ connective : Connective, t.token = .operator connective.symbol ∧ st' = st.setPending connective := by
  obtain ⟨token, offset⟩ := t
  cases token with
  | rightParen => cases houter : st.isOutermost <;> simp [step, hphase, houter, eq_comm]
  | operator symbol =>
    simp only [step, hphase, operator, reduceCtorEq, false_and, false_or, Token.operator.injEq,
      ← Operator.find?_connective]
    cases hfind : Operator.find? symbol with
    | none => simp
    | some op => cases hrule : op.rule.connective? <;> simp [hrule, eq_comm]
  | _ => simp [step, hphase]

end State

end Roster.Filter
