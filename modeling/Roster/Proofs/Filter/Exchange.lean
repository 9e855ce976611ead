import Roster.Proofs.Filter.Source
import Roster.Proofs.Filter.Span

/-!
# Filters that differ in their values

Values are bound and never written, so a filter with other values has the same condition and the same columns (`compile_of_sameButValues`). The second filter has a tree of its own. It is built along the tree of the first one, comparison by comparison, and what is written for a comparison asks for the number of its literals only.
-/

namespace Roster.Filter

open Text

def Token.isScalar : Token → Bool
  | .word _ => true
  | .quoted _ => true
  | _ => false

/-- One value may stand for the other: both are single values, or both are lists with the same number of items. -/
inductive Token.SameKind : Token → Token → Prop
  | scalar {v w : Token} (hv : v.isScalar = true) (hw : w.isScalar = true) : SameKind v w
  | list {raw raw' : Text} {items items' : List Literal} (hraw : Items.read raw = .ok items)
    (hraw' : Items.read raw' = .ok items') (hlength : items.length = items'.length) : SameKind (.list raw) (.list raw')

/-- The two sequences agree but for values, which stand after an operator after a column. -/
inductive SameButValues : List Token → List Token → Prop
  | nil : SameButValues [] []
  | token (t : Token) {ts us : List Token} (rest : SameButValues ts us) : SameButValues (t :: ts) (t :: us)
  | value {column symbol : Text} {v w : Token} {ts us : List Token} (htest : ∃ op : TestOperator, op.symbol = symbol)
    (hkind : v.SameKind w) (rest : SameButValues ts us) :
    SameButValues (.word column :: .operator symbol :: v :: ts) (.word column :: .operator symbol :: w :: us)

/-! ### Comparisons -/

theorem Comparison.exists_of_sameKind (c : Comparison) {w : Token} (h : c.value.SameKind w) :
    ∃ d : Comparison, d.column = c.column ∧ d.operator = c.operator ∧ d.value = w ∧
      d.literals.length = c.literals.length := by
  obtain ⟨column, operator, value, literals, hliterals⟩ := c
  obtain ⟨literals', hliterals', hlength⟩ :
      ∃ literals', operator.rule.literals? w = some literals' ∧ literals'.length = literals.length := by
    cases h with
    | scalar hv hw =>
      rcases Rule.literals?_eq_some.1 hliterals with ⟨hone, text, rfl, rfl⟩ | ⟨hone, text, rfl, rfl⟩ | ⟨-, raw, rfl, -⟩
      · cases w <;> simp_all [Rule.literals?, Token.isScalar]
      · cases w <;> simp_all [Rule.literals?, Token.isScalar]
      · cases hv
    | @list raw raw' items items' hraw hraw' hcount =>
      rcases Rule.literals?_eq_some.1 hliterals with ⟨-, text, he, -⟩ | ⟨-, text, he, -⟩ | ⟨hmany, raw'', he, hread⟩
      · cases he
      · cases he
      · cases he
        cases hraw.symm.trans hread
        exact ⟨items', Rule.literals?_eq_some.2 (.inr (.inr ⟨hmany, raw', rfl, hraw'⟩)), hcount.symm⟩
  exact ⟨⟨column, operator, w, literals', hliterals'⟩, rfl, rfl, rfl, hlength⟩

/-- The tokens do not go on with an operator that tests a column. -/
def NoTest (ts : List Token) : Prop := ∀ op : TestOperator, ts.head? ≠ some (.operator op.symbol)

theorem TestOperator.symbol_ne (op : TestOperator) (k : Connective) : k.symbol ≠ op.symbol := by
  have hall : ∀ op ∈ Operator.all, op.rule.connective? = none →
      op.symbol ≠ Connective.and.symbol ∧ op.symbol ≠ Connective.or.symbol := by decide
  have hne := hall _ op.mem_all op.connective?_eq_none
  cases k with
  | and => exact hne.1.symm
  | or => exact hne.2.symm

theorem noTest_connective (k : Connective) (ts : List Token) : NoTest (.operator k.symbol :: ts) := by
  intro op h
  exact op.symbol_ne k (Token.operator.inj (Option.some.inj h))

namespace SameButValues

variable {ts us : List Token}

theorem eq_nil (h : SameButValues [] us) : us = [] := by
  cases h
  rfl

/-- A token that is no word is kept. -/
theorem exists_of_cons {t : Token} (ht : ∀ text, t ≠ .word text) (h : SameButValues (t :: ts) us) :
    ∃ us', us = t :: us' ∧ SameButValues ts us' := by
  cases h with
  | token _ rest => exact ⟨_, rfl, rest⟩
  | value => exact absurd rfl (ht _)

/-- A token is kept if it is not tested. -/
theorem exists_of_noTest {t : Token} (hts : NoTest ts) (h : SameButValues (t :: ts) us) :
    ∃ us', us = t :: us' ∧ SameButValues ts us' := by
  cases h with
  | token _ rest => exact ⟨_, rfl, rest⟩
  | value htest =>
    obtain ⟨op, rfl⟩ := htest
    exact absurd rfl (hts op)

/-- Of a comparison that no other one runs into, the column and the operator are kept. -/
theorem exists_of_comparison {c : Comparison} (hts : NoTest ts) (h : SameButValues (c.tokens ++ ts) us) :
    ∃ (d : Comparison) (us' : List Token), us = d.tokens ++ us' ∧ SameButValues ts us' ∧ d.column = c.column ∧
      d.operator = c.operator ∧ d.literals.length = c.literals.length := by
  cases h with
  | token _ h =>
    obtain ⟨us₁, rfl, hvalue⟩ := h.exists_of_cons (by simp)
    obtain ⟨us₂, rfl, hrest⟩ := exists_of_noTest hts hvalue
    exact ⟨c, us₂, rfl, hrest, rfl, rfl, rfl⟩
  | value _ hkind h =>
    obtain ⟨d, hcolumn, hoperator, rfl, hlength⟩ := c.exists_of_sameKind hkind
    refine ⟨d, _, ?_, h, hcolumn, hoperator, hlength⟩
    simp [Comparison.tokens, hcolumn, hoperator]

end SameButValues

/-! ### Trees -/

/-- What is written for the two chains is the same, and they have as many literals. -/
structure Chain.Alike (e e' : Chain) : Prop where
  last? : e'.last? = e.last?
  render : ∀ name collation n, e'.render name collation n = e.render name collation n
  columns : e'.comparisons.map Comparison.column = e.comparisons.map Comparison.column
  length : (boundLiterals e'.comparisons).length = (boundLiterals e.comparisons).length

/-- What is written for the two operands is the same, and they have as many literals. -/
structure Operand.Alike (x x' : Operand) : Prop where
  render : ∀ name collation n, x'.render name collation n = x.render name collation n
  columns : x'.comparisons.map Comparison.column = x.comparisons.map Comparison.column
  length : (boundLiterals x'.comparisons).length = (boundLiterals x.comparisons).length

theorem Operand.Alike.single {x x' : Operand} (h : x.Alike x') : (Chain.single x).Alike (.single x') :=
  ⟨rfl, h.render, h.columns, h.length⟩

theorem Chain.Alike.group {e e' : Chain} (h : e.Alike e') : (Operand.group e).Alike (.group e') where
  render name collation n := by rw [Operand.render, Operand.render, h.render]
  columns := h.columns
  length := h.length

theorem Chain.Alike.join {e e' : Chain} {x x' : Operand} (he : e.Alike e') (k : Connective) (hx : x.Alike x') :
    (Chain.join e k x).Alike (.join e' k x') where
  last? := rfl
  render name collation n := by rw [Chain.render, Chain.render, he.last?, he.render, he.length, hx.render]
  columns := by
    rw [Chain.comparisons, Chain.comparisons, List.map_append, List.map_append, he.columns, hx.columns]
  length := by
    rw [Chain.comparisons, Chain.comparisons, boundLiterals_append, boundLiterals_append, List.length_append,
      List.length_append, he.length, hx.length]

theorem Comparison.alike {c d : Comparison} (hcolumn : d.column = c.column) (hoperator : d.operator = c.operator)
    (hlength : d.literals.length = c.literals.length) : (Operand.test c).Alike (.test d) := by
  have hbound : d.bound.length = c.bound.length := by
    rw [Comparison.bound, Comparison.bound, List.length_map, List.length_map, hlength]
  constructor
  · intro name collation n
    rw [Operand.render, Operand.render, Comparison.render, Comparison.render, hcolumn, hoperator, hbound]
  · simp [Operand.comparisons, hcolumn]
  · simpa [Operand.comparisons, boundLiterals] using hbound

mutual

/-- Other values make another chain, for which the same is written. -/
theorem Chain.exists_alike (e : Chain) {ts us : List Token} (hts : NoTest ts)
    (h : SameButValues (e.tokens ++ ts) us) :
    ∃ e' us', us = e'.tokens ++ us' ∧ SameButValues ts us' ∧ e.Alike e' := by
  match e with
  | .single x =>
    obtain ⟨x', us', hus, hrest, hx⟩ := x.exists_alike hts h
    exact ⟨.single x', us', hus, hrest, hx.single⟩
  | .join left k right =>
    rw [Chain.tokens, List.append_assoc, List.cons_append] at h
    obtain ⟨left', _, rfl, hafter, hleft⟩ := left.exists_alike (noTest_connective k _) h
    obtain ⟨_, rfl, hoperand⟩ := hafter.exists_of_cons (by simp)
    obtain ⟨right', us', rfl, hrest, hright⟩ := right.exists_alike hts hoperand
    exact ⟨.join left' k right', us', by simp [Chain.tokens], hrest, hleft.join k hright⟩

theorem Operand.exists_alike (x : Operand) {ts us : List Token} (hts : NoTest ts)
    (h : SameButValues (x.tokens ++ ts) us) :
    ∃ x' us', us = x'.tokens ++ us' ∧ SameButValues ts us' ∧ x.Alike x' := by
  match x with
  | .test c =>
    obtain ⟨d, us', hus, hrest, hcolumn, hoperator, hlength⟩ := SameButValues.exists_of_comparison hts h
    exact ⟨.test d, us', hus, hrest, Comparison.alike hcolumn hoperator hlength⟩
  | .group inner =>
    rw [Operand.tokens, List.cons_append, List.cons_append, List.append_assoc] at h
    have hclose : NoTest ([.rightParen] ++ ts) := nofun
    obtain ⟨_, rfl, hcontents⟩ := h.exists_of_cons (by simp)
    obtain ⟨inner', _, rfl, hafter, hinner⟩ := inner.exists_alike hclose hcontents
    obtain ⟨us', rfl, hrest⟩ := hafter.exists_of_cons (by simp)
    exact ⟨.group inner', us', by simp [Operand.tokens], hrest, hinner.group⟩

end

/-! ### Filters -/

/-- A filter that differs from a compiled one in values only is compiled too, if it is not too long. The condition, the columns and the names of the parameters are the same. -/
theorem compile_of_sameButValues {options : Options} {input other : Text} {tokens tokens' : List Located} {c : Compiled}
    (h : compile options input = .ok c) (hscan : scan input = .ok tokens) (hscan' : scan other = .ok tokens')
    (hsame : SameButValues (tokens.map Located.token) (tokens'.map Located.token))
    (hlength : byteSize other ≤ options.maxLength) :
    ∃ d, compile options other = .ok d ∧ d.sql = c.sql ∧ d.columns = c.columns ∧
      d.parameters.map Parameter.name = c.parameters.map Parameter.name := by
  obtain ⟨-, source, hsource, rfl⟩ := compile_eq_ok_iff.1 h
  cases hsource with
  | blank hblank =>
    have hnil : scan input = .ok [] := scanFrom_blank hblank
    cases hscan.symm.trans hnil
    obtain rfl : tokens' = [] := List.map_eq_nil_iff.1 hsame.eq_nil
    have hblank' := (laid_of_scanFrom hscan').isBlank_of_nil
    exact ⟨_, compile_eq_ok_iff.2 ⟨hlength, none, .blank hblank', rfl⟩, rfl, rfl, rfl⟩
  | @chain e _ hscan₁ htokens =>
    cases hscan.symm.trans hscan₁
    rw [← htokens, ← List.append_nil e.tokens] at hsame
    have hend : NoTest [] := nofun
    obtain ⟨e', us', hus, hrest, halike⟩ := e.exists_alike hend hsame
    rw [hrest.eq_nil, List.append_nil] at hus
    refine ⟨_, compile_eq_ok_iff.2 ⟨hlength, some e', .chain hscan' hus.symm, rfl⟩, ?_, halike.columns, ?_⟩
    · exact halike.render placeholder options.collation 0
    · show (parametersFrom 0 _).map Parameter.name = (parametersFrom 0 _).map Parameter.name
      rw [names_parametersFrom, names_parametersFrom, halike.length]

/-- Values of all kinds, some of which look like SQL, like placeholders, or like brackets. -/
theorem compile_of_sameButValues_injected :
    let input := "Name == x && (Id ^^ [1, 2] || Email @= 'y')".toList
    let other := "Name == \"x' OR 1 = 1 --\" && (Id ^^ ['@p3', \"]\"] || Email @= ?1)".toList
    ∃ c d, compile ⟨"NOCASE".toList, 4096⟩ input = .ok c ∧ compile ⟨"NOCASE".toList, 4096⟩ other = .ok d ∧
      c.sql = "Name = @p0 AND (Id IN (@p1, @p2) OR Email LIKE @p3 COLLATE NOCASE)".toList ∧ d.sql = c.sql ∧
      d.columns = c.columns ∧ d.parameters.map Parameter.name = c.parameters.map Parameter.name := by
  intro input other
  let values (name list text : Token) : List Token :=
    [.word "Name".toList, .operator "==".toList, name, .operator "&&".toList, .leftParen, .word "Id".toList,
      .operator "^^".toList, list, .operator "||".toList, .word "Email".toList, .operator "@=".toList, text, .rightParen]
  let tokens : List Token := values (.word "x".toList) (.list "1, 2".toList) (.quoted "y".toList)
  let tokens' : List Token :=
    values (.quoted "x' OR 1 = 1 --".toList) (.list "'@p3', \"]\"".toList) (.word "?1".toList)
  let c : Compiled :=
    ⟨"Name = @p0 AND (Id IN (@p1, @p2) OR Email LIKE @p3 COLLATE NOCASE)".toList,
      parametersFrom 0 [.raw "x".toList, .int 1, .int 2, .str "%y%".toList],
      ["Name".toList, "Id".toList, "Email".toList]⟩
  have h : compile ⟨"NOCASE".toList, 4096⟩ input = .ok c := by decide +kernel
  have hscan : (scan input).map (List.map Located.token) = .ok tokens := by decide +kernel
  have hscan' : (scan other).map (List.map Located.token) = .ok tokens' := by decide +kernel
  obtain ⟨located, hlocated, htokens⟩ := except_map_eq_ok.1 hscan
  obtain ⟨located', hlocated', htokens'⟩ := except_map_eq_ok.1 hscan'
  have hequal : ∃ op : TestOperator, op.symbol = "==".toList := ⟨⟨⟨_, .relation .eq⟩, by decide, rfl⟩, rfl⟩
  have hmember : ∃ op : TestOperator, op.symbol = "^^".toList := ⟨⟨⟨_, .member false⟩, by decide, rfl⟩, rfl⟩
  have hcontains : ∃ op : TestOperator, op.symbol = "@=".toList :=
    ⟨⟨⟨_, .like false .anywhere⟩, by decide, rfl⟩, rfl⟩
  have hitems : Items.read "1, 2".toList = .ok [.int 1, .int 2] := by decide +kernel
  have hitems' : Items.read "'@p3', \"]\"".toList = .ok [.str "@p3".toList, .str "]".toList] := by decide +kernel
  have hsame : SameButValues tokens tokens' :=
    .value hequal (.scalar rfl rfl) <| .token _ <| .token _ <| .value hmember (.list hitems hitems' rfl) <| .token _ <|
      .value hcontains (.scalar rfl rfl) <| .token _ .nil
  obtain ⟨d, hd, hsql, hcolumns, hnames⟩ :=
    compile_of_sameButValues h hlocated hlocated' (htokens ▸ htokens' ▸ hsame) (by decide +kernel)
  exact ⟨c, d, h, hd, rfl, hsql, hcolumns, hnames⟩

end Roster.Filter
