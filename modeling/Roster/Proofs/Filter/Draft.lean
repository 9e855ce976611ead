import Roster.Proofs.Filter.Step

/-!
# Filters in the middle

What a compilation has understood of a filter after some of its tokens: a tree with a hole at the end. `Draft.state` is the state that belongs to a draft, and `Draft.Next` says how a token continues a draft. The two fit: a compilation takes a token exactly when the draft can be continued by it, and then it holds the state of the continued draft (`step_state`). So whatever is true of the states of all drafts is true of every state of every compilation.
-/

namespace Roster.Filter

open Text

/-- What stands before an operand in its chain: nothing, or a chain and a connective. -/
abbrev Before := Option (Chain × Connective)

namespace Before

def add (x : Operand) : Before → Chain
  | none => .single x
  | some (left, connective) => .join left connective x

def tokens : Before → List Token
  | none => []
  | some (left, connective) => left.tokens ++ [.operator connective.symbol]

def comparisons : Before → List Comparison
  | none => []
  | some (left, _) => left.comparisons

def render (name : Nat → Text) (collation : Text) (n : Nat) : Before → Text
  | none => []
  | some (left, connective) => writeLeft left.last? connective (left.render name collation n)

theorem tokens_add (x : Operand) (before : Before) : (before.add x).tokens = before.tokens ++ x.tokens := by
  rcases before with _ | ⟨left, connective⟩ <;> simp [add, tokens, Chain.tokens]

theorem comparisons_add (x : Operand) (before : Before) :
    (before.add x).comparisons = before.comparisons ++ x.comparisons := by
  rcases before with _ | ⟨left, connective⟩ <;> simp [add, comparisons, Chain.comparisons]

theorem last?_add (x : Operand) (before : Before) : (before.add x).last? = before.map Prod.snd := by
  rcases before with _ | ⟨left, connective⟩ <;> rfl

theorem render_add (name : Nat → Text) (collation : Text) (n : Nat) (x : Operand) (before : Before) :
    (before.add x).render name collation n =
      before.render name collation n ++
        x.render name collation (n + (boundLiterals before.comparisons).length) := by
  rcases before with _ | ⟨left, connective⟩ <;> simp [add, render, comparisons, Chain.render, boundLiterals]

end Before

/-- An open parenthesis: what stands before it in its chain, and its offset in the filter. -/
structure Opening where
  before : Before
  offset : Nat

/-- Where a filter breaks off in the innermost chain. -/
inductive Edge
  | operand (before : Before)
  | operator (before : Before) (column : Text)
  | value (before : Before) (column : Text) (test : TestOperator)
  | complete (chain : Chain)

structure Draft where
  /-- The open parentheses, the innermost first. -/
  openings : List Opening
  edge : Edge

/-! ### Tokens -/

def outerTokens : List Opening → List Token
  | [] => []
  | o :: outer => outerTokens outer ++ o.before.tokens ++ [.leftParen]

def Edge.tokens : Edge → List Token
  | .operand before => before.tokens
  | .operator before column => before.tokens ++ [.word column]
  | .value before column test => before.tokens ++ [.word column, .operator test.symbol]
  | .complete chain => chain.tokens

/-- The tokens that are read. -/
def Draft.tokens (d : Draft) : List Token := outerTokens d.openings ++ d.edge.tokens

namespace Draft

/-- How a token continues a draft. -/
inductive Next : Draft → Located → Draft → Prop
  | openGroup {openings before offset} :
    Next ⟨openings, .operand before⟩ ⟨.leftParen, offset⟩ ⟨⟨before, offset⟩ :: openings, .operand none⟩
  | column {openings before column offset} :
    Next ⟨openings, .operand before⟩ ⟨.word column, offset⟩ ⟨openings, .operator before column⟩
  | operator {openings before column offset} (test : TestOperator) :
    Next ⟨openings, .operator before column⟩ ⟨.operator test.symbol, offset⟩
      ⟨openings, .value before column test⟩
  | value {openings before offset} (c : Comparison) :
    Next ⟨openings, .value before c.column c.operator⟩ ⟨c.value, offset⟩
      ⟨openings, .complete (before.add (.test c))⟩
  | connective {openings chain offset} (connective : Connective) :
    Next ⟨openings, .complete chain⟩ ⟨.operator connective.symbol, offset⟩
      ⟨openings, .operand (some (chain, connective))⟩
  | closeGroup {o openings chain offset} :
    Next ⟨o :: openings, .complete chain⟩ ⟨.rightParen, offset⟩
      ⟨openings, .complete (o.before.add (.group chain))⟩

theorem Next.tokens {d d' : Draft} {t : Located} (h : Next d t d') : d'.tokens = d.tokens ++ [t.token] := by
  cases h <;>
    simp [Draft.tokens, outerTokens, Edge.tokens, Before.tokens, Before.tokens_add, Operand.tokens,
      Comparison.tokens]

theorem Next.deterministic {d d' d'' : Draft} {t : Located} (h : Next d t d') (h' : Next d t d'') : d' = d'' := by
  -- The draft and the token are named apart, so that the second step can be split although its indices are known.
  generalize hd : d = e at h'
  generalize ht : t = u at h'
  cases h with
  | openGroup => cases h' <;> simp_all
  | column => cases h' <;> simp_all
  | operator test =>
    cases h' with
    | operator test' => simp_all [TestOperator.eq_of_symbol (show test.symbol = test'.symbol by simp_all)]
    | _ => simp_all
  | value c =>
    cases h' with
    | value c' => simp_all [Comparison.eq_of_tokens (show c.tokens = c'.tokens by simp_all [Comparison.tokens])]
    | _ => simp_all
  | connective k =>
    cases h' with
    | connective k' => simp_all [Connective.eq_of_symbol (show k.symbol = k'.symbol by simp_all)]
    | _ => simp_all
  | closeGroup => cases h' <;> simp_all

/-- How a sequence of tokens continues a draft. -/
inductive Run : Draft → List Located → Draft → Prop
  | nil {d} : Run d [] d
  | cons {d d' d'' t ts} : Next d t d' → Run d' ts d'' → Run d (t :: ts) d''

theorem Run.tokens {d d' : Draft} {ts : List Located} (h : Run d ts d') :
    d'.tokens = d.tokens ++ ts.map Located.token := by
  induction h with
  | nil => simp
  | cons hnext _ ih => simp [ih, hnext.tokens]

theorem Run.deterministic {d d' d'' : Draft} {ts : List Located} (h : Run d ts d') (h' : Run d ts d'') :
    d' = d'' := by
  induction h with
  | nil => cases h'; rfl
  | cons hnext _ ih =>
    cases h' with
    | cons hnext' hrest => exact ih (hnext.deterministic hnext' ▸ hrest)

theorem Run.append {d d' d'' : Draft} {ts us : List Located} (h : Run d ts d') (h' : Run d' us d'') :
    Run d (ts ++ us) d'' := by
  induction h with
  | nil => exact h'
  | cons hnext _ ih => exact .cons hnext (ih h')

end Draft

/-! ### States -/

def outerComparisons : List Opening → List Comparison
  | [] => []
  | o :: outer => outerComparisons outer ++ o.before.comparisons

/-- What is written before the innermost chain. -/
def outerText (collation : Text) : List Opening → Text
  | [] => []
  | o :: outer =>
    outerText collation outer ++
      o.before.render placeholder collation (boundLiterals (outerComparisons outer)).length ++ ['(']

/-- The group whose contents begin after the given openings. -/
def innerGroup (collation : Text) (openings : List Opening) (pending applied : Option Connective) : Group :=
  ⟨openings.head?.map Opening.offset, byteSize (outerText collation openings), pending, applied⟩

def outerGroups (collation : Text) : List Opening → List Group
  | [] => []
  | o :: outer => innerGroup collation outer none (o.before.map Prod.snd) :: outerGroups collation outer

namespace Edge

def phase : Edge → Phase
  | .operand _ => .operand
  | .operator _ column => .operator column
  | .value _ column test => .value column test.toOperator
  | .complete _ => .connective

/-- The chain that is written. -/
def chain? : Edge → Option Chain
  | .operand before => before.map Prod.fst
  | .operator before _ => before.map Prod.fst
  | .value before _ _ => before.map Prod.fst
  | .complete chain => some chain

/-- The connective that is read and not yet written. -/
def pending? : Edge → Option Connective
  | .operand before => before.map Prod.snd
  | .operator before _ => before.map Prod.snd
  | .value before _ _ => before.map Prod.snd
  | .complete _ => none

def comparisons (edge : Edge) : List Comparison := (edge.chain?.map Chain.comparisons).getD []

def render (collation : Text) (n : Nat) (edge : Edge) : Text :=
  (edge.chain?.map (Chain.render placeholder collation n)).getD []

end Edge

/-- The comparisons that are read to their ends. -/
def Draft.comparisons (d : Draft) : List Comparison := outerComparisons d.openings ++ d.edge.comparisons

/-- The state of a compilation that has understood so much. -/
def Draft.state (collation : Text) (d : Draft) : State where
  phase := d.edge.phase
  groups :=
    innerGroup collation d.openings d.edge.pending? (d.edge.chain?.bind Chain.last?) ::
      outerGroups collation d.openings
  output :=
    outerText collation d.openings ++
      d.edge.render collation (boundLiterals (outerComparisons d.openings)).length
  parameters := parametersFrom 0 (boundLiterals d.comparisons)
  columns := d.comparisons.map Comparison.column

theorem parametersFrom_append (n : Nat) (values rest : List Literal) :
    parametersFrom n (values ++ rest) = parametersFrom n values ++ parametersFrom (n + values.length) rest := by
  simp [parametersFrom, List.mapIdx_append, Nat.add_comm, Nat.add_left_comm]

theorem length_parametersFrom (n : Nat) (values : List Literal) :
    (parametersFrom n values).length = values.length := by
  simp [parametersFrom]

theorem Chain.length_parameters (collation : Text) (e : Chain) :
    (e.compiled collation).parameters.length = (boundLiterals e.comparisons).length :=
  length_parametersFrom 0 _

theorem names_parametersFrom (n : Nat) (values : List Literal) :
    (parametersFrom n values).map Parameter.name = (List.range' n values.length).map placeholder := by
  apply List.ext_getElem <;> simp [parametersFrom]

theorem values_parametersFrom (n : Nat) (values : List Literal) :
    (parametersFrom n values).map Parameter.value = values := by
  apply List.ext_getElem <;> simp [parametersFrom]

/-- The connective that waits is written between what stands before an operand and the operand. -/
theorem State.flush_eq (st : State) (before : Before) {collation text : Text} {n : Nat} {opened : Option Nat}
    {outer : List Group}
    (hgroups : st.groups =
      ⟨opened, byteSize text, before.map Prod.snd, (before.map Prod.fst).bind Chain.last?⟩ :: outer)
    (houtput : st.output =
      text ++ ((before.map Prod.fst).map (Chain.render placeholder collation n)).getD []) :
    st.flush = { st with
      output := text ++ before.render placeholder collation n
      groups := ⟨opened, byteSize text, none, before.map Prod.snd⟩ :: outer } := by
  -- The offset that the group remembers is where `text` ends, so the parenthesis goes in between `text` and the chain.
  obtain ⟨phase, groups, output, parameters, columns⟩ := st
  subst hgroups houtput
  rcases before with _ | ⟨left, connective⟩
  · simp [State.flush, Before.render]
  · simp only [State.flush, Before.render, writeLeft, Option.map_some, Option.bind_some, Option.getD_some]
    split <;> simp

theorem edge_comparisons_of_before (before : Before) (column : Text) (test : TestOperator) :
    (Edge.value before column test).comparisons = before.comparisons := by
  rcases before with _ | ⟨left, connective⟩ <;> rfl

theorem state_openGroup (collation : Text) (openings : List Opening) (before : Before) (offset : Nat) :
    (Draft.state collation ⟨openings, .operand before⟩).openGroup offset =
      Draft.state collation ⟨⟨before, offset⟩ :: openings, .operand none⟩ := by
  rw [State.openGroup, State.flush_eq _ before rfl rfl]
  rcases before with _ | ⟨left, connective⟩ <;>
    simp [Draft.state, Draft.comparisons, Edge.phase, Edge.comparisons, Edge.chain?, Edge.pending?, Edge.render,
      innerGroup, outerGroups, outerText, outerComparisons, Before.comparisons]

theorem state_compare (collation : Text) (openings : List Opening) (before : Before) (c : Comparison) :
    (Draft.state collation ⟨openings, .value before c.column c.operator⟩).compare collation c.column
        c.operator.toOperator c.literals =
      Draft.state collation ⟨openings, .complete (before.add (.test c))⟩ := by
  rw [State.compare, State.flush_eq _ before rfl rfl]
  have hbound (n : Nat) : (c.literals.mapIdx fun i value =>
      (⟨placeholder (n + i), c.operator.rule.prepare value⟩ : Parameter)) = parametersFrom n c.bound := by
    apply List.ext_getElem <;> simp [parametersFrom, Comparison.bound]
  have hcomparisons : (Edge.complete (before.add (.test c))).comparisons = before.comparisons ++ [c] := by
    simp [Edge.comparisons, Edge.chain?, Before.comparisons_add, Operand.comparisons]
  have hlength : (Draft.state collation ⟨openings, .value before c.column c.operator⟩).parameters.length =
      (boundLiterals (outerComparisons openings)).length + (boundLiterals before.comparisons).length := by
    simp [Draft.state, Draft.comparisons, length_parametersFrom, boundLiterals, edge_comparisons_of_before]
  simp only [hbound, hlength, names_parametersFrom]
  simp [Draft.state, Draft.comparisons, hcomparisons, edge_comparisons_of_before, Edge.phase, Edge.chain?,
    Edge.pending?, Edge.render, innerGroup, boundLiterals, parametersFrom_append, Before.render_add,
    Before.last?_add, Operand.render, Comparison.render]

theorem state_closeGroup (collation : Text) (o : Opening) (openings : List Opening) (chain : Chain) :
    (Draft.state collation ⟨o :: openings, .complete chain⟩).closeGroup =
      Draft.state collation ⟨openings, .complete (o.before.add (.group chain))⟩ := by
  simp [Draft.state, State.closeGroup, Draft.comparisons, Edge.phase, Edge.comparisons, Edge.chain?,
    Edge.pending?, Edge.render, innerGroup, outerGroups, outerText, outerComparisons, boundLiterals,
    Before.comparisons_add, Before.last?_add, Before.render_add, Operand.comparisons, Operand.render]

theorem state_setPending (collation : Text) (openings : List Opening) (chain : Chain) (connective : Connective) :
    (Draft.state collation ⟨openings, .complete chain⟩).setPending connective =
      Draft.state collation ⟨openings, .operand (some (chain, connective))⟩ := by
  simp [Draft.state, State.setPending, Draft.comparisons, Edge.phase, Edge.comparisons, Edge.chain?,
    Edge.pending?, Edge.render, innerGroup]

theorem isOutermost_state (collation : Text) (d : Draft) :
    (d.state collation).isOutermost = d.openings.isEmpty := by
  obtain ⟨_ | ⟨o, openings⟩, edge⟩ := d
  · rfl
  · exact decide_eq_false (by simp [Draft.state, outerGroups])

/-- A compilation takes a token exactly if its draft can be continued by it. -/
theorem step_state {collation : Text} {d : Draft} {t : Located} {st : State} :
    State.step collation (d.state collation) t = .ok st ↔
      ∃ d', d.Next t d' ∧ st = d'.state collation := by
  obtain ⟨openings, edge⟩ := d
  obtain ⟨token, offset⟩ := t
  constructor
  · intro h
    cases edge with
    | operand before =>
      rcases (State.step_operand rfl).1 h with ⟨rfl, rfl⟩ | ⟨column, rfl, rfl⟩
      · rw [state_openGroup]
        exact ⟨_, .openGroup, rfl⟩
      · exact ⟨_, .column, rfl⟩
    | operator before column =>
      obtain ⟨symbol, op, rfl, hfind, hrule, rfl⟩ := (State.step_operator rfl).1 h
      obtain ⟨hmem, rfl⟩ := Operator.find?_eq_some_iff.1 hfind
      exact ⟨_, .operator ⟨op, hmem, hrule⟩, rfl⟩
    | value before column test =>
      obtain ⟨values, hvalues, rfl⟩ := (State.step_value rfl).1 h
      let c : Comparison := ⟨column, test, token, values, hvalues⟩
      exact ⟨_, .value c, state_compare collation openings before c⟩
    | complete chain =>
      rcases (State.step_connective rfl).1 h with ⟨rfl, houter, rfl⟩ | ⟨connective, rfl, rfl⟩
      · rw [isOutermost_state] at houter
        obtain ⟨o, outer, rfl⟩ := List.exists_cons_of_ne_nil (List.isEmpty_eq_false_iff.1 houter)
        rw [state_closeGroup]
        exact ⟨_, .closeGroup, rfl⟩
      · rw [state_setPending]
        exact ⟨_, .connective connective, rfl⟩
  · rintro ⟨d', hnext, rfl⟩
    cases hnext with
    | openGroup => exact (State.step_operand rfl).2 (.inl ⟨rfl, (state_openGroup ..).symm⟩)
    | column => exact (State.step_operand rfl).2 (.inr ⟨_, rfl, rfl⟩)
    | operator test =>
      exact (State.step_operator rfl).2 ⟨_, test.toOperator, rfl,
        Operator.find?_eq_some_iff.2 ⟨test.mem_all, rfl⟩, test.connective?_eq_none, rfl⟩
    | value c => exact (State.step_value rfl).2 ⟨_, c.literals?_eq, (state_compare ..).symm⟩
    | connective connective =>
      exact (State.step_connective rfl).2 (.inr ⟨connective, rfl, (state_setPending ..).symm⟩)
    | closeGroup =>
      exact (State.step_connective rfl).2 (.inl ⟨rfl, isOutermost_state .., (state_closeGroup ..).symm⟩)

theorem foldlM_state {collation : Text} {d : Draft} {ts : List Located} {st : State} :
    ts.foldlM (State.step collation) (d.state collation) = .ok st ↔ ∃ d', d.Run ts d' ∧ st = d'.state collation := by
  induction ts generalizing d with
  | nil =>
    constructor
    · intro h
      cases h
      exact ⟨d, .nil, rfl⟩
    · rintro ⟨d', hrun, rfl⟩
      cases hrun
      rfl
  | cons t ts ih =>
    rw [List.foldlM_cons, except_bind_eq_ok]
    constructor
    · rintro ⟨st', hstep, hrest⟩
      obtain ⟨d', hnext, rfl⟩ := step_state.1 hstep
      obtain ⟨d'', hrun, rfl⟩ := ih.1 hrest
      exact ⟨d'', .cons hnext hrun, rfl⟩
    · rintro ⟨d'', hrun, rfl⟩
      cases hrun with
      | cons hnext hrun => exact ⟨_, step_state.2 ⟨_, hnext, rfl⟩, ih.2 ⟨_, hrun, rfl⟩⟩

end Roster.Filter
