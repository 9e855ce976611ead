import Roster.Proofs.Filter.Draft

/-!
# Compiling trees

A sequence of tokens is compiled exactly if a tree is spelled by it, and then that tree is written: the single pass over the tokens does what a recursion over the tree does (`compileTokens_eq_ok_iff`). One direction runs a compilation along a tree, the other reads the tree off the draft with which a compilation ends.
-/

namespace Roster.Filter

open Text

open Draft (Next Run)

/-! ### Running along a tree -/

theorem Comparison.run (c : Comparison) (openings : List Opening) (before : Before) {ts : List Located}
    (h : ts.map Located.token = c.tokens) :
    Run ⟨openings, .operand before⟩ ts ⟨openings, .complete (before.add (.test c))⟩ := by
  simp only [Comparison.tokens, List.map_eq_cons_iff, List.map_eq_nil_iff] at h
  obtain ⟨⟨_, _⟩, _, rfl, rfl, ⟨_, _⟩, _, rfl, rfl, ⟨_, _⟩, _, rfl, rfl, rfl⟩ := h
  exact .cons .column (.cons (.operator c.operator) (.cons (.value c) .nil))

mutual

theorem Chain.run (e : Chain) (openings : List Opening) {ts : List Located}
    (h : ts.map Located.token = e.tokens) :
    Run ⟨openings, .operand none⟩ ts ⟨openings, .complete e⟩ := by
  match e with
  | .single x => exact x.run openings none h
  | .join left connective right =>
    simp only [Chain.tokens, List.map_eq_append_iff, List.map_eq_cons_iff] at h
    obtain ⟨us, _, rfl, hleft, ⟨_, _⟩, vs, rfl, rfl, hright⟩ := h
    have hrest := right.run openings (some (left, connective)) hright
    exact (left.run openings hleft).append (.cons (.connective connective) hrest)

theorem Operand.run (x : Operand) (openings : List Opening) (before : Before) {ts : List Located}
    (h : ts.map Located.token = x.tokens) :
    Run ⟨openings, .operand before⟩ ts ⟨openings, .complete (before.add x)⟩ := by
  match x with
  | .test c => exact c.run openings before h
  | .group inner =>
    simp only [Operand.tokens, List.cons_append, List.map_eq_cons_iff, List.map_eq_append_iff,
      List.map_eq_nil_iff] at h
    obtain ⟨⟨_, offset⟩, _, rfl, rfl, us, _, rfl, hinner, ⟨_, _⟩, _, rfl, rfl, rfl⟩ := h
    have hrun := inner.run (⟨before, offset⟩ :: openings) hinner
    exact .cons .openGroup (hrun.append (.cons .closeGroup .nil))

end

/-- Before the first token. -/
def Draft.initial : Draft := ⟨[], .operand none⟩

/-- No two trees are spelled by the same tokens. -/
theorem Chain.eq_of_tokens {e e' : Chain} (h : e.tokens = e'.tokens) : e = e' := by
  let ts : List Located := e.tokens.map fun token => ⟨token, 0⟩
  have hts : ts.map Located.token = e.tokens := by simp [ts, Function.comp_def]
  have hrun := (e.run [] hts).deterministic (e'.run [] (hts.trans h))
  simpa using hrun

theorem state_initial (collation : Text) : Draft.initial.state collation = State.initial := rfl

theorem finish_state {collation : Text} {d : Draft} {c : Compiled} :
    (d.state collation).finish = .ok c ↔ ∃ e : Chain, d = ⟨[], .complete e⟩ ∧ c = e.compiled collation := by
  obtain ⟨openings, edge⟩ := d
  cases edge with
  | complete e =>
    cases openings with
    | nil =>
      simp [State.finish, Draft.state, Draft.comparisons, Edge.phase, Edge.comparisons, Edge.chain?, Edge.render,
        innerGroup, outerText, outerComparisons, Chain.compiled, boundLiterals, eq_comm]
    | cons o outer => simp [State.finish, Draft.state, Edge.phase, innerGroup]
  | _ => simp [State.finish, Draft.state, Edge.phase]

/-- The single pass over the tokens does what the recursion over the tree does that they spell. -/
theorem compileTokens_eq_ok_iff {collation : Text} {tokens : List Located} {c : Compiled} :
    compileTokens collation tokens = .ok c ↔
      ∃ e : Chain, e.tokens = tokens.map Located.token ∧ c = e.compiled collation := by
  rw [compileTokens, ← state_initial, except_bind_eq_ok]
  constructor
  · rintro ⟨st, hfold, hfinish⟩
    obtain ⟨d, hrun, rfl⟩ := foldlM_state.1 hfold
    obtain ⟨e, rfl, rfl⟩ := finish_state.1 hfinish
    have htokens := hrun.tokens
    exact ⟨e, by simpa [Draft.tokens, Draft.initial, outerTokens, Edge.tokens, Before.tokens] using htokens, rfl⟩
  · rintro ⟨e, htokens, rfl⟩
    exact ⟨_, foldlM_state.2 ⟨_, e.run [] htokens.symm, rfl⟩, finish_state.2 ⟨e, rfl, rfl⟩⟩

end Roster.Filter
