import Mathlib.Data.List.Forall2
import Roster.Proofs.Filter.Condition
import Roster.Proofs.Filter.Source

/-!
# The meaning of a filter

The condition that a filter is compiled to has the truth value of the filter, whatever the truth values of its comparisons are (`compile_preserves_meaning`). The filter joins from left to right with one precedence, the condition by the grammar of SQL.
-/

namespace Roster

open Text

/-! ### Truth values by position -/

/-- The truth value of a condition, given those of its tests by their positions, of which the first is `i`. -/
def Sql.Predicate.evalAt (truth : Nat → Truth) (i : Nat) : Sql.Predicate → Truth
  | .test _ => truth i
  | .join connective left right =>
    connective.eval (left.evalAt truth i) (right.evalAt truth (i + left.tests.length))

namespace Filter

open Sql (lexemes IsTest)

/-- The comparisons with the indices of their first placeholders, of which the first is `n`. -/
def placed (n : Nat) : List Comparison → List (Nat × Comparison)
  | [] => []
  | c :: cs => (n, c) :: placed (n + c.bound.length) cs

theorem placed_append (n : Nat) (cs ds : List Comparison) :
    placed n (cs ++ ds) = placed n cs ++ placed (n + (boundLiterals cs).length) ds := by
  induction cs generalizing n with
  | nil => rfl
  | cons c cs ih =>
    simp only [List.cons_append, placed, ih, boundLiterals_cons, List.length_append, Nat.add_assoc]

mutual

theorem Chain.tests_predicate (name : Nat → Text) (e : Chain) (n : Nat) :
    (e.predicate name n).tests = (placed n e.comparisons).map fun (k, c) => c.test name k := by
  match e with
  | .single x => exact x.tests_predicate name n
  | .join left _ right =>
    rw [Chain.predicate, Sql.Predicate.tests, left.tests_predicate, right.tests_predicate, Chain.comparisons,
      placed_append, List.map_append]

theorem Operand.tests_predicate (name : Nat → Text) (x : Operand) (n : Nat) :
    (x.predicate name n).tests = (placed n x.comparisons).map fun (k, c) => c.test name k := by
  match x with
  | .test c => rfl
  | .group inner => exact inner.tests_predicate name n

end

@[simp] theorem length_placed (n : Nat) (cs : List Comparison) : (placed n cs).length = cs.length := by
  induction cs generalizing n with
  | nil => rfl
  | cons c cs ih => simp [placed, ih]

mutual

theorem Chain.evalAt_predicate (truth : Nat → Truth) (name : Nat → Text) (e : Chain) (n i : Nat) :
    (e.predicate name n).evalAt truth i = e.eval (fun j _ => truth j) i := by
  match e with
  | .single x => exact x.evalAt_predicate truth name n i
  | .join left connective right =>
    rw [Chain.predicate, Sql.Predicate.evalAt, left.evalAt_predicate, right.evalAt_predicate, left.tests_predicate,
      List.length_map, length_placed, Chain.eval]

theorem Operand.evalAt_predicate (truth : Nat → Truth) (name : Nat → Text) (x : Operand) (n i : Nat) :
    (x.predicate name n).evalAt truth i = x.eval (fun j _ => truth j) i := by
  match x with
  | .test c => rfl
  | .group inner => exact inner.evalAt_predicate truth name n i

end

/-! ### What is written for a filter -/

/-- The rendered comparisons are the tests of the condition, in their order. -/
theorem forall₂_isTest {name : Nat → Text} {collation : Text} (hname : ∀ k, Sql.IsWord (name k))
    (hcollation : Sql.IsWord collation) {cs : List Comparison} (hcolumns : ∀ c ∈ cs, Sql.IsWord c.column) (n : Nat) :
    List.Forall₂ (fun (k, c) test => IsTest (lexemes (c.render name collation k)) test) (placed n cs)
      ((placed n cs).map fun (k, c) => c.test name k) := by
  induction cs generalizing n with
  | nil => exact .nil
  | cons c cs ih =>
    refine .cons ?_ ?_
    · exact c.isTest_render hname hcollation (hcolumns c (by simp)) n
    · exact ih (fun d hd => hcolumns d (by simp [hd])) _

/-- A filter that is not blank spells one tree. By the grammar of SQL its condition is read in one way, as a condition whose tests are the comparisons of the tree, and the condition and the tree have one truth value whatever those of the comparisons are. -/
theorem compile_preserves_meaning {options : Options} {input : Text} {c : Compiled}
    (h : compile options input = .ok c) (hblank : ¬ ∀ x ∈ input, isBlank x = true)
    (hcollation : Settings.isCollation options.collation = true) (hcolumns : ∀ column ∈ c.columns, column ∈ filterable) :
    ∃ (e : Chain) (tokens : List Located),
      scan input = .ok tokens ∧ e.tokens = tokens.map Located.token ∧
      (∀ e' : Chain, e'.tokens = tokens.map Located.token → e' = e) ∧
      ∃ p : Sql.Predicate,
        Sql.Parses .condition (lexemes c.sql) p ∧
        (∀ q, Sql.Parses .condition (lexemes c.sql) q → q = p) ∧
        List.Forall₂ (fun (k, x) test => IsTest (lexemes (x.render placeholder options.collation k)) test)
          (placed 0 e.comparisons) p.tests ∧
        ∀ truth : Nat → Truth, p.evalAt truth 0 = e.eval (fun i _ => truth i) 0 := by
  obtain ⟨-, source, hsource, rfl⟩ := compile_eq_ok_iff.1 h
  cases hsource with
  | blank hall => exact absurd hall hblank
  | @chain e tokens hscan htokens =>
    have hcollation' := isWord_of_isCollation hcollation
    have hcolumns' : ∀ x ∈ e.comparisons, Sql.IsWord x.column := by
      intro x hx
      exact isWord_of_filterable (Chain.forall_columns.1 hcolumns x hx)
    have hparses : Sql.Parses .condition (lexemes (e.compiled options.collation).sql) (e.predicate placeholder 0) :=
      parses_condition (e.parses_render isWord_placeholder hcollation' hcolumns' 0)
    refine ⟨e, tokens, hscan, htokens, ?_, e.predicate placeholder 0, hparses, ?_, ?_, ?_⟩
    · intro e' htokens'
      exact Chain.eq_of_tokens (htokens'.trans htokens.symm)
    · intro q hq
      exact hq.unique hparses
    · rw [e.tests_predicate]
      exact forall₂_isTest isWord_placeholder hcollation' hcolumns' 0
    · intro truth
      exact e.evalAt_predicate truth placeholder 0 0

/-- Connectives that alternate, inside a group and around it. -/
theorem compile_preserves_meaning_alternating :
    let input := "Active == true || Id == a && (Email == 'b c' || Username ^^ [x, y] && Id != w) || Id != z".toList
    ∃ c : Compiled, compile ⟨"NOCASE".toList, 4096⟩ input = .ok c ∧
      c.sql = ("((Active = @p0 OR Id = @p1) AND " ++
        "((Email = @p2 OR Username IN (@p3, @p4)) AND Id <> @p5)) OR Id <> @p6").toList ∧
      ∃ (e : Chain) (p : Sql.Predicate), Sql.Parses .condition (lexemes c.sql) p ∧
        ∀ truth : Nat → Truth, p.evalAt truth 0 = e.eval (fun i _ => truth i) 0 := by
  intro input
  let values : List Literal :=
    [.bool true, .raw ['a'], .str "b c".toList, .raw ['x'], .raw ['y'], .raw ['w'], .raw ['z']]
  let c : Compiled :=
    ⟨("((Active = @p0 OR Id = @p1) AND " ++
        "((Email = @p2 OR Username IN (@p3, @p4)) AND Id <> @p5)) OR Id <> @p6").toList,
      parametersFrom 0 values,
      ["Active".toList, "Id".toList, "Email".toList, "Username".toList, "Id".toList, "Id".toList]⟩
  have h : compile ⟨"NOCASE".toList, 4096⟩ input = .ok c := by decide +kernel
  have hblank : ¬ ∀ x ∈ input, isBlank x = true := by
    intro hall
    exact absurd (hall 'A' (by decide)) (by decide)
  obtain ⟨e, tokens, -, -, -, p, hparses, -, -, heval⟩ :=
    compile_preserves_meaning h hblank (by decide) (by decide)
  exact ⟨c, h, rfl, e, p, hparses, heval⟩

end Filter

end Roster
