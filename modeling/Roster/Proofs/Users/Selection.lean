import Roster.Proofs.Filter.Collation
import Roster.Proofs.Filter.Meaning
import Roster.Proofs.Filter.Scan
import Roster.Proofs.Filter.Verbatim
import Roster.Proofs.Sql.Order
import Roster.Proofs.Users.Answer
import Roster.Proofs.Users.Evaluation

/-!
# Selecting by a filter

The database counts and selects exactly the users of whom a filter is true when it is evaluated as it stands (`Database.count_and_select_filter`). On the way from the filter to the answer its text is compiled, its placeholders are renumbered, the statement is read by the grammar of SQL, and the arguments are found by their numbers.
-/

namespace Roster

open Text Sql

namespace Filter

/-- The condition that a query has for what a filter says. -/
def sourcePredicate : Option Chain → Predicate
  | none => .test (.compare (.integer 1) .eq (.integer 1))
  | some e => e.predicate numberedPlaceholder 0

/-! ### Columns -/

theorem Rule.terms_test {rule : Rule} {column : Text} {placeholders : List Text} (hrule : rule.connective? = none)
    (hne : placeholders ≠ []) :
    (rule.test column placeholders).terms =
      Term.ofWord column :: (if rule.takesList then placeholders else placeholders.take 1).map .ofWord := by
  obtain ⟨first, rest, rfl⟩ := List.exists_cons_of_ne_nil hne
  cases rule with
  | connective k => simp [Rule.connective?] at hrule
  | _ => rfl

/-- A comparison is tested on its column and on its placeholders. -/
theorem Rule.exists_terms_test {rule : Rule} (hrule : rule.connective? = none) (column : Text) {indices : List Nat}
    (hne : indices ≠ []) (name : Nat → Text) :
    ∃ ks : List Nat, (rule.test column (indices.map name)).terms =
      Term.ofWord column :: ks.map fun k => Term.ofWord (name k) := by
  rw [Rule.terms_test hrule (by simpa using hne)]
  split
  · exact ⟨indices, by rw [List.map_map]; rfl⟩
  · exact ⟨indices.take 1, by rw [← List.map_take, List.map_map]; rfl⟩

theorem Comparison.exists_terms_test (c : Comparison) (name : Nat → Text) (n : Nat) :
    ∃ ks : List Nat, (c.test name n).terms = Term.ofWord c.column :: ks.map fun k => Term.ofWord (name k) :=
  Rule.exists_terms_test c.operator.connective?_eq_none c.column (by simpa using c.bound_ne_nil) name

theorem columns_join (k : Connective) (p q : Predicate) : (Predicate.join k p q).columns = p.columns ++ q.columns := by
  simp [Predicate.columns, Predicate.tests]

theorem Rule.columns_test {rule : Rule} (hrule : rule.connective? = none) {column : Text} (hcolumn : column ∈ filterable)
    {indices : List Nat} (hne : indices ≠ []) :
    (Predicate.test (rule.test column (indices.map numberedPlaceholder))).columns = [column] := by
  obtain ⟨ks, hks⟩ := Rule.exists_terms_test hrule column hne numberedPlaceholder
  simp only [Predicate.columns, Predicate.tests, List.flatMap_cons, List.flatMap_nil, List.append_nil, hks,
    ofWord_of_filterable hcolumn, List.filterMap_cons]
  rw [List.cons_inj_right, List.filterMap_map, List.filterMap_eq_nil_iff]
  intro k _
  rw [Function.comp_apply, ofWord_numberedPlaceholder]

theorem Comparison.columns_test {c : Comparison} (hcolumn : c.column ∈ filterable) (n : Nat) :
    (Predicate.test (c.test numberedPlaceholder n)).columns = [c.column] :=
  Rule.columns_test c.operator.connective?_eq_none hcolumn (by simpa using c.bound_ne_nil)

mutual

/-- The columns of the condition are those of the comparisons. -/
theorem Chain.columns_predicate (e : Chain) (hcolumns : ∀ c ∈ e.comparisons, c.column ∈ filterable) (n : Nat) :
    (e.predicate numberedPlaceholder n).columns = e.comparisons.map Comparison.column := by
  match e with
  | .single x => exact x.columns_predicate hcolumns n
  | .join left connective right =>
    rw [Chain.forall_comparisons_join] at hcolumns
    rw [Chain.predicate, columns_join, Chain.comparisons, List.map_append, left.columns_predicate hcolumns.1,
      right.columns_predicate hcolumns.2]

theorem Operand.columns_predicate (x : Operand) (hcolumns : ∀ c ∈ x.comparisons, c.column ∈ filterable) (n : Nat) :
    (x.predicate numberedPlaceholder n).columns = x.comparisons.map Comparison.column := by
  match x with
  | .test c => exact c.columns_test (Operand.forall_comparisons_test.1 hcolumns) n
  | .group inner => exact inner.columns_predicate hcolumns n

end

/-! ### Arguments -/

theorem Rule.mem_argumentNumbers_test {rule : Rule} (hrule : rule.connective? = none) {column : Text}
    (hcolumn : column ∈ filterable) {n length : Nat} (hlength : length ≠ 0)
    (hone : rule.takesList = false → length = 1) {k : Nat} :
    k ∈ (Predicate.test (rule.test column ((List.range' n length).map numberedPlaceholder))).argumentNumbers ↔
      n + 1 ≤ k ∧ k ≤ n + length := by
  have htaken (names : List Text) (h : names.length = length) :
      (if rule.takesList then names else names.take 1) = names := by
    split
    · rfl
    · rename_i hlist
      rw [List.take_of_length_le]
      rw [h, hone (by simpa using hlist)]
  rw [Predicate.mem_argumentNumbers_test, Rule.terms_test hrule (by simpa using hlength), htaken _ (by simp),
    ofWord_of_filterable hcolumn, List.map_map]
  simp only [List.mem_cons, reduceCtorEq, false_or, List.mem_map, Function.comp_apply, ofWord_numberedPlaceholder,
    Term.argument.injEq, List.mem_range'_1]
  constructor
  · rintro ⟨j, hj, rfl⟩
    omega
  · intro hk
    exact ⟨k - 1, by omega, by omega⟩

mutual

/-- The arguments of the condition have the numbers after `n`, as many as there are literals. -/
theorem Chain.mem_argumentNumbers_predicate (e : Chain) (hcolumns : ∀ c ∈ e.comparisons, c.column ∈ filterable)
    (n : Nat) {k : Nat} :
    k ∈ (e.predicate numberedPlaceholder n).argumentNumbers ↔
      n + 1 ≤ k ∧ k ≤ n + (boundLiterals e.comparisons).length := by
  match e with
  | .single x => exact x.mem_argumentNumbers_predicate hcolumns n
  | .join left connective right =>
    rw [Chain.forall_comparisons_join] at hcolumns
    rw [Chain.predicate, Predicate.argumentNumbers_join, List.mem_append,
      left.mem_argumentNumbers_predicate hcolumns.1, right.mem_argumentNumbers_predicate hcolumns.2, Chain.comparisons,
      boundLiterals_append, List.length_append]
    omega

theorem Operand.mem_argumentNumbers_predicate (x : Operand) (hcolumns : ∀ c ∈ x.comparisons, c.column ∈ filterable)
    (n : Nat) {k : Nat} :
    k ∈ (x.predicate numberedPlaceholder n).argumentNumbers ↔
      n + 1 ≤ k ∧ k ≤ n + (boundLiterals x.comparisons).length := by
  match x with
  | .test c =>
    have hlength : (boundLiterals (Operand.test c).comparisons).length = c.bound.length := by
      simp [Operand.comparisons, boundLiterals]
    rw [hlength]
    exact Rule.mem_argumentNumbers_test c.operator.connective?_eq_none (Operand.forall_comparisons_test.1 hcolumns)
      (by simpa using c.bound_ne_nil) c.length_bound
  | .group inner => exact inner.mem_argumentNumbers_predicate hcolumns n

end

/-! ### The condition of a query -/

/-- If what a filter says has a LIKE, the collation is a name. -/
def Names (collation : Text) (source : Option Chain) : Prop :=
  ∀ e ∈ source, ∀ c ∈ e.comparisons, c.operator.rule.isLike = true → isIdentifier collation = true

theorem not_mem_of_filterable {column : Text} (h : column ∈ filterable) : '@' ∉ column := by
  have hall : ∀ s ∈ filterable, '@' ∉ s := by decide
  exact hall column h

section

variable {collation : Text} (hcollation : Settings.isCollation collation = true) {source : Option Chain}
  (hcolumns : ∀ column ∈ (compiledSource collation source).columns, column ∈ filterable)

include hcolumns in
theorem isOrdinary_column : ∀ e ∈ source, ∀ c ∈ e.comparisons, IsOrdinary c.column := by
  rintro e rfl c hc
  exact isOrdinary_of_filterable (Chain.forall_columns.1 hcolumns c hc)

include hcollation hcolumns in
theorem numbered_compiledSource (hsize : (compiledSource collation source).parameters.length ≤ UInt64.size) :
    ∀ e ∈ source, numbered (compiledSource collation source).sql = e.render numberedPlaceholder collation 0 := by
  rintro e rfl
  have hmem := Chain.forall_columns.1 hcolumns
  rw [compiledSource, Chain.length_parameters, ← Nat.zero_add (boundLiterals e.comparisons).length] at hsize
  exact (e.renumbers_render (not_mem_of_isCollation hcollation) (fun c hc => not_mem_of_filterable (hmem c hc)) hsize).eq

include hcollation hcolumns in
/-- The numbered condition of a filter is read as the filter. -/
theorem parses_numbered (hsize : (compiledSource collation source).parameters.length ≤ UInt64.size) :
    Parses .condition (lexemes (numbered (compiledSource collation source).sql)) (sourcePredicate source) := by
  cases source with
  | none =>
    have htext : lexemes (numbered matchAll) = [.word ['1'], .word Relation.eq.keyword, .word ['1']] := by
      rw [numbered_matchAll]
      rfl
    show Parses .condition (lexemes (numbered matchAll)) _
    rw [htext]
    exact parses_condition (.test (.compare ['1'] .eq ['1']))
  | some e =>
    rw [numbered_compiledSource hcollation hcolumns hsize e rfl]
    exact parses_condition (e.parses_render (fun k => isWord_argument (k + 1)) (isWord_of_isCollation hcollation)
      (fun c hc => (isOrdinary_column hcolumns e rfl c hc).isWord) 0)

section

variable (hsize : (compiledSource collation source).parameters.length ≤ UInt64.size)

include hcollation hcolumns hsize

theorem namesCollations_numbered (hname : Names collation source) :
    NamesCollations (lexemes (numbered (compiledSource collation source).sql)) := by
  cases source with
  | none =>
    show NamesCollations (lexemes (numbered matchAll))
    rw [numbered_matchAll]
    exact namesCollations_of_not_mem (by decide)
  | some e =>
    rw [numbered_compiledSource hcollation hcolumns hsize e rfl]
    exact e.namesCollations_render (fun k => isOrdinary_argument (k + 1)) (isWord_of_isCollation hcollation)
      (isOrdinary_column hcolumns e rfl) (hname e rfl) 0

/-- A filter has a LIKE only if the collation stands in its condition. -/
theorem names_of_collate_mem
    (hname : Lexeme.word "COLLATE".toList ∈ lexemes (numbered (compiledSource collation source).sql) →
      isIdentifier collation = true) : Names collation source := by
  rintro e rfl c hc hlike
  rw [numbered_compiledSource hcollation hcolumns hsize e rfl] at hname
  exact hname (e.collate_mem_render (fun k => isOrdinary_argument (k + 1)) (isWord_of_isCollation hcollation)
    (isOrdinary_column hcolumns e rfl) hc hlike 0)

end

include hcolumns in
theorem exists_columns : ∀ name ∈ (sourcePredicate source).columns, (Column.find? name).isSome = true := by
  intro name hname
  cases source with
  | none => simp [sourcePredicate, Predicate.columns, Predicate.tests, Test.terms] at hname
  | some e =>
    have hmem := Chain.forall_columns.1 hcolumns
    rw [sourcePredicate, e.columns_predicate hmem] at hname
    obtain ⟨column, hcolumn⟩ := find?_of_filterable (hcolumns name hname)
    rw [hcolumn]
    rfl

include hcolumns in
/-- The condition of a filter that is not too deep can be evaluated with the parameters. -/
theorem accepts_sourcePredicate (hdepth : (sourcePredicate source).height ≤ Database.maxDepth) :
    Database.Accepts (sourcePredicate source) (compiledSource collation source).parameters.length := by
  refine ⟨hdepth, exists_columns hcolumns, ?_⟩
  cases source with
  | none => simp [sourcePredicate, Predicate.argumentNumbers, Predicate.tests, Test.terms]
  | some e =>
    intro k hk
    rw [sourcePredicate, e.mem_argumentNumbers_predicate (Chain.forall_columns.1 hcolumns)] at hk
    rw [compiledSource, Chain.length_parameters]
    omega

include hcolumns in
/-- The condition is evaluated as the filter, whatever other arguments follow. -/
theorem eval_sourcePredicate (after : List Value) (u : User) :
    (sourcePredicate source).eval
        (Database.env ((compiledSource collation source).parameters.map (·.value.bound) ++ after) u) =
      sourceTruth u source := by
  cases source with
  | none => rfl
  | some e =>
    have hmem := Chain.forall_columns.1 hcolumns
    have hvalues : (compiledSource collation (some e)).parameters.map (·.value.bound) =
        [] ++ (boundLiterals e.comparisons).map Literal.bound := by
      have hbound : (boundLiterals e.comparisons).map Literal.bound =
          ((parametersFrom 0 (boundLiterals e.comparisons)).map Parameter.value).map Literal.bound := by
        rw [values_parametersFrom]
      rw [hbound, List.map_map]
      rfl
    rw [hvalues]
    exact e.eval_predicate u hmem [] after rfl 0

end

/-- A filter has no more parameters than bytes. -/
theorem length_parameters_le {input : Text} {source : Option Chain} (hsource : Spells input source) (collation : Text) :
    (compiledSource collation source).parameters.length ≤ byteSize input := by
  cases hsource with
  | blank => exact Nat.zero_le _
  | chain hscan htokens =>
    have hlength := length_boundLiterals_le_byteSize hscan htokens
    rw [compiledSource, Chain.length_parameters]
    exact hlength

theorem length_parameters_le_maxLength {options : Options} {input : Text} {c : Compiled}
    (h : compile options input = .ok c) : c.parameters.length ≤ options.maxLength := by
  obtain ⟨hlength, source, hsource, rfl⟩ := compile_eq_ok_iff.1 h
  exact Nat.le_trans (length_parameters_le hsource options.collation) hlength

end Filter

namespace Database

open Roster.Filter

/-- Whatever follows the values of the filter among the arguments, the users of whom it is true satisfy the condition. -/
theorem satisfies_sourcePredicate {collation : Text} {source : Option Chain}
    (hcolumns : ∀ column ∈ (compiledSource collation source).columns, column ∈ filterable) (after : List Value) :
    satisfies (sourcePredicate source) ((compiledSource collation source).parameters.map (·.value.bound) ++ after) =
      fun u => sourceTruth u source == .true := by
  funext u
  rw [satisfies, eval_sourcePredicate hcolumns]

end Database

end Roster
