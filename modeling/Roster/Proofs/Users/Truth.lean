import Roster.Proofs.Filter.Verbatim
import Roster.Proofs.Users.Selection

/-!
# The truth of a compiled filter

A compiled filter is true of a user, false or unknown, and the database counts and selects the users of whom it is true: `Compiled.HasTruth` says so for all users and all queries at once. What a filter text says has its truth in this sense, if its condition is not too deep and names its collation (`hasTruth_compiledSource`). So has a comparison of a column with any literals, also with those that no text stands for (`exists_hasTruth_compare`).
-/

namespace Roster

open Text Sql

namespace Filter

/-- The truth value of a compiled filter on a user: its condition is read as the database reads it and evaluated with the values of its parameters. -/
def Compiled.truth? (c : Compiled) (u : User) : Option Truth :=
  match readCondition (lexemes (numbered c.sql)) with
  | .ok (p, []) => some (p.eval (Database.env (c.parameters.map (·.value.bound)) u))
  | _ => none

/-- The filter has the truth value on every user, and the database counts and selects the users on whom it is true, unless there are too many parameters. A selection has two arguments more. -/
structure Compiled.HasTruth (c : Compiled) (truth : User → Truth) : Prop where
  truth?_eq (u : User) : c.truth? u = some (truth u)
  count_eq (hparameters : c.parameters.length ≤ Database.maxArguments) (db : Database) :
    db.count c = .ok (db.users.countP fun u => truth u == .true)
  select_eq (hparameters : c.parameters.length + 2 ≤ Database.maxArguments) (db : Database) {order : SortOrder}
    (horder : order.Exists) (limit : UInt32) (offset : UInt64) :
    db.select c order limit offset =
      .ok ((((db.users.filter fun u => truth u == .true).mergeSort
        fun u v => (Database.compareBy order.effective u v).isLE).drop (min offset.toNat Query.maxOffset)).take
          limit.toNat)

section

variable {c : Compiled} {p : Predicate} {truth : User → Truth}
  (hparses : Parses .condition (lexemes (numbered c.sql)) p) (hnames : NamesCollations (lexemes (numbered c.sql)))
  (heval : ∀ after u, p.eval (Database.env (c.parameters.map (·.value.bound) ++ after) u) = truth u)

include hparses hnames heval

theorem truth?_eq_of_parses (u : User) : c.truth? u = some (truth u) := by
  have hvalue := heval [] u
  rw [List.append_nil] at hvalue
  simp only [Compiled.truth?, readCondition_of_parses hparses hnames, hvalue]

/-- The truth value of the condition is that of the filter if it does not depend on the arguments that a query adds. -/
theorem hasTruth_of_parses (hp : Database.Accepts p c.parameters.length) : c.HasTruth truth := by
  have hsatisfies (after : List Value) :
      Database.satisfies p (c.parameters.map (·.value.bound) ++ after) = fun u => truth u == .true := by
    funext u
    rw [Database.satisfies, heval]
  constructor
  · exact truth?_eq_of_parses hparses hnames heval
  · intro hparameters db
    have hcount := hsatisfies []
    rw [List.append_nil] at hcount
    rw [Database.count_eq (read_count hparses hnames) (Database.check_count hp hparameters), hcount]
  · intro hparameters db order horder limit offset
    rw [Database.select_eq (read_rows hparses hnames horder limit offset) (Database.check_rows hp hparameters horder),
      Database.selectArguments, hsatisfies]

end

/-! ### Filters -/

section

variable {collation : Text} (hcollation : Settings.isCollation collation = true) (source : Option Chain)
  (hcolumns : ∀ column ∈ (compiledSource collation source).columns, column ∈ filterable)
  (hsize : (compiledSource collation source).parameters.length ≤ UInt64.size) (hname : Names collation source)

include hcollation hcolumns hsize hname

theorem truth?_compiledSource (u : User) : (compiledSource collation source).truth? u = some (sourceTruth u source) :=
  truth?_eq_of_parses (parses_numbered hcollation hcolumns hsize)
    (namesCollations_numbered hcollation hcolumns hsize hname) (eval_sourcePredicate hcolumns) u

theorem hasTruth_compiledSource (hdepth : (sourcePredicate source).height ≤ Database.maxDepth) :
    (compiledSource collation source).HasTruth fun u => sourceTruth u source :=
  hasTruth_of_parses (parses_numbered hcollation hcolumns hsize)
    (namesCollations_numbered hcollation hcolumns hsize hname) (eval_sourcePredicate hcolumns)
    (accepts_sourcePredicate hcolumns hdepth)

end

/-! ### Comparisons -/

/-- A column, an operator and a value with blanks between them have the truth value of the comparison. -/
theorem exists_compile_comparison {options : Options} (hcollation : Settings.isCollation options.collation = true)
    (c : Comparison) (hname : c.operator.rule.isLike = true → isIdentifier options.collation = true)
    (hcolumn : c.column ∈ filterable) {spelling : Text} {offset : Nat}
    (hvalue : scan spelling = .ok [⟨c.value, offset⟩])
    (hlength : byteSize (join [' '] [c.column, c.operator.symbol, spelling]) ≤ options.maxLength)
    (hsize : c.bound.length ≤ UInt64.size) :
    ∃ filter, compile options (join [' '] [c.column, c.operator.symbol, spelling]) = .ok filter ∧
      filter.HasTruth fun u => c.truth u := by
  obtain ⟨tokens, hscan, htokens⟩ := c.exists_scan (scan_of_filterable _ hcolumn) hvalue
  have hspells : Spells _ (some (.single (.test c))) := .chain hscan htokens.symm
  have hcolumns : ∀ name ∈ (compiledSource options.collation (some (.single (.test c)))).columns, name ∈ filterable :=
    Chain.forall_columns.2 (Operand.forall_comparisons_test.2 hcolumn)
  have hparameters : (compiledSource options.collation (some (.single (.test c)))).parameters.length ≤ UInt64.size := by
    rw [compiledSource, Chain.length_parameters]
    simpa [Chain.comparisons, Operand.comparisons, boundLiterals] using hsize
  have hnames : Names options.collation (some (.single (.test c))) := by
    rintro _ ⟨⟩
    exact Operand.forall_comparisons_test.2 hname
  have hdepth : (sourcePredicate (some (.single (.test c)))).height ≤ Database.maxDepth :=
    Nat.le_trans (Test.height_le _) (by decide)
  exact ⟨_, compile_eq_ok_iff.2 ⟨hlength, _, hspells, rfl⟩,
    hasTruth_compiledSource hcollation _ hcolumns hparameters hnames hdepth⟩

/-- The truth value of the comparison of a column with literals. -/
def Rule.truthOf (rule : Rule) (column : Column) (values : List Literal) (u : User) : Truth :=
  rule.truth column.affinity (u.value column) (values.map rule.operand)

theorem finish_compare (collation column : Text) (op : Operator) (values : List Literal) :
    (State.initial.compare collation column op values).finish =
      .ok ⟨op.rule.render column ((List.range' 0 values.length).map placeholder) collation,
        parametersFrom 0 (values.map op.rule.prepare), [column]⟩ := by
  have hbound : (values.mapIdx fun i value => (⟨placeholder (0 + i), op.rule.prepare value⟩ : Parameter)) =
      parametersFrom 0 (values.map op.rule.prepare) := by
    apply List.ext_getElem <;> simp [parametersFrom]
  have hnames := names_parametersFrom 0 (values.map op.rule.prepare)
  rw [List.length_map, ← hbound] at hnames
  rw [← hnames, ← hbound]
  rfl

/-- The tokens of one comparison. -/
theorem compileTokens_comparison (collation column : Text) {symbol : Text} {op : Operator}
    (hop : Operator.find? symbol = some op) (hrule : op.rule.connective? = none) {value : Token}
    {values : List Literal} (hvalues : op.rule.literals? value = some values) (i j k : Nat) :
    compileTokens collation [⟨.word column, i⟩, ⟨.operator symbol, j⟩, ⟨value, k⟩] =
      (State.initial.compare collation column op values).finish := by
  have hcolumn : State.initial.step collation ⟨.word column, i⟩ =
      .ok { State.initial with phase := .operator column } :=
    (State.step_operand rfl).2 (.inr ⟨column, rfl, rfl⟩)
  have hoperator : ({ State.initial with phase := .operator column } : State).step collation ⟨.operator symbol, j⟩ =
      .ok { State.initial with phase := .value column op } :=
    (State.step_operator rfl).2 ⟨symbol, op, rfl, hop, hrule, rfl⟩
  have hvalue : ({ State.initial with phase := .value column op } : State).step collation ⟨value, k⟩ =
      .ok (State.initial.compare collation column op values) :=
    (State.step_value rfl).2 ⟨values, hvalues, rfl⟩
  have hfold : [⟨.word column, i⟩, ⟨.operator symbol, j⟩, ⟨value, k⟩].foldlM (State.step collation) State.initial =
      .ok (State.initial.compare collation column op values) :=
    except_bind_eq_ok.2 ⟨_, hcolumn, except_bind_eq_ok.2 ⟨_, hoperator, except_bind_eq_ok.2 ⟨_, hvalue, rfl⟩⟩⟩
  rw [compileTokens, hfold]
  rfl

section

variable {op : Operator} (hrule : op.rule.connective? = none) {column : Column} (hcolumn : column.name ∈ filterable)
  {collation : Text} (hcollation : Settings.isCollation collation = true) {values : List Literal}
  (hne : values ≠ []) (hone : op.rule.takesList = false → values.length = 1) (hsize : values.length ≤ UInt64.size)
  (hname : op.rule.isLike = true → isIdentifier collation = true)

include hrule hcolumn hcollation hne hone hsize hname

/-- A comparison that is written by itself has the truth value of the comparison. -/
theorem exists_hasTruth_compare :
    ∃ c, (State.initial.compare collation column.name op values).finish = .ok c ∧
      c.HasTruth (op.rule.truthOf column values) := by
  refine ⟨_, finish_compare collation column.name op values, ?_⟩
  have hlength : values.length ≠ 0 := by simpa using hne
  have hplaceholders : (List.range' 0 values.length).map numberedPlaceholder ≠ [] := by simpa using hne
  have hnumbered := (Rule.renumbers_render (not_mem_of_isCollation hcollation) hrule (not_mem_of_filterable hcolumn)
    hlength hone hsize).eq
  obtain ⟨k, ks, hks⟩ := List.exists_cons_of_ne_nil hplaceholders
  have hordinary : ∀ s ∈ (List.range' 0 values.length).map numberedPlaceholder, IsOrdinary s := by
    intro s hs
    obtain ⟨n, -, rfl⟩ := List.mem_map.1 hs
    exact isOrdinary_argument (n + 1)
  have htest := isTest_render hrule (isWord_of_filterable hcolumn) (isWord_of_isCollation hcollation) hplaceholders
    fun s hs => (hordinary s hs).isWord
  rw [← hnumbered] at htest
  have hnames : NamesCollations (lexemes (numbered (op.rule.render column.name
      ((List.range' 0 values.length).map placeholder) collation))) := by
    rw [hks, List.forall_mem_cons] at hordinary
    rw [hnumbered, hks, Rule.lexemes_render hrule (isWord_of_filterable hcolumn) (isWord_of_isCollation hcollation)
      hordinary.1.isWord fun s hs => (hordinary.2 s hs).isWord]
    exact Rule.namesCollations_lexemes (isOrdinary_of_filterable hcolumn) hordinary.1 hordinary.2 collation hname
  refine hasTruth_of_parses (parses_condition (.test htest)) hnames ?_ ⟨?_, ?_, ?_⟩
  · intro after u
    have hbound : (parametersFrom 0 (values.map op.rule.prepare)).map (·.value.bound) =
        values.map op.rule.operand := by
      have hvalues := congrArg (List.map Literal.bound) (values_parametersFrom 0 (values.map op.rule.prepare))
      rw [List.map_map, List.map_map] at hvalues
      exact hvalues.trans (List.map_congr_left fun v _ => op.rule.bound_prepare v)
    have hvalues : values.map op.rule.operand ≠ [] := by simpa using hne
    have heval := Rule.eval_test_numbered hrule hcolumn (Column.find?_name column) hvalues [] after rfl u
    rw [List.length_map] at heval
    rw [hbound]
    exact heval
  · exact Nat.le_trans (Test.height_le _) (by decide)
  · intro name hname
    rw [Rule.columns_test hrule hcolumn (by simpa using hne), List.mem_singleton] at hname
    rw [hname, Column.find?_name]
    rfl
  · intro k hk
    rw [Rule.mem_argumentNumbers_test hrule hcolumn hlength hone] at hk
    simpa [parametersFrom, Nat.add_comm] using hk

end

end Filter

end Roster
