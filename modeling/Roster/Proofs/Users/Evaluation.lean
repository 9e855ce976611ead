import Roster.Proofs.Filter.Renumbering
import Roster.Users.Database

/-!
# The truth of a filter on a user

A filter can be evaluated on a user as it stands: each comparison looks at its own column and at what its own literals stand for, and the connectives join from left to right. The condition of the filter has that truth value when the literals are bound in their order (`Chain.eval_predicate`), wherever they begin among the arguments.
-/

namespace Roster.Filter

open Text Sql

/-- The truth value of a comparison of a column's value with values. Null makes it unknown, but the phonetic comparison takes null for the empty text. -/
def Rule.truth (rule : Rule) (affinity : Affinity) (left : Value) (values : List Value) : Truth :=
  let value := values.head?.getD .null
  match rule with
  | .relation r => Value.test affinity r left value
  | .like negated _ =>
    match left.asText?, value.asText? with
    | some s, some pattern => .ofBool (Sql.like pattern s != negated)
    | _, _ => .unknown
  | .phonetic negated => Value.test .none (if negated then .ne else .eq) (phoneticCode left) (phoneticCode value)
  | .member negated => negateIf negated ((values.map (Value.test affinity .eq left)).foldr Truth.or .false)
  | .connective _ => .unknown

theorem test_null (affinity : Affinity) (r : Relation) (v : Value) : Value.test affinity r .null v = .unknown := by
  simp [Value.test, Value.comparand?]

/-- Null makes every comparison but the phonetic one unknown. -/
theorem Rule.truth_null {rule : Rule} (hrule : rule.connective? = none)
    (hphonetic : ∀ negated, rule ≠ .phonetic negated) (affinity : Affinity) {values : List Value} (hne : values ≠ []) :
    rule.truth affinity .null values = .unknown := by
  cases rule with
  | relation r => exact test_null affinity r (values.head?.getD .null)
  | like negated place => rfl
  | phonetic negated => exact absurd rfl (hphonetic negated)
  | member negated =>
    have hfold : (values.map (Value.test affinity .eq .null)).foldr Truth.or .false = .unknown := by
      induction values with
      | nil => exact absurd rfl hne
      | cons v values ih =>
        rw [List.map_cons, List.foldr_cons, test_null]
        cases values with
        | nil => rfl
        | cons w values =>
          rw [ih (by simp)]
          rfl
    rw [Rule.truth, hfold]
    cases negated <;> rfl
  | connective k => simp [Rule.connective?] at hrule

/-! ### What literals stand for -/

/-- A text, a number, or one or zero for a truth value. -/
def Literal.meaning : Literal → Value
  | .str s => .text s
  | .raw s => .text s
  | .int n => .integer n
  | .bool true => .integer 1
  | .bool false => .integer 0

/-- The text as which a literal is a part of a pattern. -/
def Literal.spelling : Literal → Text
  | .str s => s
  | .raw s => s
  | .int n => (toString n).toList
  | .bool b => (toString b).toList

/-- What a column is compared with for a literal: a pattern that fits every text with the literal at the place, or what the literal stands for. -/
def Rule.operand (rule : Rule) (v : Literal) : Value :=
  match rule with
  | .like _ .start => .text (v.spelling ++ "%".toList)
  | .like _ .anywhere => .text ("%".toList ++ v.spelling ++ "%".toList)
  | _ => v.meaning

theorem ofInt_eq_toString (n : Int) : ofInt n = (toString n).toList := by
  cases n with
  | ofNat n => exact (String.toList_ofList).symm
  | negSucc n =>
    have hdigits : (Nat.repr (n + 1)).toList = ofNat (n + 1) := String.toList_ofList
    show '-' :: ofNat (n + 1) = ("-" ++ Nat.repr (n + 1)).toList
    rw [String.toList_append, hdigits]
    rfl

theorem Literal.asText_eq_spelling (v : Literal) : v.asText = v.spelling := by
  cases v with
  | int n => exact ofInt_eq_toString n
  | bool b => cases b <;> rfl
  | _ => rfl

/-- Literals are bound as what they stand for. -/
theorem Literal.bound_eq_meaning (v : Literal) : v.bound = v.meaning := by
  cases v with
  | bool b => cases b <;> rfl
  | _ => rfl

theorem Rule.bound_prepare (rule : Rule) (v : Literal) : (rule.prepare v).bound = rule.operand v := by
  cases rule with
  | like negated place => cases place <;> simp [prepare, operand, Literal.bound, v.asText_eq_spelling]
  | _ => exact v.bound_eq_meaning

theorem Comparison.map_bound (c : Comparison) :
    c.bound.map Literal.bound = c.literals.map c.operator.rule.operand := by
  rw [Comparison.bound, List.map_map]
  exact List.map_congr_left fun v _ => c.operator.rule.bound_prepare v

/-! ### What filters say -/

/-- The columns of a user that a filter may compare: their names, their affinities and what stands in them. A date that there is not is null. -/
def cells (u : User) : List (Text × Affinity × Value) :=
  [("Id".toList, .text, .text u.id),
   ("Username".toList, .text, .text u.username),
   ("Email".toList, .text, .text u.email),
   ("LastLoginAt".toList, .text, (u.lastLoginAt.map Value.text).getD .null),
   ("Active".toList, .integer, .integer (if u.active then 1 else 0))]

/-- The truth value of a comparison on a user. What stands in another column is not known. -/
def Comparison.truth (u : User) (c : Comparison) : Truth :=
  match (cells u).lookup c.column with
  | some (affinity, value) => c.operator.rule.truth affinity value (c.literals.map c.operator.rule.operand)
  | none => .unknown

/-- The truth value of a chain on a user. -/
def Chain.truth (u : User) (e : Chain) : Truth := e.eval (fun _ c => c.truth u) 0

/-- The truth value of what a filter says. A blank filter is true of every user. -/
def sourceTruth (u : User) : Option Chain → Truth
  | none => .true
  | some e => e.truth u

/-! ### Tests -/

theorem ofWord_of_filterable {column : Text} (h : column ∈ filterable) : Term.ofWord column = .column column := by
  have hall : ∀ s ∈ filterable, Term.ofWord s = .column s := by decide
  exact hall column h

theorem find?_of_filterable {column : Text} (h : column ∈ filterable) : ∃ c, Column.find? column = some c := by
  have hall : ∀ s ∈ filterable, (Column.find? s).isSome = true := by decide
  exact Option.isSome_iff_exists.1 (hall column h)

theorem lookup_cells {name : Text} {column : Column} (h : name ∈ filterable) (hfind : Column.find? name = some column)
    (u : User) : (cells u).lookup name = some (column.affinity, u.value column) := by
  have hname : name ∈ filterable.filter fun s => Column.find? s = some column := by simpa [h] using hfind
  cases column with
  | passwordHash => cases hname
  | lastLoginAt =>
    obtain rfl := List.mem_singleton.1 hname
    have hvalue : u.value .lastLoginAt = (u.lastLoginAt.map Value.text).getD .null := by
      cases hlogin : u.lastLoginAt <;> simp [User.value, hlogin]
    rw [hvalue]
    rfl
  | _ =>
    obtain rfl := List.mem_singleton.1 hname
    rfl

theorem Comparison.truth_eq {c : Comparison} {column : Column} (h : c.column ∈ filterable)
    (hfind : Column.find? c.column = some column) (u : User) :
    c.truth u =
      c.operator.rule.truth column.affinity (u.value column) (c.literals.map c.operator.rule.operand) := by
  rw [Comparison.truth, lookup_cells h hfind]

@[simp] theorem ofWord_numberedPlaceholder (n : Nat) : Term.ofWord (numberedPlaceholder n) = .argument (n + 1) := by
  simp [Term.ofWord, numberedPlaceholder, argument, argument?]

theorem Rule.eval_test {rule : Rule} {column : Text} {placeholders : List Text} (hrule : rule.connective? = none)
    (hne : placeholders ≠ []) (env : Env) :
    (rule.test column placeholders).eval env =
      rule.truth ((Term.ofWord column).affinity env) ((Term.ofWord column).value env)
        (placeholders.map fun s => (Term.ofWord s).value env) := by
  obtain ⟨first, rest, rfl⟩ := List.exists_cons_of_ne_nil hne
  cases rule with
  | connective k => simp [Rule.connective?] at hrule
  | member negated =>
    simp only [Rule.test, Rule.truth, Test.eval, List.map_map]
    rfl
  | _ => rfl

/-- The values that consecutive placeholders stand for. -/
theorem map_value_argument {before values after : List Value} {n : Nat} (hn : before.length = n) (env : Env)
    (henv : env.arguments = before ++ values ++ after) :
    ((List.range' n values.length).map numberedPlaceholder).map (fun s => (Term.ofWord s).value env) = values := by
  subst hn
  apply List.ext_getElem
  · simp
  · intro i _ hi
    have hget : (before ++ values ++ after)[before.length + i]? = some values[i] := by
      rw [List.append_assoc, List.getElem?_append_right (by omega), Nat.add_sub_cancel_left,
        List.getElem?_append_left hi, List.getElem?_eq_getElem hi]
    simp only [List.getElem_map, List.getElem_range', ofWord_numberedPlaceholder, Term.value, Nat.one_mul,
      Nat.add_sub_cancel, henv, hget, Option.getD_some]

/-- A test of a column on consecutive arguments has the truth value of the comparison with their values. -/
theorem Rule.eval_test_numbered {rule : Rule} (hrule : rule.connective? = none) {name : Text} {column : Column}
    (hname : name ∈ filterable) (hfind : Column.find? name = some column) {values : List Value} (hne : values ≠ [])
    (before after : List Value) {n : Nat} (hn : before.length = n) (u : User) :
    (rule.test name ((List.range' n values.length).map numberedPlaceholder)).eval
        (Database.env (before ++ values ++ after) u) =
      rule.truth column.affinity (u.value column) values := by
  have hplaceholders : (List.range' n values.length).map numberedPlaceholder ≠ [] := by simpa using hne
  have hvalues := map_value_argument hn (Database.env (before ++ values ++ after) u) rfl
  rw [Rule.eval_test hrule hplaceholders, hvalues, ofWord_of_filterable hname]
  simp [Term.affinity, Term.value, Database.env, hfind]

theorem Comparison.eval_test {c : Comparison} (hcolumn : c.column ∈ filterable) (before after : List Value) {n : Nat}
    (hn : before.length = n) (u : User) :
    (c.test numberedPlaceholder n).eval (Database.env (before ++ c.bound.map Literal.bound ++ after) u) =
      c.truth u := by
  obtain ⟨column, hfind⟩ := find?_of_filterable hcolumn
  have hne : c.bound.map Literal.bound ≠ [] := by simpa using c.bound_ne_nil
  have heval := Rule.eval_test_numbered c.operator.connective?_eq_none hcolumn hfind hne before after hn u
  rw [List.length_map] at heval
  rw [Comparison.test, heval, c.truth_eq hcolumn hfind, c.map_bound]

/-! ### Trees -/

mutual

/-- The condition of a chain is evaluated as the chain. -/
theorem Chain.eval_predicate (u : User) (e : Chain) (hcolumns : ∀ c ∈ e.comparisons, c.column ∈ filterable)
    (before after : List Value) {n : Nat} (hn : before.length = n) (i : Nat) :
    (e.predicate numberedPlaceholder n).eval
        (Database.env (before ++ (boundLiterals e.comparisons).map Literal.bound ++ after) u) =
      e.eval (fun _ c => c.truth u) i := by
  match e with
  | .single x => exact x.eval_predicate u hcolumns before after hn i
  | .join left connective right =>
    rw [Chain.forall_comparisons_join] at hcolumns
    -- To the left operand the literals of the right one are later arguments, and to the right one those of the left are earlier ones.
    have hleft := left.eval_predicate u hcolumns.1 before
      ((boundLiterals right.comparisons).map Literal.bound ++ after) hn i
    have hright := right.eval_predicate u hcolumns.2
      (before ++ (boundLiterals left.comparisons).map Literal.bound) after
      (n := n + (boundLiterals left.comparisons).length) (by simp [hn]) (i + left.comparisons.length)
    rw [Chain.predicate, Predicate.eval, Chain.eval, Chain.comparisons, boundLiterals_append, List.map_append, ← hleft,
      ← hright]
    simp only [List.append_assoc]

theorem Operand.eval_predicate (u : User) (x : Operand) (hcolumns : ∀ c ∈ x.comparisons, c.column ∈ filterable)
    (before after : List Value) {n : Nat} (hn : before.length = n) (i : Nat) :
    (x.predicate numberedPlaceholder n).eval
        (Database.env (before ++ (boundLiterals x.comparisons).map Literal.bound ++ after) u) =
      x.eval (fun _ c => c.truth u) i := by
  match x with
  | .test c =>
    have htest := c.eval_test (Operand.forall_comparisons_test.1 hcolumns) before after hn u
    simpa [Operand.predicate, Predicate.eval, Operand.comparisons, boundLiterals, Operand.eval] using htest
  | .group inner => exact inner.eval_predicate u hcolumns before after hn i

end

end Roster.Filter
