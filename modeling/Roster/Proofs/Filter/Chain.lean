import Roster.Filter.Compiled

/-!
# Filters as trees

A filter is a chain: operands joined by `&&` and `||`. An operand is a comparison or a chain in parentheses. Chains grow at the right end, so a tree says by its shape that the connectives have one precedence and are taken from left to right.

A tree is read in four ways: as the tokens that spell it, as the comparisons in it, as a truth value, and as the condition in SQL that is written for it.
-/

namespace Roster

open Text

/-- The symbol of a connective in a filter. -/
def Connective.symbol : Connective → Text
  | .and => "&&".toList
  | .or => "||".toList

theorem Connective.eq_of_symbol : ∀ {a b : Connective}, a.symbol = b.symbol → a = b
  | .and, .and, _ => rfl
  | .or, .or, _ => rfl

namespace Filter

/-- The literals that a comparison under this rule takes from its value token, if it takes such a token. -/
def Rule.literals? (rule : Rule) : Token → Option (List Literal)
  | .word text => if rule.takesList then none else some [.ofWord text]
  | .quoted text => if rule.takesList then none else some [.str text]
  | .list raw => if rule.takesList then (Items.read raw).toOption else none
  | _ => none

/-- A value is one literal, or a list of them where the rule takes a list. -/
theorem Rule.literals?_eq_some {rule : Rule} {value : Token} {literals : List Literal} :
    rule.literals? value = some literals ↔
      (rule.takesList = false ∧ ∃ text, value = .word text ∧ literals = [.ofWord text]) ∨
        (rule.takesList = false ∧ ∃ text, value = .quoted text ∧ literals = [.str text]) ∨
        (rule.takesList = true ∧ ∃ raw, value = .list raw ∧ Items.read raw = .ok literals) := by
  cases value <;> simp [Rule.literals?, except_toOption_eq_some, eq_comm (a := literals)]

/-- An operator that tests a column. -/
structure TestOperator extends Operator where
  mem_all : toOperator ∈ Operator.all
  connective?_eq_none : rule.connective? = none
deriving DecidableEq

/-- A comparison as it is written, with the literals that it takes. -/
structure Comparison where
  column : Text
  operator : TestOperator
  value : Token
  literals : List Literal
  literals?_eq : operator.rule.literals? value = some literals
deriving DecidableEq

mutual

inductive Chain
  | single (operand : Operand)
  | join (left : Chain) (connective : Connective) (right : Operand)

inductive Operand
  | test (comparison : Comparison)
  | group (inner : Chain)

end

/-! ### Spelling -/

def Comparison.tokens (c : Comparison) : List Token :=
  [.word c.column, .operator c.operator.symbol, c.value]

theorem TestOperator.eq_of_symbol {a b : TestOperator} (h : a.symbol = b.symbol) : a = b := by
  have hall : ∀ op ∈ Operator.all, ∀ op' ∈ Operator.all, op.symbol = op'.symbol → op = op' := by decide
  have := hall _ a.mem_all _ b.mem_all h
  cases a
  cases b
  simp_all

theorem Comparison.eq_of_tokens {c d : Comparison} (h : c.tokens = d.tokens) : c = d := by
  obtain ⟨column, operator, value, literals, hc⟩ := c
  obtain ⟨column', operator', value', literals', hd⟩ := d
  simp only [Comparison.tokens, List.cons.injEq, Token.word.injEq, Token.operator.injEq, and_true] at h
  obtain ⟨rfl, hsymbol, rfl⟩ := h
  obtain rfl := TestOperator.eq_of_symbol hsymbol
  obtain rfl : literals = literals' := Option.some.inj (hc.symm.trans hd)
  rfl

mutual

def Chain.tokens : Chain → List Token
  | .single x => x.tokens
  | .join left connective right => left.tokens ++ .operator connective.symbol :: right.tokens

def Operand.tokens : Operand → List Token
  | .test c => c.tokens
  | .group inner => .leftParen :: inner.tokens ++ [.rightParen]

end

/-! ### Comparisons -/

mutual

/-- The comparisons of a chain, in their order. -/
def Chain.comparisons : Chain → List Comparison
  | .single x => x.comparisons
  | .join left _ right => left.comparisons ++ right.comparisons

def Operand.comparisons : Operand → List Comparison
  | .test c => [c]
  | .group inner => inner.comparisons

end

mutual

theorem Chain.comparisons_ne_nil (e : Chain) : e.comparisons ≠ [] := by
  match e with
  | .single x => exact x.comparisons_ne_nil
  | .join left _ _ => exact List.append_ne_nil_of_left_ne_nil left.comparisons_ne_nil _

theorem Operand.comparisons_ne_nil (x : Operand) : x.comparisons ≠ [] := by
  match x with
  | .test c => exact List.cons_ne_nil c []
  | .group inner => exact inner.comparisons_ne_nil

end

theorem Chain.forall_comparisons_join {p : Comparison → Prop} {left : Chain} {connective : Connective}
    {right : Operand} :
    (∀ c ∈ (Chain.join left connective right).comparisons, p c) ↔
      (∀ c ∈ left.comparisons, p c) ∧ ∀ c ∈ right.comparisons, p c := by
  simp [Chain.comparisons, or_imp, forall_and]

theorem Operand.forall_comparisons_test {p : Comparison → Prop} {c : Comparison} :
    (∀ d ∈ (Operand.test c).comparisons, p d) ↔ p c := by
  simp [Operand.comparisons]

/-- The literals of a comparison as they are bound. -/
def Comparison.bound (c : Comparison) : List Literal := c.literals.map c.operator.rule.prepare

/-- The literals of comparisons as they are bound, in their order. -/
def boundLiterals (cs : List Comparison) : List Literal := cs.flatMap Comparison.bound

theorem boundLiterals_cons (c : Comparison) (cs : List Comparison) :
    boundLiterals (c :: cs) = c.bound ++ boundLiterals cs :=
  List.flatMap_cons

theorem boundLiterals_append (cs ds : List Comparison) :
    boundLiterals (cs ++ ds) = boundLiterals cs ++ boundLiterals ds :=
  List.flatMap_append

/-- Literals with the placeholders that stand for them, from that with the index `n` on. -/
def parametersFrom (n : Nat) (values : List Literal) : List Parameter :=
  values.mapIdx fun i value => ⟨placeholder (n + i), value⟩

/-! ### Truth -/

mutual

/-- The truth value of a chain, given those of its comparisons, which are numbered from `i` on. -/
def Chain.eval (truth : Nat → Comparison → Truth) (i : Nat) : Chain → Truth
  | .single x => x.eval truth i
  | .join left connective right =>
    connective.eval (left.eval truth i) (right.eval truth (i + left.comparisons.length))

def Operand.eval (truth : Nat → Comparison → Truth) (i : Nat) : Operand → Truth
  | .test c => truth i c
  | .group inner => inner.eval truth i

end

/-! ### Writing

The condition that stands for a tree. Placeholders are named by `name`; the first one has the index `n`. -/

/-- The connective before the last operand. -/
def Chain.last? : Chain → Option Connective
  | .single _ => none
  | .join _ connective _ => some connective

/-- The text of a chain and of the connective after it. A chain that ends in the other connective is put into parentheses. -/
def writeLeft (last : Option Connective) (connective : Connective) (left : Text) : Text :=
  (if last.any (· ≠ connective) then '(' :: left ++ [')'] else left) ++ ' ' :: connective.keyword ++ [' ']

/-- The text before the connective is written as it is or in parentheses. -/
theorem writeLeft_append (last : Option Connective) (connective : Connective) (left right : Text) :
    writeLeft last connective left ++ right =
      (if last.any (· ≠ connective) then '(' :: (left ++ [')']) else left) ++
        ' ' :: (connective.keyword ++ ' ' :: right) := by
  simp only [writeLeft, List.append_assoc, List.cons_append, List.nil_append]

def Comparison.render (name : Nat → Text) (collation : Text) (n : Nat) (c : Comparison) : Text :=
  c.operator.rule.render c.column ((List.range' n c.bound.length).map name) collation

mutual

def Chain.render (name : Nat → Text) (collation : Text) (n : Nat) : Chain → Text
  | .single x => x.render name collation n
  | .join left connective right =>
    writeLeft left.last? connective (left.render name collation n) ++
      right.render name collation (n + (boundLiterals left.comparisons).length)

def Operand.render (name : Nat → Text) (collation : Text) (n : Nat) : Operand → Text
  | .test c => c.render name collation n
  | .group inner => '(' :: inner.render name collation n ++ [')']

end

/-- The compiled filter of a chain. -/
def Chain.compiled (collation : Text) (e : Chain) : Compiled where
  sql := e.render placeholder collation 0
  parameters := parametersFrom 0 (boundLiterals e.comparisons)
  columns := e.comparisons.map Comparison.column

theorem Chain.forall_columns {p : Text → Prop} {collation : Text} {e : Chain} :
    (∀ column ∈ (e.compiled collation).columns, p column) ↔ ∀ c ∈ e.comparisons, p c.column := by
  simp [Chain.compiled]

end Filter

end Roster
