import Roster.Filter.Error
import Roster.Filter.Operator

/-!
# Compiled filters

A filter is compiled to a condition in SQL whose values are bound to the placeholders `@p0`, `@p1`, … in the order in which they are read. Tokens are consumed one at a time, and each comparison is written as soon as its value is read.

`&&` and `||` have one precedence and are taken from left to right, while in SQL AND binds tighter. So a connective waits until its right operand starts, and when it differs from the one written before it at the same depth, all that was written at that depth is put into parentheses first: `A || B && C` becomes `(A OR B) AND C`. To find that text again, each open group remembers the byte offset in the output where its contents begin.

Column names are written as they are. Whoever runs the condition must check `Compiled.columns` against an allow-list.
-/

namespace Roster.Filter

open Text

/-- The condition of a blank filter. -/
def matchAll : Text := "1 = 1".toList

structure Options where
  /-- The collation that every LIKE comparison names. -/
  collation : Text
  /-- The greatest length of a filter in bytes. -/
  maxLength : Nat
deriving DecidableEq, Repr

/-- A bound value and the placeholder that stands for it. -/
structure Parameter where
  name : Text
  value : Literal
deriving DecidableEq, Repr

structure Compiled where
  sql : Text
  parameters : List Parameter
  /-- The columns of the comparisons, in their order. -/
  columns : List Text
deriving DecidableEq, Repr

namespace Compiled

def all : Compiled := ⟨matchAll, [], []⟩

def isMatchAll (filter : Compiled) : Bool := filter.parameters.isEmpty && filter.sql == matchAll

end Compiled

/-- The placeholder of the value with the index `n`. -/
def placeholder (n : Nat) : Text := '@' :: 'p' :: ofNat n

/-! ### The state of a compilation -/

/-- The output of one parenthesis depth. -/
structure Group where
  /-- The offset of the `(` in the filter; none outside all parentheses. -/
  opened : Option Nat
  /-- The byte offset in the output where the contents begin. -/
  start : Nat
  /-- The connective that was read and is not written yet. -/
  pending : Option Connective
  /-- The connective that was written last. -/
  applied : Option Connective
deriving DecidableEq, Repr

/-- What the next token may be. -/
inductive Phase
  /-- A column or an opening parenthesis. -/
  | operand
  /-- The operator that tests the column. -/
  | operator (column : Text)
  /-- The value that the column is compared with. -/
  | value (column : Text) (op : Operator)
  /-- A connective or a closing parenthesis. -/
  | connective
deriving DecidableEq, Repr

structure State where
  phase : Phase
  /-- The open groups, the innermost first and the filter as a whole last. -/
  groups : List Group
  output : Text
  parameters : List Parameter
  columns : List Text
deriving DecidableEq, Repr

namespace State

def initial : State := ⟨.operand, [⟨none, 0, none, none⟩], [], [], []⟩

/-- Writes the connective that waits for its right operand, if there is one. -/
def flush (st : State) : State :=
  match st.groups with
  | [] => st
  | group :: outer =>
    match group.pending with
    | none => st
    | some connective =>
      let left :=
        if group.applied.any (· ≠ connective) then
          (insertAt? st.output group.start '(').getD st.output ++ [')']
        else st.output
      { st with
        output := left ++ ' ' :: connective.keyword ++ [' ']
        groups := { group with pending := none, applied := some connective } :: outer }

def openGroup (offset : Nat) (st : State) : State :=
  let st := st.flush
  let output := st.output ++ ['(']
  { st with output, groups := ⟨some offset, byteSize output, none, none⟩ :: st.groups }

def closeGroup (st : State) : State :=
  { st with output := st.output ++ [')'], groups := st.groups.tail }

def setPending (connective : Connective) (st : State) : State :=
  match st.groups with
  | [] => st
  | group :: outer => { st with phase := .operand, groups := { group with pending := some connective } :: outer }

/-- Writes the comparison of a column with the given values. -/
def compare (collation column : Text) (op : Operator) (values : List Literal) (st : State) : State :=
  let bound := values.mapIdx fun i value =>
    (⟨placeholder (st.parameters.length + i), op.rule.prepare value⟩ : Parameter)
  let st := st.flush
  { st with
    phase := .connective
    output := st.output ++ op.rule.render column (bound.map Parameter.name) collation
    parameters := st.parameters ++ bound
    columns := st.columns ++ [column] }

/-- The operator of a symbol. -/
def operator (symbol : Text) (position : Nat) : Except ParseError Operator :=
  match Operator.find? symbol with
  | some op => .ok op
  | none => .error (.unknownOperator symbol position)

/-- No group of the filter is open. -/
def isOutermost (st : State) : Bool := st.groups.length < 2

def step (collation : Text) (st : State) (t : Located) : Except ParseError State :=
  let unexpected := .error (.unexpectedToken t.token t.offset)
  match st.phase, t.token with
  | .operand, .leftParen => .ok (st.openGroup t.offset)
  | .operand, .rightParen =>
    if st.isOutermost then .error (.unbalancedParens t.offset) else unexpected
  | .operand, .operator symbol =>
    match operator symbol t.offset with
    | .error e => .error e
    | .ok _ => unexpected
  | .operand, .word column => .ok { st with phase := .operator column }
  | .operand, _ => unexpected
  | .operator column, .operator symbol =>
    match operator symbol t.offset with
    | .error e => .error e
    | .ok op =>
      if op.rule.connective?.isSome then unexpected else .ok { st with phase := .value column op }
  | .operator _, _ => unexpected
  | .value _ _, .leftParen => .error (.unbalancedParens t.offset)
  | .value _ _, .rightParen => .error (.unbalancedParens t.offset)
  | .value column op, .list raw =>
    if op.rule.takesList then
      match Items.read raw with
      | .error fault => .error (.invalidList t.offset fault)
      | .ok values => .ok (st.compare collation column op values)
    else .error (.invalidList t.offset (.notTaken op.symbol))
  | .value column op, .word text =>
    if op.rule.takesList then unexpected else .ok (st.compare collation column op [.ofWord text])
  | .value column op, .quoted text =>
    if op.rule.takesList then unexpected else .ok (st.compare collation column op [.str text])
  | .value _ _, .operator _ => unexpected
  | .connective, .rightParen =>
    if st.isOutermost then .error (.unbalancedParens t.offset) else .ok st.closeGroup
  | .connective, .operator symbol =>
    match operator symbol t.offset with
    | .error e => .error e
    | .ok op =>
      match op.rule.connective? with
      | some connective => .ok (st.setPending connective)
      | none => unexpected
  | .connective, _ => unexpected

def finish (st : State) : Except ParseError Compiled :=
  if st.phase = .connective then
    match st.groups.head?.bind Group.opened with
    | some position => .error (.unbalancedParens position)
    | none => .ok ⟨st.output, st.parameters, st.columns⟩
  else .error .unexpectedEnd

end State

/-! ### Compilation -/

/-- Compiles a sequence of tokens, which must hold at least one condition. -/
def compileTokens (collation : Text) (tokens : List Located) : Except ParseError Compiled :=
  tokens.foldlM (State.step collation) State.initial >>= State.finish

def compile (options : Options) (filter : Text) : Except Error Compiled :=
  if options.maxLength < byteSize filter then .error (.tooLong (byteSize filter) options.maxLength)
  else if (trim filter).isEmpty then .ok .all
  else
    match scan filter with
    | .error e => .error (.scan e)
    | .ok tokens => (compileTokens options.collation tokens).mapError .parse

end Roster.Filter
