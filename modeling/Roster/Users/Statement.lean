import Roster.Filter.Compiled
import Roster.SortOrder
import Roster.Sql.Predicate.Reader
import Roster.Users.User

/-!
# Statements over the users

Two statements are put to the database: one selects a page of the users that satisfy a compiled filter, the other counts them. Each goes there as a text with numbered arguments and the values bound to them: first those of the filter, then the limit and the offset. The database reads the text back into a `Statement`.
-/

namespace Roster

open Text

/-- The text of a statement and the values bound to its arguments. -/
structure Query where
  text : Text
  arguments : List Sql.Value
deriving DecidableEq, Repr

/-- The value that a literal is bound as. -/
def Filter.Literal.bound : Filter.Literal → Sql.Value
  | .str s => .text s
  | .raw s => .text s
  | .bool b => .integer (if b then 1 else 0)
  | .int n => .integer n

namespace Query

def rowsHead : Text :=
  "SELECT ".toList ++ join ", ".toList (Column.all.map Column.name) ++ " FROM Users WHERE ".toList

def countHead : Text := "SELECT COUNT(*) FROM Users WHERE ".toList

/-- The order of users where none is asked for, so that pages stay the same. -/
def defaultOrder : Text := "Username ASC".toList

/-- The greatest offset that can be bound. -/
def maxOffset : Nat := UInt64.size / 2 - 1

/-- Selects a page of the users that satisfy the filter. -/
def rows (filter : Filter.Compiled) (order : SortOrder) (limit : UInt32) (offset : UInt64) : Query where
  text :=
    let n := filter.parameters.length
    rowsHead ++ Sql.numbered filter.sql ++ " ORDER BY ".toList ++ order.toSql?.getD defaultOrder ++
      " LIMIT ".toList ++ Sql.argument (n + 1) ++ " OFFSET ".toList ++ Sql.argument (n + 2)
  arguments :=
    filter.parameters.map (·.value.bound) ++
      [.integer limit.toNat, .integer (min offset.toNat maxOffset : Nat)]

/-- Counts the users that satisfy the filter. -/
def count (filter : Filter.Compiled) : Query where
  text := countHead ++ Sql.numbered filter.sql
  arguments := filter.parameters.map (·.value.bound)

end Query

inductive Statement
  /-- Users in an order; the limit and the offset are the values of two arguments. -/
  | rows (condition : Sql.Predicate) (order : SortOrder) (limit offset : Nat)
  | count (condition : Sql.Predicate)
deriving DecidableEq, Repr

namespace Statement

open Sql (Lexeme Unreadable)

def condition : Statement → Sql.Predicate
  | .rows condition _ _ _ => condition
  | .count condition => condition

def order : Statement → SortOrder
  | .rows _ order _ _ => order
  | .count _ => []

/-- The limit and the offset of a selection. -/
def page : Statement → List Sql.Term
  | .rows _ _ limit offset => [.argument limit, .argument offset]
  | .count _ => []

/-- The terms of an order, and what follows them. -/
def orderTerms? : List Lexeme → Option (SortOrder × List Lexeme)
  | .word column :: .word direction :: .comma :: rest => do
    let direction ← Direction.ofWord? direction
    let (terms, rest) ← orderTerms? rest
    return (⟨column, direction⟩ :: terms, rest)
  | .word column :: .word direction :: rest => do
    let direction ← Direction.ofWord? direction
    return ([⟨column, direction⟩], rest)
  | _ => none

/-- What follows the condition of a selection. -/
def page? (ts : List Lexeme) : Option (SortOrder × Nat × Nat) := do
  let rest ← (Sql.lexemes "ORDER BY".toList).isPrefixOf? ts
  let (order, rest) ← orderTerms? rest
  match rest with
  | [.word l, .word limit, .word o, .word offset] =>
    if l = "LIMIT".toList ∧ o = "OFFSET".toList then
      return (order, ← Sql.argument? limit, ← Sql.argument? offset)
    else none
  | _ => none

def read (s : Text) : Except Unreadable Statement :=
  let ts := Sql.lexemes s
  match (Sql.lexemes Query.countHead).isPrefixOf? ts, (Sql.lexemes Query.rowsHead).isPrefixOf? ts with
  | some ts, _ => do
    let (condition, rest) ← Sql.readCondition ts
    if rest.isEmpty then .ok (.count condition) else .error (Sql.unreadable rest)
  | none, some ts => do
    let (condition, rest) ← Sql.readCondition ts
    match page? rest with
    | some (order, limit, offset) => .ok (.rows condition order limit offset)
    | none => .error (Sql.unreadable rest)
  | none, none => .error (Sql.unreadable ts)

end Statement

end Roster
