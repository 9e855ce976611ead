import Roster.Sql.Like
import Roster.Sql.Placeholder
import Roster.Sql.Soundex
import Roster.Sql.Value

/-!
# Conditions in SQL

A condition joins tests by AND and OR. It is evaluated on a row, given the values that are bound to its arguments `?1`, `?2`, … How a condition is read from its text is in `Sql.Predicate.Reader`.
-/

namespace Roster

open Text

def Relation.keyword : Relation → Text
  | .eq => "=".toList
  | .ne => "<>".toList
  | .ge => ">=".toList
  | .le => "<=".toList
  | .gt => ">".toList
  | .lt => "<".toList

def Connective.keyword : Connective → Text
  | .and => "AND".toList
  | .or => "OR".toList

/-- The relation that a word names. -/
def Relation.ofWord? (s : Text) : Option Relation :=
  [eq, ne, ge, le, gt, lt].find? (·.keyword == s)

@[simp] theorem Relation.ofWord?_keyword (r : Relation) : Relation.ofWord? r.keyword = some r := by
  cases r <;> rfl

namespace Sql

inductive Term
  | column (name : Text)
  | integer (n : Nat)
  /-- The value bound to the argument with this number, counted from one. -/
  | argument (n : Nat)
deriving DecidableEq, Repr

inductive Test
  | compare (left : Term) (relation : Relation) (right : Term)
  | like (negated : Bool) (subject pattern : Term)
  /-- A comparison of two SOUNDEX codes. -/
  | phonetic (left : Term) (relation : Relation) (right : Term)
  | member (negated : Bool) (subject : Term) (items : List Term)
deriving DecidableEq, Repr

inductive Predicate
  | test (test : Test)
  | join (connective : Connective) (left right : Predicate)
deriving DecidableEq, Repr

/-! ### Evaluation -/

/-- What a condition is evaluated on. -/
structure Env where
  /-- The affinity and the value of a column. A column that does not exist reads as null. -/
  column : Text → Affinity × Value
  /-- The values bound to the arguments, in their order. An argument that is not bound is null. -/
  arguments : List Value

namespace Term

def value (env : Env) : Term → Value
  | .column name => (env.column name).2
  | .integer n => .integer n
  | .argument n => (env.arguments[n - 1]?).getD .null

def affinity (env : Env) : Term → Affinity
  | .column name => (env.column name).1
  | _ => .none

end Term

/-- The truth value, or its opposite. -/
def negateIf (negated : Bool) (t : Truth) : Truth := if negated then t.not else t

/-- The SOUNDEX code of a value; that of null is that of the empty text. -/
def phoneticCode (v : Value) : Value := .text (soundex (v.asText?.getD []))

namespace Test

def eval (env : Env) : Test → Truth
  | .compare left relation right => Value.test (left.affinity env) relation (left.value env) (right.value env)
  | .like negated subject pattern =>
    match (subject.value env).asText?, (pattern.value env).asText? with
    | some s, some p => .ofBool (Sql.like p s != negated)
    | _, _ => .unknown
  | .phonetic left relation right =>
    Value.test .none relation (phoneticCode (left.value env)) (phoneticCode (right.value env))
  | .member negated subject items =>
    negateIf negated
      ((items.map fun item => Value.test (subject.affinity env) .eq (subject.value env) (item.value env)).foldr
        Truth.or .false)

/-- The terms of a test, in their order. -/
def terms : Test → List Term
  | .compare left _ right => [left, right]
  | .like _ subject pattern => [subject, pattern]
  | .phonetic left _ right => [left, right]
  | .member _ subject items => subject :: items

/-- The depth of the test as an expression tree. A collation adds nothing to it. Membership in a list of one item is a comparison with that item, which gets a sign. -/
def height : Test → Nat
  | .compare _ _ _ => 2
  | .like negated _ _ => if negated then 3 else 2
  | .phonetic _ _ _ => 3
  | .member negated _ items =>
    let membership := if items.length = 1 then 3 else 2
    if negated then membership + 1 else membership

end Test

namespace Predicate

def eval (env : Env) : Predicate → Truth
  | .test t => t.eval env
  | .join connective left right => connective.eval (left.eval env) (right.eval env)

/-- The tests of a condition, in their order. -/
def tests : Predicate → List Test
  | .test t => [t]
  | .join _ left right => left.tests ++ right.tests

/-- The column names of a condition, in their order. -/
def columns (p : Predicate) : List Text :=
  (p.tests.flatMap Test.terms).filterMap fun
    | .column name => some name
    | _ => none

def height : Predicate → Nat
  | .test t => t.height
  | .join _ left right => 1 + max left.height right.height

end Predicate

end Sql

end Roster
