import Roster.Sql.Script
import Roster.Users.Session

/-!
# Queries of several statements

A name that a filter compares by may close the condition, and the statement with it, and begin another: the text of such a query is a script. Its statements are run one after the other until one fails. The rows of the first one are the answer; counting stops at the first row, so what follows a count is not run.

Besides the statements of queries three kinds are known: a selection without an order and a page, a selection or a count by a single term, and `DELETE FROM Users`.
-/

namespace Roster

open Text

namespace Sql

/-- The text begins with a number other than zero. An exponent so small that it makes the number zero is left out. -/
def beginsNonzero (s : Text) : Bool :=
  let body := (sign (s.dropWhile isBlankAscii)).2
  let fraction := match body.dropWhile Char.isDigit with
    | '.' :: rest => rest.takeWhile Char.isDigit
    | _ => []
  (body.takeWhile Char.isDigit ++ fraction).any (· != '0')

/-- The value as a condition. -/
def Value.truth : Value → Truth
  | .null => .unknown
  | .integer n => .ofBool (n != 0)
  | .text s => .ofBool (beginsNonzero s)

end Sql

namespace Database

/-- The users of whom a single term is true. -/
def byTerm (db : Database) (arguments : List Sql.Value) (t : Sql.Term) : Except DatabaseError (List User) :=
  let selected := db.users.filter fun u => (t.value (env arguments u)).truth == .true
  match t with
  | .column name => if (Column.find? name).isNone then .error (.noSuchColumn name) else .ok selected
  | _ => .ok selected

/-- The users of whom a condition is true, as they are stored. -/
def byCondition (db : Database) (arguments : List Sql.Value) (p : Sql.Predicate) : Except DatabaseError (List User) := do
  check (.count p)
  return db.users.filter (satisfies p arguments)

/-- The answer to the first statement of a script. -/
def runFirst (db : Database) (q : Query) : Except DatabaseError Answer :=
  let ts := Sql.lexemes q.text
  match (Sql.lexemes Query.countHead).isPrefixOf? ts, (Sql.lexemes Query.rowsHead).isPrefixOf? ts with
  | some [.word w], _ => (db.byTerm q.arguments (.ofWord w)).map fun users => .count users.length
  | none, some [.word w] => (db.byTerm q.arguments (.ofWord w)).map .users
  | none, some ts =>
    match Sql.readCondition ts with
    | .ok (p, []) => (db.byCondition q.arguments p).map .users
    | _ => db.run q
  | _, _ => db.run q

end Database

namespace Store

/-- Runs the statements that follow a selection. A statement without lexemes does nothing. -/
def runRest (s : Store) : List Text → Except DatabaseError Unit × Store
  | [] => (.ok (), s)
  | next :: rest =>
    if (Sql.lexemes next).isEmpty then s.runRest rest
    else
      match Sql.mismatch? (Sql.lexemes "DELETE FROM Users".toList) (Sql.lexemes next) with
      | some fault => (.error (.unreadable fault), s)
      | none => runRest { s with users := [] } rest

/-- The answer to a script, and the store after it. -/
def runScript (s : Store) (q : Query) : Except DatabaseError Database.Answer × Store :=
  let texts := Sql.statements q.text
  match s.database.runFirst ⟨texts.headD [], q.arguments⟩ with
  | .error e => (.error e, s)
  | .ok (.count n) => (.ok (.count n), s)
  | .ok (.users users) =>
    let (outcome, after) := s.runRest texts.tail
    (outcome.map fun _ => .users users, after)

end Store

/-- Takes every query for a script. -/
def Engine.scripts : Engine := ⟨fun s q => (s.runScript q).1, fun s q => (s.runScript q).2⟩

end Roster
