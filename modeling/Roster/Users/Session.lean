import Roster.Users.Listing
import Roster.Users.Schema

/-!
# Sessions

A session puts requests to a store one after the other. The names that a filter compares by are written into the text of a query as they are, so the text of a query whose names have not been checked may be anything. What the database makes of such texts is not told here: an `Engine` says it. A text that names nothing but columns is answered by `Database.run`. Both queries begin with SELECT, and a statement that does changes nothing, so a text can change what is stored only if it has a semicolon, after which there may be another statement.
-/

namespace Roster

open Text

/-! ### Texts that are known -/

namespace Sql

/-- The term is a value, or by its name it can be nothing but a column. -/
def Term.isPlain : Term → Bool
  | .column name => isColumnIdentifier name
  | .integer n => (n : Int) ≤ Int64.maxValue.toInt
  | .argument _ => true

end Sql

/-- All terms of the statement are plain. -/
def Statement.isPlain (s : Statement) : Bool :=
  (s.condition.tests.flatMap Sql.Test.terms).all Sql.Term.isPlain && s.order.all fun t => Sql.isColumnIdentifier t.column

/-- The query is one statement with plain terms. -/
def Query.isKnown (q : Query) : Bool :=
  match Statement.read q.text with
  | .ok s => s.isPlain
  | .error _ => false

/-- What a database does with a query that is not known: its answer, and what is stored after it. -/
structure Engine where
  answer : Store → Query → Except DatabaseError Database.Answer
  after : Store → Query → Store

/-! ### Requests -/

namespace Store

/-- Stores a user and returns it with its id. -/
def insert (u : NewUser) (s : Store) : Except DatabaseError (User × Store) :=
  if s.has Table.users.name then
    (s.database.insert u).map fun (user, db) => (user, { s with users := db.users })
  else .error (.noSuchTable Table.users.name)

/-- The answer to a query, and the store after it. -/
def ask (engine : Engine) (s : Store) (q : Query) : Except DatabaseError Database.Answer × Store :=
  (if s.has Table.users.name && q.isKnown then s.database.run q else engine.answer s q,
    if q.text.contains ';' then engine.after s q else s)

def select (engine : Engine) (s : Store) (filter : Filter.Compiled) (order : SortOrder) (limit : UInt32)
    (offset : UInt64) : Except DatabaseError (List User) × Store :=
  let (answer, after) := s.ask engine (.rows filter order limit offset)
  (answer.map Database.Answer.selected, after)

def count (engine : Engine) (s : Store) (filter : Filter.Compiled) : Except DatabaseError Nat × Store :=
  let (answer, after) := s.ask engine (.count filter)
  (answer.map Database.Answer.counted, after)

/-- Lists users as `Database.list` does. -/
def list (engine : Engine) (s : Store) (options : Filter.Options) (r : ListRequest) :
    Except ServiceError Listing × Store :=
  match r.prepare options with
  | .error e => (.error e, s)
  | .ok (filter, order) =>
    match s.count engine filter with
    | (.error _, s) => (.error .ofDatabase, s)
    | (.ok total, s) =>
      match s.select engine filter order r.page.limit r.page.offset with
      | (.error _, s) => (.error .ofDatabase, s)
      | (.ok users, s) => (.ok ⟨users.map User.toPublic, r.page.account (UInt64.ofNat total)⟩, s)

end Store

/-- What is asked of a store. -/
inductive Step
  | insert (u : NewUser)
  | list (options : Filter.Options) (r : ListRequest)
  | select (filter : Filter.Compiled) (order : SortOrder) (limit : UInt32) (offset : UInt64)
  | count (filter : Filter.Compiled)
  | applySchema
deriving DecidableEq, Repr

inductive Reply
  | inserted (outcome : Except DatabaseError User)
  | listed (outcome : Except ServiceError Listing)
  | selected (outcome : Except DatabaseError (List User))
  | counted (outcome : Except DatabaseError Nat)
  /-- The version that is recorded after the schema has been applied. -/
  | applied (outcome : Except DatabaseError (Option Nat))

/-- The row that was stored. -/
def Reply.inserted? : Reply → Option User
  | .inserted (.ok user) => some user
  | _ => none

namespace Store

/-- The reply to a request, and the store after it. -/
def step (engine : Engine) (s : Store) : Step → Reply × Store
  | .insert u =>
    match s.insert u with
    | .ok (user, after) => (.inserted (.ok user), after)
    | .error e => (.inserted (.error e), s)
  | .list options r =>
    let (outcome, after) := s.list engine options r
    (.listed outcome, after)
  | .select filter order limit offset =>
    let (outcome, after) := s.select engine filter order limit offset
    (.selected outcome, after)
  | .count filter =>
    let (outcome, after) := s.count engine filter
    (.counted outcome, after)
  | .applySchema =>
    match s.applySchema with
    | .ok after => (.applied (.ok after.version), after)
    | .error e => (.applied (.error e), s)

/-- The replies to requests, and the store after them. -/
def session (engine : Engine) (s : Store) : List Step → List Reply × Store
  | [] => ([], s)
  | next :: steps =>
    let (reply, after) := s.step engine next
    let (replies, last) := session engine after steps
    (reply :: replies, last)

end Store

end Roster
