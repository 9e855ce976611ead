import Roster.Users.Statement

/-!
# The database of users

Users are kept in the order in which they were stored. A user is stored only if the username and the e-mail address are of permitted length and the username is new, byte for byte. Queries are read from their text, checked, and answered from the users that are there. Here every text is one statement of known columns; what else a database makes of a text is a matter of sessions.
-/

namespace Roster

open Text

inductive DatabaseError
  | noSuchColumn (name : Text)
  /-- The condition is nested more deeply than the database accepts. -/
  | tooDeep
  /-- The number of an argument is greater than the database accepts. -/
  | argumentNumber
  | unreadable (fault : Sql.Unreadable)
  | noSuchTable (name : Text)
  /-- A table or an index of the name is there already. -/
  | alreadyExists (kind name : Text)
  | usernameLength
  | emailLength
  | duplicateUsername
deriving DecidableEq, Repr

namespace Database

/-- The greatest depth of an expression. -/
def maxDepth : Nat := 1000

/-- The greatest number of an argument. -/
def maxArguments : Nat := 32766

end Database

namespace DatabaseError

def code : DatabaseError → Nat
  | .usernameLength => 275
  | .emailLength => 275
  | .duplicateUsername => 2067
  | _ => 1

def detail : DatabaseError → Text
  | .noSuchColumn name => "no such column: ".toList ++ name
  | .tooDeep =>
    "Expression tree is too large (maximum depth ".toList ++ ofNat Database.maxDepth ++ [')']
  | .argumentNumber => "variable number must be between ?1 and ?".toList ++ ofNat Database.maxArguments
  | .unreadable .early => "incomplete input".toList
  | .unreadable (.near text) => "near \"".toList ++ text ++ "\": syntax error".toList
  | .unreadable (.unrecognized word) => "unrecognized token: \"".toList ++ word ++ ['"']
  | .noSuchTable name => "no such table: ".toList ++ name
  | .alreadyExists kind name => kind ++ ' ' :: name ++ " already exists".toList
  | .usernameLength =>
    "CHECK constraint failed: length(Username) >= 1 AND length(Username) <= 256".toList
  | .emailLength => "CHECK constraint failed: length(Email) <= 320".toList
  | .duplicateUsername => "UNIQUE constraint failed: Users.Username".toList

def message (e : DatabaseError) : Text :=
  "Database error: error returned from database: (code: ".toList ++ ofNat e.code ++ ") ".toList ++ e.detail

end DatabaseError

structure Database where
  users : List User
deriving DecidableEq, Repr

namespace Database

def empty : Database := ⟨[]⟩

/-! ### Storing -/

/-- The id of the next user: users are numbered from one. -/
def nextId (db : Database) : Text := 'u' :: ofNat (db.users.length + 1)

/-- The length of a text as a constraint of a table takes it: what begins at a null character does not count. -/
def measuredLength (s : Text) : Nat := (s.takeWhile fun c => c.toNat != 0).length

/-- Stores a user and returns it with its id. -/
def insert (u : NewUser) (db : Database) : Except DatabaseError (User × Database) :=
  if measuredLength u.username < 1 ∨ 256 < measuredLength u.username then .error .usernameLength
  else if 320 < measuredLength u.email then .error .emailLength
  else if db.users.any fun v => v.username == u.username then .error .duplicateUsername
  else
    let user : User := ⟨db.nextId, u.username, u.email, u.passwordHash, u.lastLoginAt, u.active⟩
    .ok (user, ⟨db.users ++ [user]⟩)

/-! ### Answering -/

/-- What a condition sees of a user. -/
def env (arguments : List Sql.Value) (u : User) : Sql.Env where
  column name :=
    match Column.find? name with
    | some c => (c.affinity, u.value c)
    | none => (.none, .null)
  arguments := arguments

/-- The user satisfies the condition. -/
def satisfies (condition : Sql.Predicate) (arguments : List Sql.Value) (u : User) : Bool :=
  condition.eval (env arguments u) == .true

/-- The value by which users are ordered. -/
def sortKey (column : Text) (u : User) : Sql.Value :=
  match Column.find? column with
  | some c => u.value c
  | none => .null

/-- The order of two users. -/
def compareBy : SortOrder → User → User → Ordering
  | [], _, _ => .eq
  | t :: order, u, v =>
    let first := Sql.Value.order (sortKey t.column u) (sortKey t.column v)
    (match t.direction with
      | .ascending => first
      | .descending => first.swap).then (compareBy order u v)

/-- The whole number bound to an argument. -/
def wholeArgument (arguments : List Sql.Value) (n : Nat) : Nat :=
  match arguments[n - 1]? with
  | some (.integer k) => k.toNat
  | _ => 0

inductive Answer
  | users (users : List User)
  | count (n : Nat)
deriving DecidableEq, Repr

/-- The users of a selection. -/
def Answer.selected : Answer → List User
  | .users listed => listed
  | .count _ => []

/-- The number that was counted. -/
def Answer.counted : Answer → Nat
  | .users _ => 0
  | .count n => n

/-- The database accepts the number of an argument. -/
def isPermitted : Sql.Term → Bool
  | .argument n => 1 ≤ n && n ≤ maxArguments
  | _ => true

/-- The depth of a condition. Whichever comes first in the text is refused: an argument with a number that is not permitted, or a part that is too deep. -/
def depth : Sql.Predicate → Except DatabaseError Nat
  | .test t => if t.terms.all isPermitted then .ok t.height else .error .argumentNumber
  | .join _ left right => do
    let height := 1 + max (← depth left) (← depth right)
    if maxDepth < height then .error .tooDeep else .ok height

/-- Refuses a statement that is too deep, has arguments with numbers that are too great or names columns that do not exist. An order of more than 2000 terms, which is refused too, is left out, and so are patterns of LIKE with more than 50000 bytes, which fail when the statement is run. -/
def check (s : Statement) : Except DatabaseError Unit := do
  let _ ← depth s.condition
  if !s.page.all isPermitted then .error .argumentNumber
  else
    match (s.condition.columns ++ s.order.map SortTerm.column).find? fun name => (Column.find? name).isNone with
    | some name => .error (.noSuchColumn name)
    | none => .ok ()

def answer (db : Database) (arguments : List Sql.Value) : Statement → Answer
  | .count condition => .count (db.users.countP (satisfies condition arguments))
  | .rows condition order limit offset =>
    let matching := db.users.filter (satisfies condition arguments)
    let sorted := matching.mergeSort fun u v => (compareBy order u v).isLE
    .users ((sorted.drop (wholeArgument arguments offset)).take (wholeArgument arguments limit))

/-- Answers a query. Of several faults the first in the text would be reported; that one of the grammar is reported before all others, wherever it stands, is a simplification. -/
def run (db : Database) (q : Query) : Except DatabaseError Answer :=
  match Statement.read q.text with
  | .error fault => .error (.unreadable fault)
  | .ok s => do
    check s
    return db.answer q.arguments s

/-- A page of the users that satisfy the filter. -/
def select (db : Database) (filter : Filter.Compiled) (order : SortOrder) (limit : UInt32) (offset : UInt64) :
    Except DatabaseError (List User) :=
  (db.run (.rows filter order limit offset)).map Answer.selected

/-- The number of users that satisfy the filter. -/
def count (db : Database) (filter : Filter.Compiled) : Except DatabaseError Nat :=
  (db.run (.count filter)).map Answer.counted

end Database

end Roster
