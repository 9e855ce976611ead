import Roster.Users.Database

/-!
# The schema

A store holds two tables, one of users and one for the version of its schema, and indexes on two columns of users. Applying the schema creates what is missing and leaves alone what is there, so it may be applied any number of times. The version is recorded with it, and if anything fails, nothing is done.
-/

namespace Roster

open Text

inductive Table
  | version
  | users
deriving DecidableEq, Repr

inductive SchemaObject
  | table (table : Table)
  | index (name : Text) (table : Table) (column : Column)
deriving DecidableEq, Repr

def Table.name : Table → Text
  | version => "schema_version".toList
  | users => "Users".toList

namespace SchemaObject

def name : SchemaObject → Text
  | .table t => t.name
  | .index name _ _ => name

def kind : SchemaObject → Text
  | .table _ => "table".toList
  | .index _ _ _ => "index".toList

end SchemaObject

/-- A statement that creates a table or an index. -/
structure Creation where
  object : SchemaObject
  /-- It does nothing if there is an object of the name. -/
  ifNotExists : Bool
deriving DecidableEq, Repr

/-- The statements of the schema, in their order. -/
def schema : List Creation :=
  [⟨.table .version, true⟩, ⟨.table .users, true⟩, ⟨.index "idx_users_email".toList .users .email, true⟩,
    ⟨.index "idx_users_last_login".toList .users .lastLoginAt, true⟩]

def schemaVersion : Nat := 1

/-- All that is stored. -/
structure Store where
  objects : List SchemaObject
  /-- The version that is recorded; its table has one row at most. -/
  version : Option Nat
  users : List User
deriving DecidableEq, Repr

namespace Store

def fresh : Store := ⟨[], none, []⟩

/-- The users as they are asked for. -/
def database (s : Store) : Database := ⟨s.users⟩

/-- There is a table or an index of the name. -/
def has (s : Store) (name : Text) : Bool := s.objects.any fun o => sameIgnoringCase o.name name

def create (s : Store) (c : Creation) : Except DatabaseError Store :=
  if s.has c.object.name then
    if c.ifNotExists then .ok s else .error (.alreadyExists c.object.kind c.object.name)
  else
    let created := { s with objects := s.objects ++ [c.object] }
    match c.object with
    | .table .version => .ok { created with version := none }
    | .table .users => .ok { created with users := [] }
    | .index _ table _ => if s.has table.name then .ok created else .error (.noSuchTable table.name)

/-- Records the version, or replaces the one that is recorded. -/
def record (s : Store) (version : Nat) : Except DatabaseError Store :=
  if s.has Table.version.name then .ok { s with version := some version } else .error (.noSuchTable Table.version.name)

def applySchema (s : Store) : Except DatabaseError Store := do
  let s ← schema.foldlM create s
  s.record schemaVersion

end Store

end Roster
