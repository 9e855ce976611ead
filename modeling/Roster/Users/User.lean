import Roster.Sql.Value

/-!
# Users

A stored user, the part of it that callers may see, and its columns in the database. Column names are matched without regard to the case of ASCII letters.
-/

namespace Roster

open Text

structure User where
  id : Text
  username : Text
  email : Text
  passwordHash : Text
  lastLoginAt : Option Text
  active : Bool
deriving DecidableEq, Repr

/-- A user to be stored; the id is given by the database. -/
structure NewUser where
  username : Text
  email : Text
  passwordHash : Text
  lastLoginAt : Option Text
  active : Bool
deriving DecidableEq, Repr

/-- What callers see of a user: all but the password hash. -/
structure PublicUser where
  id : Text
  username : Text
  email : Text
  lastLoginAt : Option Text
  active : Bool
deriving DecidableEq, Repr

def User.toPublic (u : User) : PublicUser := ⟨u.id, u.username, u.email, u.lastLoginAt, u.active⟩

inductive Column
  | id
  | username
  | email
  | passwordHash
  | lastLoginAt
  | active
deriving DecidableEq, Repr

namespace Column

/-- All columns, in the order of the table. -/
def all : List Column := [id, username, email, passwordHash, lastLoginAt, active]

def name : Column → Text
  | id => "Id".toList
  | username => "Username".toList
  | email => "Email".toList
  | passwordHash => "PasswordHash".toList
  | lastLoginAt => "LastLoginAt".toList
  | active => "Active".toList

/-- The column of a name in any case. -/
def find? (s : Text) : Option Column := all.find? fun c => sameIgnoringCase c.name s

@[simp] theorem find?_name (c : Column) : find? c.name = some c := by cases c <;> decide

def affinity : Column → Sql.Affinity
  | active => .integer
  | _ => .text

end Column

def User.value (u : User) : Column → Sql.Value
  | .id => .text u.id
  | .username => .text u.username
  | .email => .text u.email
  | .passwordHash => .text u.passwordHash
  | .lastLoginAt =>
    match u.lastLoginAt with
    | none => .null
    | some s => .text s
  | .active => .integer (if u.active then 1 else 0)

end Roster
