import Roster.Inspection
import Roster.Json.Decode
import Roster.Users.Listing

/-!
# Records as JSON

The JSON forms of the records that enter and leave the service: page requests and stored users are read, and listings are written.
-/

namespace Roster

open Text
open Json (Fault Field Node Schema Value)

/-! ### Reading -/

/-- A whole number of 32 bits. -/
def Json.Node.toUInt32 (v : Node) : Except Fault UInt32 := (v.toNatBelow UInt32.size).map UInt32.ofNat

/-- A page request; what it leaves out has its default. -/
def Page.schema : Schema Page where
  fields :=
    [⟨"page_number".toList, fun v p => v.toUInt32.map fun n => { p with number := n }, .anywhere⟩,
     ⟨"page_size".toList, fun v p => v.toUInt32.map fun n => { p with size := n }, .anywhere⟩]
  other := Json.skipOther
  allowsArray := true

def Page.ofJson (s : Text) : Except Json.Fault Page := Page.schema.readText (Page.ofRequest none none) s

/-- A stored user, password hash included. -/
def User.schema : Schema User where
  fields :=
    [⟨"id".toList, fun v u => v.toText.map fun s => { u with id := s }, .nowhere⟩,
     ⟨"username".toList, fun v u => v.toText.map fun s => { u with username := s }, .nowhere⟩,
     ⟨"email".toList, fun v u => v.toText.map fun s => { u with email := s }, .nowhere⟩,
     ⟨"password_hash".toList, fun v u => v.toText.map fun s => { u with passwordHash := s }, .nowhere⟩,
     ⟨"last_login_at".toList, fun v u => (v.orNull Node.toText).map fun s => { u with lastLoginAt := s },
      .inObjects⟩,
     ⟨"active".toList, fun v u => v.toBool.map fun b => { u with active := b }, .nowhere⟩]
  other := Json.skipOther
  allowsArray := true

def User.ofJson (s : Text) : Except Fault User := User.schema.readText ⟨[], [], [], [], none, false⟩ s

/-! ### Writing -/

def User.toJson (u : User) : Value :=
  .object
    [("id".toList, .string u.id), ("username".toList, .string u.username), ("email".toList, .string u.email),
     ("password_hash".toList, .string u.passwordHash), ("last_login_at".toList, .ofText? u.lastLoginAt),
     ("active".toList, .bool u.active)]

def PublicUser.toJson (u : PublicUser) : Value :=
  .object
    [("id".toList, .string u.id), ("username".toList, .string u.username), ("email".toList, .string u.email),
     ("lastLoginAt".toList, .ofText? u.lastLoginAt), ("active".toList, .bool u.active)]

def Page.Meta.toJson (m : Page.Meta) : Value :=
  .object
    [("page_number".toList, .ofNat m.pageNumber.toNat), ("page_size".toList, .ofNat m.pageSize.toNat),
     ("total_items".toList, .ofNat m.totalItems.toNat), ("total_pages".toList, .ofNat m.totalPages.toNat)]

/-- The items of a page and its account. -/
def Page.response (items : List Value) (account : Page.Meta) : Value :=
  .object [("data".toList, .array items), ("meta".toList, account.toJson)]

def Listing.toJson (l : Listing) : Value := Page.response (l.users.map PublicUser.toJson) l.account

def Filter.Literal.toJson : Filter.Literal → Value
  | .str s => .object [("type".toList, .string "str".toList), ("value".toList, .string s)]
  | .bool b => .object [("type".toList, .string "bool".toList), ("value".toList, .bool b)]
  | .int n => .object [("type".toList, .string "int".toList), ("value".toList, .ofInt n)]
  | .raw s => .object [("type".toList, .string "raw".toList), ("value".toList, .string s)]

def Filter.Parameter.toJson (p : Filter.Parameter) : Value :=
  .object [("name".toList, .string p.name), ("value".toList, p.value.toJson)]

def Filter.Compiled.toJson (c : Filter.Compiled) : Value :=
  .object
    [("sql".toList, .string c.sql), ("parameters".toList, .array (c.parameters.map Filter.Parameter.toJson)),
     ("columns".toList, .array (c.columns.map .string))]

/-- An inspected filter; without an order there is no field for it. -/
def Inspection.toJson (i : Inspection) : Value :=
  .object (("filter".toList, i.filter.toJson) ::
    (i.order.toList.map fun s => ("orderBy".toList, .string s)))

end Roster
