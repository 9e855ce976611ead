import Roster.Filter.Columns
import Roster.Page
import Roster.ServiceError
import Roster.Users.Database

/-!
# Listing users

A caller asks for a page of users with a filter and a sort order, both as text. The page is checked first, then the filter and its columns, then the order; only then the database is asked for the number of matching users and for those on the page. The password hash stays behind.
-/

namespace Roster

open Text

structure ListRequest where
  filter : Text
  sort : Text
  page : Page
deriving DecidableEq, Repr

/-- The users of a page and its account. -/
structure Listing where
  users : List PublicUser
  account : Page.Meta
deriving DecidableEq, Repr

/-- A filter that may be put to the database, and the order. -/
def ListRequest.prepare (options : Filter.Options) (r : ListRequest) :
    Except ServiceError (Filter.Compiled × SortOrder) := do
  ServiceError.checkPage r.page
  let filter ← (Filter.compile options r.filter).mapError .ofFilter
  (filter.checkColumns Filter.filterable).mapError .ofFilter
  let order ← (SortOrder.parse SortOrder.sortable r.sort).mapError .ofSort
  return (filter, order)

def Database.list (db : Database) (options : Filter.Options) (r : ListRequest) : Except ServiceError Listing := do
  let (filter, order) ← r.prepare options
  let total ← (db.count filter).mapError fun _ => .ofDatabase
  let users ← (db.select filter order r.page.limit r.page.offset).mapError fun _ => .ofDatabase
  return ⟨users.map User.toPublic, r.page.account (UInt64.ofNat total)⟩

end Roster
