import Roster.Inspection
import Roster.Proofs.Users.Paging

/-!
# Inspecting and listing

A filter and a sort text can be compiled to be looked at, or users can be listed by them. Both go through the same checks in the same order (`Inspection.checked`): one reports what it read, the other puts it to the database. So a request for a page that exists is refused exactly if the inspection fails, with the words of the error that the inspection met, and otherwise users are listed in the order that the inspection shows (`Inspection.compile_agrees_with_list`). No sort text and a blank one are the same.
-/

namespace Roster

open Text Sql

namespace Inspection

/-- The text of the error without what was being done. -/
def Error.cause : Error → Text
  | .filter e => e.message
  | .columns e => e.message
  | .order e => e.message

/-- The refusal of a request for users with the same fault. -/
def Error.refusal : Error → ServiceError
  | .filter e => .ofFilter e
  | .columns e => .ofFilter e
  | .order e => .ofSort e

theorem Error.exists_refusal (e : Error) : ∃ code, e.refusal = .badRequest code e.cause := by
  cases e <;> exact ⟨_, rfl⟩

/-- What is asked of a filter and a sort text before they are shown or put to the database. -/
def checked (options : Filter.Options) (filter sort : Text) : Except Error (Filter.Compiled × SortOrder) := do
  let compiled ← (Filter.compile options filter).mapError .filter
  (compiled.checkColumns Filter.filterable).mapError .columns
  let order ← (SortOrder.parse SortOrder.sortable sort).mapError .order
  return (compiled, order)

variable (options : Filter.Options) (filter : Text)

theorem compile_eq_checked (sort : Option Text) :
    compile options filter sort true =
      (checked options filter (sort.getD [])).map fun (compiled, order) => ⟨compiled, order.toSql?⟩ := by
  unfold compile checked
  simp only [except_map_bind]
  cases sort <;> rfl

theorem prepare_eq_checked (sort : Text) {page : Page} (hpage : ServiceError.checkPage page = .ok ()) :
    ListRequest.prepare options ⟨filter, sort, page⟩ = (checked options filter sort).mapError Error.refusal := by
  unfold ListRequest.prepare checked
  rw [hpage]
  simp only [except_mapError_bind, except_mapError_mapError]
  rfl

/-- Whatever goes wrong once the database has been asked is no bad request. -/
theorem list_ne_badRequest {r : ListRequest} {query : Filter.Compiled × SortOrder}
    (h : r.prepare options = .ok query) (db : Database) (code message : Text) :
    db.list options r ≠ .error (.badRequest code message) := by
  rw [Database.list_of_prepare h]
  intro hlist
  rcases except_bind_eq_error.1 hlist with hcount | ⟨_, -, hlist⟩
  · obtain ⟨_, -, he⟩ := except_mapError_eq_error.1 hcount
    cases he
  rcases except_bind_eq_error.1 hlist with hselect | ⟨_, -, hlist⟩
  · obtain ⟨_, -, he⟩ := except_mapError_eq_error.1 hselect
    cases he
  · cases hlist

/-- The text of a selection with the order in its place. -/
theorem rows_text (c : Filter.Compiled) (order : SortOrder) (limit : UInt32) (offset : UInt64) :
    (Query.rows c order limit offset).text =
      Query.rowsHead ++ numbered c.sql ++ " ORDER BY ".toList ++ order.toSql?.getD Query.defaultOrder ++
        " LIMIT ".toList ++ argument (c.parameters.length + 1) ++ " OFFSET ".toList ++
        argument (c.parameters.length + 2) := rfl

/-- An inspection with all checks succeeds exactly if a request for a page of users is not refused as a bad request. If it fails, the request is refused with the text of the error that made it fail. If it succeeds, the database is asked for users by the same filter, in the order that the inspection shows, or in the default order if it shows none. -/
theorem compile_agrees_with_list (sort : Option Text) (db : Database) {page : Page} (hnumber : page.number ≠ 0)
    (hsize : page.size ≠ 0) :
    let request : ListRequest := ⟨filter, sort.getD [], page⟩
    ((∃ i, compile options filter sort true = .ok i) ↔
        ∀ code message, db.list options request ≠ .error (.badRequest code message)) ∧
      (∀ e, compile options filter sort true = .error e →
        ∃ code, db.list options request = .error (.badRequest code e.cause)) ∧
      ∀ i, compile options filter sort true = .ok i →
        ∃ order,
          db.list options request = (do
            let total ← (db.count i.filter).mapError fun _ => .ofDatabase
            let users ← (db.select i.filter order page.limit page.offset).mapError fun _ => .ofDatabase
            return ⟨users.map User.toPublic, page.account (UInt64.ofNat total)⟩) ∧
          order.toSql? = i.order ∧
          (Query.rows i.filter order page.limit page.offset).text =
            Query.rowsHead ++ numbered i.filter.sql ++ " ORDER BY ".toList ++ i.order.getD Query.defaultOrder ++
              " LIMIT ".toList ++ argument (i.filter.parameters.length + 1) ++ " OFFSET ".toList ++
              argument (i.filter.parameters.length + 2) := by
  intro request
  have hprepare : request.prepare options = (checked options filter (sort.getD [])).mapError Error.refusal :=
    prepare_eq_checked options filter (sort.getD []) (ServiceError.checkPage_eq_ok_iff.2 ⟨hnumber, hsize⟩)
  rw [compile_eq_checked]
  cases hchecked : checked options filter (sort.getD []) with
  | error e =>
    obtain ⟨code, hrefusal⟩ := e.exists_refusal
    have hlist : db.list options request = .error (.badRequest code e.cause) := by
      rw [Database.list, hprepare, hchecked, ← hrefusal]
      rfl
    refine ⟨⟨?_, fun h => absurd hlist (h code e.cause)⟩, ?_, ?_⟩
    · rintro ⟨i, hi⟩
      cases hi
    · intro e' he'
      cases he'
      exact ⟨code, hlist⟩
    · intro i hi
      cases hi
  | ok query =>
    have hquery : request.prepare options = .ok query := by
      rw [hprepare, hchecked]
      rfl
    refine ⟨⟨fun _ => list_ne_badRequest options hquery db, fun _ => ⟨_, rfl⟩⟩, ?_, ?_⟩
    · intro e he
      cases he
    · intro i hi
      cases hi
      exact ⟨query.2, Database.list_of_prepare hquery db, rfl, rows_text query.1 query.2 page.limit page.offset⟩

/-- A request whose column and direction are both wrong, and one that is put to the database in the order that is shown. -/
theorem compile_agrees_with_list_first_fault :
    let options : Filter.Options := ⟨"NOCASE".toList, 64⟩
    let db : Database := ⟨[⟨"u1".toList, "bob".toList, "b@x".toList, "h".toList, none, true⟩]⟩
    (∃ code, db.list options ⟨"PasswordHash == x".toList, "Id sideways".toList, ⟨1, 1⟩⟩ =
        .error (.badRequest code "Cannot filter by column: PasswordHash".toList)) ∧
      ∃ (i : Inspection) (order : SortOrder),
        compile options "Active == true".toList (some "LastLoginAt desc".toList) true = .ok i ∧
          i.order = some "LastLoginAt DESC".toList ∧ order.toSql? = i.order ∧
          (Query.rows i.filter order 7 14).text = ("SELECT Id, Username, Email, PasswordHash, LastLoginAt, Active " ++
            "FROM Users WHERE Active = ?1 ORDER BY LastLoginAt DESC LIMIT ?2 OFFSET ?3").toList := by
  intro options db
  constructor
  · obtain ⟨-, hfailed, -⟩ := compile_agrees_with_list options "PasswordHash == x".toList (some "Id sideways".toList) db
      (show (⟨1, 1⟩ : Page).number ≠ 0 by decide) (by decide)
    refine hfailed (.columns (.columnNotAllowed "PasswordHash".toList)) ?_
    have hchecked : checked options "PasswordHash == x".toList "Id sideways".toList =
        .error (.columns (.columnNotAllowed "PasswordHash".toList)) := by decide +kernel
    rw [compile_eq_checked, Option.getD_some, hchecked]
    rfl
  · obtain ⟨-, -, hlisted⟩ := compile_agrees_with_list options "Active == true".toList (some "LastLoginAt desc".toList) db
      (show (⟨3, 7⟩ : Page).number ≠ 0 by decide) (by decide)
    let i : Inspection :=
      ⟨⟨"Active = @p0".toList, [⟨"@p0".toList, .bool true⟩], ["Active".toList]⟩, some "LastLoginAt DESC".toList⟩
    have hchecked : checked options "Active == true".toList "LastLoginAt desc".toList =
        .ok (i.filter, [⟨"LastLoginAt".toList, .descending⟩]) := by decide +kernel
    have hi : compile options "Active == true".toList (some "LastLoginAt desc".toList) true = .ok i := by
      rw [compile_eq_checked, Option.getD_some, hchecked]
      rfl
    obtain ⟨order, -, horder, htext⟩ := hlisted i hi
    refine ⟨i, order, hi, rfl, horder, ?_⟩
    have hpage : (⟨3, 7⟩ : Page).limit = 7 ∧ (⟨3, 7⟩ : Page).offset = 14 := by decide
    rw [hpage.1, hpage.2] at htext
    rw [htext]
    decide +kernel

end Inspection

end Roster
