import Roster.Proofs.Page
import Roster.Proofs.Users.Order
import Roster.Proofs.Users.Selection

/-!
# Turning pages

A caller who asks for one page after the other, with one filter, one sort text and one size, gets the users of whom the filter is true, each once and in order (`Database.list_pages`). Every page is cut from the same sorted list: the count and the selection put the same condition to the database, and the limit and the offset do not change who satisfies it.
-/

namespace Roster

open Text Sql

/-- The offset of a page can be bound as it is. -/
theorem Page.offset_le_maxOffset (page : Page) : page.offset.toNat ≤ Query.maxOffset := by
  rw [offset_toNat]
  exact Nat.le_trans page.items_before_le (by decide)

theorem Page.faults_eq_nil_iff {page : Page} : page.faults = [] ↔ page.number ≠ 0 ∧ page.size ≠ 0 := by
  have hnumber : page.number < 1 ↔ page.number = 0 := by
    rw [UInt32.lt_iff_toNat_lt, ← UInt32.toNat_inj]
    exact Nat.lt_one_iff
  by_cases hn : page.number = 0 <;> by_cases hs : page.size = 0 <;> simp [faults, hnumber, hn, hs]

/-- A page exists if its number and its size are positive. -/
theorem ServiceError.checkPage_eq_ok_iff {page : Page} : checkPage page = .ok () ↔ page.number ≠ 0 ∧ page.size ≠ 0 := by
  rw [← Page.faults_eq_nil_iff, checkPage]
  split <;> simp_all

/-- A request for a page that exists passes all checks if its filter and its sort text do. -/
theorem ListRequest.prepare_eq {options : Filter.Options} {r : ListRequest} {filter : Filter.Compiled}
    {order : SortOrder} (hnumber : r.page.number ≠ 0) (hsize : r.page.size ≠ 0)
    (hfilter : Filter.compile options r.filter = .ok filter)
    (hcolumns : filter.checkColumns Filter.filterable = .ok ())
    (hsort : SortOrder.parse SortOrder.sortable r.sort = .ok order) : r.prepare options = .ok (filter, order) := by
  have hchecked : (filter.checkColumns Filter.filterable).mapError ServiceError.ofFilter = .ok () := by
    rw [hcolumns]
    rfl
  unfold prepare
  rw [ServiceError.checkPage_eq_ok_iff.2 ⟨hnumber, hsize⟩, hfilter, hsort]
  exact congrArg (· >>= fun _ => .ok (filter, order)) hchecked

namespace Database

open Roster.Filter

variable {db : Database}

/-- A query that is answered has been read and checked. -/
theorem exists_of_run {q : Query} {answer : Answer} (h : db.run q = .ok answer) :
    ∃ s, Statement.read q.text = .ok s ∧ check s = .ok () := by
  unfold run at h
  split at h
  · cases h
  · rename_i s hread
    obtain ⟨_, hcheck, -⟩ := except_bind_eq_ok.1 h
    exact ⟨s, hread, hcheck⟩

section

variable {filter : Compiled} {p : Predicate} (hparses : Parses .condition (lexemes (numbered filter.sql)) p)

include hparses

theorem read_and_check_of_count {n : Nat} (h : db.count filter = .ok n) :
    Statement.read (Query.count filter).text = .ok (.count p) ∧ check (.count p) = .ok () := by
  obtain ⟨_, hrun, -⟩ := except_map_eq_ok.1 h
  obtain ⟨s, hread, hcheck⟩ := exists_of_run hrun
  rcases read_count_cases hparses with hcount | ⟨-, fault, hfault⟩
  · obtain rfl := Except.ok.inj (hread.symm.trans hcount)
    exact ⟨hcount, hcheck⟩
  · rw [hread] at hfault
    cases hfault

/-- The text of a selection is the same on all pages: the limit and the offset are arguments. -/
theorem read_and_check_of_select {order : SortOrder} (horder : order.Exists) {limit : UInt32} {offset : UInt64}
    {users : List User} (h : db.select filter order limit offset = .ok users) :
    let statement := .rows p order.effective (filter.parameters.length + 1) (filter.parameters.length + 2)
    (∀ limit offset, Statement.read (Query.rows filter order limit offset).text = .ok statement) ∧
      check statement = .ok () := by
  obtain ⟨_, hrun, -⟩ := except_map_eq_ok.1 h
  obtain ⟨s, hread, hcheck⟩ := exists_of_run hrun
  rcases read_rows_cases hparses horder limit offset with hrows | ⟨-, fault, hfault⟩
  · obtain rfl := Except.ok.inj (hread.symm.trans hrows)
    exact ⟨fun _ _ => hrows, hcheck⟩
  · rw [hread] at hfault
    cases hfault

end

/-- If a request has not failed in the database, then both of its queries have been answered. -/
theorem count_and_select_of_list {options : Options} {r : ListRequest} {filter : Compiled} {order : SortOrder}
    (hprepare : r.prepare options = .ok (filter, order)) (h : db.list options r ≠ .error .ofDatabase) :
    (∃ n, db.count filter = .ok n) ∧ ∃ users, db.select filter order r.page.limit r.page.offset = .ok users := by
  rw [list_of_prepare hprepare] at h
  cases hcount : db.count filter with
  | error e => exact absurd (by rw [hcount]; rfl) h
  | ok n =>
    cases hselect : db.select filter order r.page.limit r.page.offset with
    | error e => exact absurd (by rw [hcount, hselect]; rfl) h
    | ok users => exact ⟨⟨n, rfl⟩, users, rfl⟩

/-- The users of whom the filter is true, in order. -/
def sorted (db : Database) (source : Option Chain) (order : SortOrder) : List User :=
  (db.users.filter fun u => sourceTruth u source == .true).mergeSort fun u v => (compareBy order.effective u v).isLE

section

variable {options : Options} {input sort : Text} {c : Compiled} {order : SortOrder} {source : Option Chain}
  (hsource : Spells input source) (hfilter : compile options input = .ok c) (hbytes : byteSize input < UInt64.size)
  (hcollation : Settings.isCollation options.collation = true) (hcolumns : c.checkColumns filterable = .ok ())
  (hsort : SortOrder.parse SortOrder.sortable sort = .ok order) {size : UInt32} (hsize : size ≠ 0)
  (hdatabase : db.list options ⟨input, sort, ⟨1, size⟩⟩ ≠ .error .ofDatabase)

include hsource hfilter hbytes hcollation hcolumns hsort hsize hdatabase

/-- If the database does not fail on the first page, a page of the sorted users is listed, with the account of all of them. -/
theorem list_eq_part {n : UInt32} (hnumber : n ≠ 0) :
    db.list options ⟨input, sort, ⟨n, size⟩⟩ =
      .ok ⟨Page.part ⟨n, size⟩ ((db.sorted source order).map User.toPublic),
        Page.account ⟨n, size⟩ (UInt64.ofNat (db.sorted source order).length)⟩ := by
  have hprepare (n : UInt32) (hn : n ≠ 0) :
      ListRequest.prepare options ⟨input, sort, ⟨n, size⟩⟩ = .ok (c, order) :=
    ListRequest.prepare_eq hn hsize hfilter hcolumns hsort
  obtain ⟨⟨total, hcount⟩, first, hselect⟩ := count_and_select_of_list (hprepare 1 (by decide)) hdatabase
  have horder : order.Exists := (SortOrder.sortable_of_parse hsort).exists
  obtain ⟨-, source', hsource', rfl⟩ := compile_eq_ok_iff.1 hfilter
  obtain rfl := hsource'.unique hsource
  rw [Compiled.checkColumns_eq_ok] at hcolumns
  have hlength := length_parameters_le hsource' options.collation
  have hparses := parses_numbered hcollation hcolumns (by omega)
  obtain ⟨hreadCount, hcheckCount⟩ := read_and_check_of_count hparses hcount
  obtain ⟨hreadRows, hcheckRows⟩ := read_and_check_of_select hparses horder hselect
  have htotal : db.count (compiledSource options.collation source') = .ok (db.sorted source' order).length := by
    have hvalues := satisfies_sourcePredicate hcolumns []
    rw [List.append_nil] at hvalues
    rw [count_eq hreadCount hcheckCount, hvalues, List.countP_eq_length_filter, sorted, List.length_mergeSort]
  let page : Page := ⟨n, size⟩
  have husers : db.select (compiledSource options.collation source') order page.limit page.offset =
      .ok (page.part (db.sorted source' order)) := by
    rw [select_eq (hreadRows _ _) hcheckRows, selectArguments, satisfies_sourcePredicate hcolumns,
      Nat.min_eq_left page.offset_le_maxOffset, Page.part, sorted]
  rw [list_of_prepare (hprepare n hnumber), htotal, husers, Page.part_map]
  rfl

end

/-- The pages of one filter, one sort text and one size are the parts of one list: the users of whom the filter is true, each once, in the order that the sort text asks for, or by name if it is blank. An order that is asked for has the name among its columns, so that no two users are tied. If the database does not fail on the first page, it answers for every page. The length of the filter in bytes and the number of users fit into 64 bits, as they do in every memory. -/
theorem list_pages {options : Options} {input sort : Text} {c : Compiled} {order : SortOrder}
    (hfilter : compile options input = .ok c) (hbytes : byteSize input < UInt64.size)
    (hcollation : Settings.isCollation options.collation = true) (hcolumns : c.checkColumns filterable = .ok ())
    (hsort : SortOrder.parse SortOrder.sortable sort = .ok order)
    (hname : (trim sort).isEmpty = true ∨ ∃ t ∈ order, t.column = Column.username.name)
    (hunique : (db.users.map User.username).Nodup) (husers : db.users.length < UInt64.size)
    {size : UInt32} (hsize : size ≠ 0) (hdatabase : db.list options ⟨input, sort, ⟨1, size⟩⟩ ≠ .error .ofDatabase) :
    ∃ (source : Option Chain) (sorted : List User) (page : UInt32 → Listing),
      Spells input source ∧ (∀ source', Spells input source' → source' = source) ∧
      sorted.Perm (db.users.filter fun u => sourceTruth u source == .true) ∧
      sorted.Pairwise order.effective.Precedes ∧
      (∀ n ≠ 0, db.list options ⟨input, sort, ⟨n, size⟩⟩ = .ok (page n)) ∧
      Page.Partition (min size.toNat 50000)
        (sorted.map fun u => (⟨u.id, u.username, u.email, u.lastLoginAt, u.active⟩ : PublicUser))
        (fun n => (page n).users) (fun n => (page n).account) := by
  obtain ⟨-, source, hsource, -⟩ := compile_eq_ok_iff.1 hfilter
  have heffective : ∃ t ∈ order.effective, t.column = Column.username.name := by
    rcases hname with hblank | ⟨t, ht, hcolumn⟩
    · rw [SortOrder.parse_blank hblank] at hsort
      cases hsort
      exact ⟨_, List.mem_singleton_self _, rfl⟩
    · refine ⟨t, ?_, hcolumn⟩
      rwa [SortOrder.effective, if_neg (by simpa using List.ne_nil_of_mem ht)]
  have hmatching : ((db.users.filter fun u => sourceTruth u source == .true).map User.username).Nodup :=
    hunique.sublist (List.filter_sublist.map User.username)
  have hperm : (db.sorted source order).Perm (db.users.filter fun u => sourceTruth u source == .true) :=
    List.mergeSort_perm _ _
  have hlength : ((db.sorted source order).map User.toPublic).length < UInt64.size := by
    rw [List.length_map, hperm.length_eq]
    exact Nat.lt_of_le_of_lt (List.length_filter_le _ _) husers
  have hpartition := Page.partition_part _ hsize hlength
  rw [List.length_map] at hpartition
  let page (n : UInt32) : Listing :=
    ⟨Page.part ⟨n, size⟩ ((db.sorted source order).map User.toPublic),
      Page.account ⟨n, size⟩ (UInt64.ofNat (db.sorted source order).length)⟩
  exact ⟨source, db.sorted source order, page, hsource, fun source' hsource' => hsource'.unique hsource, hperm,
    pairwise_mergeSort heffective hmatching,
    fun n hn => list_eq_part hsource hfilter hbytes hcollation hcolumns hsort hsize hdatabase hn, hpartition⟩

/-- Five of six users on pages of two, the last login first; two have logged in at the same time, two never. -/
theorem list_pages_of_two :
    let user (id name : String) (lastLoginAt : Option Text) (active : Bool) : User :=
      ⟨id.toList, name.toList, (name ++ "@x.org").toList, [], lastLoginAt, active⟩
    let ann := user "u1" "ann" none true
    let bob := user "u2" "bob" (some "2025-01-01".toList) true
    let joe := user "u3" "joe" (some "2026-01-01".toList) false
    let eve := user "u4" "eve" none true
    let dan := user "u5" "dan" (some "2025-01-01".toList) true
    let zoe := user "u6" "zoë" (some "2024-05-01".toList) true
    let db : Database := ⟨[eve, joe, dan, zoe, ann, bob]⟩
    let shown (id name : String) (lastLoginAt : Option Text) : PublicUser :=
      ⟨id.toList, name.toList, (name ++ "@x.org").toList, lastLoginAt, true⟩
    let list (n : UInt32) : Except ServiceError Listing :=
      db.list ⟨"NOCASE".toList, 4096⟩ ⟨"Active == true".toList, "LastLoginAt desc, Username".toList, ⟨n, 2⟩⟩
    ∃ page : UInt32 → Listing, (∀ n ≠ 0, list n = .ok (page n)) ∧
      (page 1).users ++ (page 2).users ++ (page 3).users =
        [shown "u2" "bob" (some "2025-01-01".toList), shown "u5" "dan" (some "2025-01-01".toList),
          shown "u6" "zoë" (some "2024-05-01".toList), shown "u1" "ann" none, shown "u4" "eve" none] ∧
      (page 1).users.length = 2 ∧ (page 2).users.length = 2 ∧ (page 4).users = [] ∧
      (page 4).account.totalItems.toNat = 5 ∧ (page 4).account.totalPages.toNat = 3 := by
  intro user ann bob joe eve dan zoe db shown list
  let c : Compiled := ⟨"Active = @p0".toList, parametersFrom 0 [.bool true], ["Active".toList]⟩
  let order : SortOrder := [⟨"LastLoginAt".toList, .descending⟩, ⟨"Username".toList, .ascending⟩]
  have hfilter : compile ⟨"NOCASE".toList, 4096⟩ "Active == true".toList = .ok c := by decide +kernel
  have hsort : SortOrder.parse SortOrder.sortable "LastLoginAt desc, Username".toList = .ok order := by
    decide +kernel
  have hdatabase : list 1 ≠ .error .ofDatabase := by
    have hprepare : ListRequest.prepare ⟨"NOCASE".toList, 4096⟩
        ⟨"Active == true".toList, "LastLoginAt desc, Username".toList, ⟨1, 2⟩⟩ = .ok (c, order) := by
      decide +kernel
    let p : Predicate := .test (.compare (.column "Active".toList) .eq (.argument 1))
    have hcount : db.count c = .ok 5 := by decide +kernel
    let first : Page := ⟨1, 2⟩
    have hread : Statement.read (Query.rows c order first.limit first.offset).text =
        .ok (.rows p order.effective 2 3) := by
      decide +kernel
    have hselect := @select_eq db _ _ _ _ _ hread (by decide +kernel)
    intro hfailed
    have hlisted := (list_of_prepare hprepare db).symm.trans hfailed
    rw [hcount, hselect] at hlisted
    cases hlisted
  obtain ⟨source, sorted, page, -, hsource, hperm, hsorted, hlist, hpages⟩ :=
    list_pages hfilter (by decide +kernel) (by decide) (by decide) hsort
      (.inr ⟨⟨"Username".toList, .ascending⟩, by decide, rfl⟩)
      (show (db.users.map User.username).Nodup by decide) (by decide)
      (show (2 : UInt32) ≠ 0 by decide) hdatabase
  -- The filter is one comparison, so the matching users and then their order can be computed.
  let equality : TestOperator := ⟨⟨"==".toList, .relation .eq⟩, by decide, rfl⟩
  let test : Comparison := ⟨"Active".toList, equality, .word "true".toList, [.bool true], by decide⟩
  have hscan : scan "Active == true".toList =
      .ok [⟨.word "Active".toList, 0⟩, ⟨.operator "==".toList, 7⟩, ⟨.word "true".toList, 10⟩] := by decide +kernel
  obtain rfl : some (.single (.test test)) = source := hsource _ (.chain hscan (by decide))
  have hmatching : (db.users.filter fun u => sourceTruth u (some (.single (.test test))) == .true) =
      [eve, dan, zoe, ann, bob] := by decide +kernel
  have hexpected : [bob, dan, zoe, ann, eve].Pairwise fun u v => compareBy order.effective u v = .lt := by
    decide +kernel
  obtain rfl : sorted = [bob, dan, zoe, ann, eve] := by
    refine eq_of_perm ((hmatching ▸ hperm).trans ?_) hsorted (hexpected.imp compareBy_eq_lt.1)
    decide
  have hwhole := hpages.whole (by decide)
  have hthree : (5 : Nat) ⌈/⌉ min (2 : UInt32).toNat 50000 = 3 := by decide
  rw [List.length_map, show [bob, dan, zoe, ann, eve].length = 5 from rfl, hthree] at hwhole
  have hjoined : (page 1).users ++ (page 2).users ++ (page 3).users =
      [bob, dan, zoe, ann, eve].map fun u => ⟨u.id, u.username, u.email, u.lastLoginAt, u.active⟩ := by
    simpa [List.range'] using hwhole
  exact ⟨page, hlist, hjoined, hpages.full 1 (by decide) (by decide), hpages.full 2 (by decide) (by decide),
    hpages.beyond 4 (by decide), hpages.totalItems 4 (by decide), (hpages.totalPages 4 (by decide)).trans hthree⟩

end Database

end Roster
