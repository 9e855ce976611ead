import Roster.Proofs.Users.Selection

/-!
# Password hashes stay secret

Whoever lists users learns nothing about their password hashes: with other hashes in the database every request has the same outcome (`Database.list_eq_of_same_but_hash`). One run is looked at first, with all hashes taken out. No statement that is run for a request names the column of the hashes, so it is answered as it would be without them.
-/

namespace Roster

open Text Sql Roster.Filter

/-- The name in any case is not that of the password hash. -/
def Visible (name : Text) : Prop := Column.find? name ≠ some .passwordHash

/-! ### Conditions -/

namespace Sql

theorem Test.eval_congr {test : Test} {env env' : Env}
    (h : ∀ t ∈ test.terms, t.value env = t.value env' ∧ t.affinity env = t.affinity env') :
    test.eval env = test.eval env' := by
  cases test with
  | compare left r right =>
    have hleft := h left (by simp [Test.terms])
    have hright := h right (by simp [Test.terms])
    rw [Test.eval, Test.eval, hleft.1, hleft.2, hright.1]
  | like negated subject pattern =>
    have hsubject := h subject (by simp [Test.terms])
    have hpattern := h pattern (by simp [Test.terms])
    rw [Test.eval, Test.eval, hsubject.1, hpattern.1]
  | phonetic left r right =>
    have hleft := h left (by simp [Test.terms])
    have hright := h right (by simp [Test.terms])
    rw [Test.eval, Test.eval, hleft.1, hright.1]
  | member negated subject items =>
    have hsubject := h subject (by simp [Test.terms])
    have hitems : (items.map fun item => Value.test (subject.affinity env) .eq (subject.value env) (item.value env)) =
        items.map fun item => Value.test (subject.affinity env') .eq (subject.value env') (item.value env') := by
      apply List.map_congr_left
      intro item hitem
      rw [hsubject.1, hsubject.2, (h item (by simp [Test.terms, hitem])).1]
    rw [Test.eval, Test.eval, hitems]

theorem Predicate.mem_columns_test {test : Test} {name : Text} :
    name ∈ (Predicate.test test).columns ↔ Term.column name ∈ test.terms := by
  simp only [Predicate.columns, Predicate.tests, List.flatMap_singleton, List.mem_filterMap]
  constructor
  · rintro ⟨t, ht, he⟩
    cases t <;> cases he
    exact ht
  · intro h
    exact ⟨_, h, rfl⟩

theorem Predicate.eval_congr {p : Predicate} {env env' : Env} (harguments : env.arguments = env'.arguments)
    (hcolumns : ∀ name ∈ p.columns, env.column name = env'.column name) : p.eval env = p.eval env' := by
  induction p with
  | test test =>
    apply Test.eval_congr
    intro t ht
    cases t with
    | column name =>
      have hname := hcolumns name (Predicate.mem_columns_test.2 ht)
      simp [Term.value, Term.affinity, hname]
    | integer n => exact ⟨rfl, rfl⟩
    | argument n => simp [Term.value, Term.affinity, harguments]
  | join k left right ihleft ihright =>
    rw [columns_join, List.forall_mem_append] at hcolumns
    rw [Predicate.eval, Predicate.eval, ihleft hcolumns.1, ihright hcolumns.2]

theorem Term.eq_of_ofWord {s name : Text} (h : Term.ofWord s = .column name) : name = s := by
  unfold Term.ofWord at h
  split at h <;> cases h
  rfl

end Sql

/-! ### Names in statements -/

theorem visible_of_filterable {name : Text} (h : name ∈ filterable) : Visible name := by
  have hall : ∀ s ∈ filterable, Column.find? s ≠ some .passwordHash := by decide
  exact hall name h

theorem visible_of_sortable {name : Text} (h : name ∈ SortOrder.sortable) : Visible name := by
  have hall : ∀ s ∈ SortOrder.sortable, Column.find? s ≠ some .passwordHash := by decide
  exact hall name h

/-- A name with another first letter is visible. -/
theorem visible_cons {c : Char} (hc : c.toLower ≠ 'p') (s : Text) : Visible (c :: s) := by
  intro h
  have hsame : Column.passwordHash.name.map Char.toLower = (c :: s).map Char.toLower := by
    simpa [Column.find?, sameIgnoringCase] using List.find?_some h
  exact hc (List.cons.inj hsame).1.symm

theorem visible_renamed (n : Nat) : Visible (renamed n) := by
  unfold renamed rename
  split
  · exact visible_cons (by decide) _
  · exact visible_cons (by decide) _

theorem isWord_renamed (n : Nat) : IsWord (renamed n) := by
  unfold renamed rename
  split
  · exact isWord_argument _
  · exact isWord_placeholder n

namespace Filter

theorem Comparison.visible_columns_test {c : Comparison} (hcolumn : c.column ∈ filterable) (n : Nat) :
    ∀ name ∈ (Predicate.test (c.test renamed n)).columns, Visible name := by
  obtain ⟨ks, hks⟩ := c.exists_terms_test renamed n
  intro name hname
  rw [Predicate.mem_columns_test, hks] at hname
  rcases List.mem_cons.1 hname with hword | hword
  · rw [Term.eq_of_ofWord hword.symm]
    exact visible_of_filterable hcolumn
  · obtain ⟨k, -, hword⟩ := List.mem_map.1 hword
    rw [Term.eq_of_ofWord hword]
    exact visible_renamed k

mutual

theorem Chain.visible_columns (e : Chain) (hcolumns : ∀ c ∈ e.comparisons, c.column ∈ filterable) (n : Nat) :
    ∀ name ∈ (e.predicate renamed n).columns, Visible name := by
  match e with
  | .single x => exact x.visible_columns hcolumns n
  | .join left connective right =>
    rw [Chain.forall_comparisons_join] at hcolumns
    rw [Chain.predicate, columns_join, List.forall_mem_append]
    exact ⟨left.visible_columns hcolumns.1 n, right.visible_columns hcolumns.2 _⟩

theorem Operand.visible_columns (x : Operand) (hcolumns : ∀ c ∈ x.comparisons, c.column ∈ filterable) (n : Nat) :
    ∀ name ∈ (x.predicate renamed n).columns, Visible name := by
  match x with
  | .test c => exact c.visible_columns_test (Operand.forall_comparisons_test.1 hcolumns) n
  | .group inner => exact inner.visible_columns hcolumns n

end

/-- Whatever the number of its placeholders, the condition of a filter is read and names visible columns only. -/
theorem exists_parses_numbered {collation : Text} (hcollation : Settings.isCollation collation = true)
    {source : Option Chain} (hcolumns : ∀ column ∈ (compiledSource collation source).columns, column ∈ filterable) :
    ∃ p, Parses .condition (lexemes (numbered (compiledSource collation source).sql)) p ∧
      ∀ name ∈ p.columns, Visible name := by
  cases source with
  | none =>
    refine ⟨_, parses_numbered hcollation hcolumns (Nat.zero_le _), ?_⟩
    simp [sourcePredicate, Predicate.columns, Predicate.tests, Test.terms]
  | some e =>
    have hmem := Chain.forall_columns.1 hcolumns
    have hnumbered := (e.renumbers_render_renamed (not_mem_of_isCollation hcollation)
      (fun c hc => not_mem_of_filterable (hmem c hc)) 0).eq
    have hparses := parses_condition (e.parses_render isWord_renamed (isWord_of_isCollation hcollation)
      (fun c hc => isWord_of_filterable (hmem c hc)) 0)
    rw [← hnumbered] at hparses
    exact ⟨_, hparses, e.visible_columns hmem 0⟩

end Filter

/-- A statement does not name the column of the hashes. -/
structure Statement.Blind (s : Statement) : Prop where
  condition : ∀ name ∈ s.condition.columns, Visible name
  order : ∀ t ∈ s.order, Visible t.column

/-! ### One run -/

def User.withoutHash (u : User) : User := { u with passwordHash := [] }

namespace Database

def withoutHashes (db : Database) : Database := ⟨db.users.map User.withoutHash⟩

def Answer.withoutHashes : Answer → Answer
  | .users listed => .users (listed.map User.withoutHash)
  | .count n => .count n

end Database

theorem User.value_withoutHash (u : User) {c : Column} (h : c ≠ .passwordHash) : u.withoutHash.value c = u.value c := by
  cases c with
  | passwordHash => exact absurd rfl h
  | _ => rfl

namespace Database

theorem satisfies_comp_withoutHash {p : Predicate} (h : ∀ name ∈ p.columns, Visible name) (arguments : List Value) :
    satisfies p arguments ∘ User.withoutHash = satisfies p arguments := by
  funext u
  have heval : p.eval (env arguments u.withoutHash) = p.eval (env arguments u) := by
    refine Predicate.eval_congr rfl ?_
    intro name hname
    have hvisible := h name hname
    simp only [env]
    split
    · rename_i c hc
      have hne : c ≠ .passwordHash := by
        rintro rfl
        exact hvisible hc
      rw [u.value_withoutHash hne]
    · rfl
  rw [Function.comp_apply, satisfies, satisfies, heval]

theorem sortKey_withoutHash {column : Text} (h : Visible column) (u : User) :
    sortKey column u.withoutHash = sortKey column u := by
  unfold sortKey
  split
  · rename_i c hc
    refine u.value_withoutHash ?_
    rintro rfl
    exact h hc
  · rfl

theorem compareBy_withoutHash {order : SortOrder} (h : ∀ t ∈ order, Visible t.column) (u v : User) :
    compareBy order u.withoutHash v.withoutHash = compareBy order u v := by
  induction order with
  | nil => rfl
  | cons t order ih =>
    rw [List.forall_mem_cons] at h
    rw [compareBy, compareBy, sortKey_withoutHash h.1, sortKey_withoutHash h.1, ih h.2]

theorem filter_withoutHash {p : Predicate} (h : ∀ name ∈ p.columns, Visible name) (arguments : List Value)
    (users : List User) :
    (users.map User.withoutHash).filter (satisfies p arguments) =
      (users.filter (satisfies p arguments)).map User.withoutHash := by
  rw [List.filter_map, satisfies_comp_withoutHash h]

theorem mergeSort_withoutHash {order : SortOrder} (h : ∀ t ∈ order, Visible t.column) (users : List User) :
    (users.map User.withoutHash).mergeSort (fun u v => (compareBy order u v).isLE) =
      (users.mergeSort fun u v => (compareBy order u v).isLE).map User.withoutHash := by
  symm
  apply List.map_mergeSort
  intro u _ v _
  rw [compareBy_withoutHash h]

/-- A blind statement is answered without the hashes as with them. -/
theorem answer_withoutHashes (db : Database) (arguments : List Value) {s : Statement} (h : s.Blind) :
    db.withoutHashes.answer arguments s = (db.answer arguments s).withoutHashes := by
  cases s with
  | count condition =>
    show Answer.count ((db.users.map User.withoutHash).countP (satisfies condition arguments)) = _
    rw [List.countP_map, satisfies_comp_withoutHash (p := condition) h.condition]
    rfl
  | rows condition order limit offset =>
    have hfilter := filter_withoutHash (p := condition) h.condition arguments db.users
    have horder : ∀ t ∈ order, Visible t.column := h.order
    have hsort := mergeSort_withoutHash horder (db.users.filter (satisfies condition arguments))
    show Answer.users (List.take _ (List.drop _ (List.mergeSort (List.filter _ _) _))) = Answer.users (List.map _ _)
    rw [List.map_take, List.map_drop, ← hsort, ← hfilter]
    rfl

theorem run_withoutHashes (db : Database) {q : Query} {s : Statement} (hread : Statement.read q.text = .ok s)
    (h : s.Blind) : db.withoutHashes.run q = (db.run q).map Answer.withoutHashes := by
  rw [run_eq _ hread, run_eq _ hread, db.answer_withoutHashes q.arguments h]
  cases check s <;> rfl

section

variable {filter : Filter.Compiled} {p : Predicate} (db : Database)
  (hparses : Parses .condition (lexemes (numbered filter.sql)) p) (hvisible : ∀ name ∈ p.columns, Visible name)

include hparses hvisible

theorem count_withoutHashes : db.withoutHashes.count filter = db.count filter := by
  have hblind : (Statement.count p).Blind := ⟨hvisible, by simp [Statement.order]⟩
  rcases read_count_cases hparses with hread | ⟨-, fault, hread⟩
  · rw [count, count, db.run_withoutHashes hread hblind]
    cases db.run (.count filter) with
    | error e => rfl
    | ok answer => cases answer <;> rfl
  · rw [count, count, run_eq_error _ hread, run_eq_error _ hread]

theorem select_withoutHashes {order : SortOrder} (horder : order.Sortable) (limit : UInt32) (offset : UInt64) :
    db.withoutHashes.select filter order limit offset =
      (db.select filter order limit offset).map (List.map User.withoutHash) := by
  have heffective : ∀ t ∈ order.effective, Visible t.column := by
    intro t ht
    exact visible_of_sortable (horder.effective t ht)
  have hblind : (Statement.rows p order.effective (filter.parameters.length + 1) (filter.parameters.length + 2)).Blind :=
    ⟨hvisible, heffective⟩
  rcases read_rows_cases hparses horder.exists limit offset with hread | ⟨-, fault, hread⟩
  · rw [select, select, db.run_withoutHashes hread hblind]
    cases db.run (.rows filter order limit offset) with
    | error e => rfl
    | ok answer => cases answer <;> rfl
  · rw [select, select, run_eq_error _ hread, run_eq_error _ hread]
    rfl

end

section

variable {options : Options} (hcollation : Settings.isCollation options.collation = true)

include hcollation

/-- A request has the same outcome without the hashes. -/
theorem list_withoutHashes (db : Database) (r : ListRequest) : db.withoutHashes.list options r = db.list options r := by
  -- What is prepared does not depend on the database, so both runs fail alike or put the same queries.
  cases hprepare : r.prepare options with
  | error e =>
    rw [list, list, hprepare]
    rfl
  | ok prepared =>
    obtain ⟨filter, order⟩ := prepared
    obtain ⟨hcompile, hcolumns, horder⟩ := ListRequest.prepare_eq_ok hprepare
    obtain ⟨-, source, -, rfl⟩ := compile_eq_ok_iff.1 hcompile
    rw [Compiled.checkColumns_eq_ok] at hcolumns
    obtain ⟨p, hparses, hvisible⟩ := exists_parses_numbered hcollation hcolumns
    have hcount := db.count_withoutHashes hparses hvisible
    have hselect := db.select_withoutHashes hparses hvisible (SortOrder.sortable_of_parse horder) r.page.limit
      r.page.offset
    have hpublic (users : List User) : (users.map User.withoutHash).map User.toPublic = users.map User.toPublic := by
      rw [List.map_map]
      rfl
    rw [list_of_prepare hprepare, list_of_prepare hprepare, hcount, hselect]
    apply bind_congr
    intro total
    cases db.select (compiledSource options.collation source) order r.page.limit r.page.offset with
    | error e => rfl
    | ok users => exact congrArg (fun listed => Except.ok (Listing.mk listed _)) (hpublic users)

/-- The hashes cannot be probed: databases with the same users but for their password hashes give every request the same outcome, be it a page of users with its account or an error. -/
theorem list_eq_of_same_but_hash {db db' : Database}
    (h : List.Forall₂ (fun u v : User => { u with passwordHash := v.passwordHash } = v) db.users db'.users)
    (r : ListRequest) : db.list options r = db'.list options r := by
  have husers : db.users.map User.withoutHash = db'.users.map User.withoutHash := by
    rw [← List.forall₂_eq_eq_eq, List.forall₂_map_left_iff, List.forall₂_map_right_iff]
    refine h.imp ?_
    intro u v huv
    rw [← huv]
    rfl
  have hdb : db.withoutHashes = db'.withoutHashes := congrArg Database.mk husers
  rw [← list_withoutHashes hcollation db, ← list_withoutHashes hcollation db', hdb]

end

/-- Two users whose hashes are exchanged. -/
theorem list_eq_of_exchanged_hashes :
    let ann (hash : String) : User := ⟨"u1".toList, "ann".toList, "ann@x.org".toList, hash.toList, none, true⟩
    let bob (hash : String) : User := ⟨"u2".toList, "bob".toList, "bob@x.org".toList, hash.toList, none, false⟩
    let db : Database := ⟨[ann "1f", bob "e0"]⟩
    let db' : Database := ⟨[ann "e0", bob "1f"]⟩
    let r : ListRequest := ⟨"Email @= x && LastLoginAt <= 'z' || Active == 1".toList, "Email desc".toList, ⟨1, 10⟩⟩
    db ≠ db' ∧ (r.prepare ⟨"NOCASE".toList, 4096⟩).isOk = true ∧
      db.list ⟨"NOCASE".toList, 4096⟩ r = db'.list ⟨"NOCASE".toList, 4096⟩ r := by
  intro ann bob db db' r
  have h : List.Forall₂ (fun u v : User => { u with passwordHash := v.passwordHash } = v) db.users db'.users :=
    .cons rfl (.cons rfl .nil)
  exact ⟨by decide, by decide +kernel, list_eq_of_same_but_hash (by decide) h r⟩

end Database

end Roster
