import Roster.Proofs.Users.Selection
import Roster.Users.Session

/-!
# Requests that only read

A text without a semicolon is one statement, and the statements of queries change nothing. So selecting and counting by a filter change nothing if its condition has no semicolon, and it has none but those of its columns and of the collation (`not_mem_sql`). A request to list users has its columns checked before. With a collation that is a name it is answered from the users as `Database.list` says, whatever an engine makes of other texts (`Store.list_eq`).
-/

namespace Roster

open Text Sql

/-! ### Texts without a character -/

namespace Sql

/-- Renumbering writes question marks and digits, and nothing else that was not there. -/
theorem mem_numbered {c : Char} {s : Text} (h : c ∈ numbered s) : c ∈ s ∨ c = '?' ∨ c.isDigit = true := by
  fun_induction numbered s with
  | case1 => exact .inl h
  | case2 s hrun ih =>
    simp only [List.mem_cons] at h ⊢
    tauto
  | case3 s hrun ih =>
    rcases List.mem_append.1 h with h | h
    · unfold rename at h
      split at h
      · rcases List.mem_cons.1 h with h | h
        · exact .inr (.inl h)
        · exact .inr (.inr (isDigit_of_mem_ofNat h))
      · simp only [List.mem_cons] at h ⊢
        have hrun := (List.takeWhile_prefix (l := s) Text.isDigit).subset (a := c)
        tauto
    · have hrest := (List.dropWhile_suffix (l := s) Text.isDigit).subset (a := c)
      simp only [List.mem_cons]
      tauto
  | case4 d s hd ih =>
    simp only [List.mem_cons] at h ⊢
    tauto

end Sql

namespace Filter

variable {mark : Char} {options : Options} {input : Text} {c : Compiled}

/-- A character that is in no fixed text of a condition can only come from a column or the collation. -/
theorem not_mem_sql (h : compile options input = .ok c) (hfixed : ∀ p ∈ Piece.fixed, mark ∉ p.text placeholder)
    (hmark : mark ∉ matchAll) (hplaceholder : ∀ n, mark ∉ placeholder n) (hcollation : mark ∉ options.collation)
    (hcolumns : ∀ column ∈ c.columns, mark ∉ column) : mark ∉ c.sql := by
  obtain ⟨-, source, -, rfl⟩ := compile_eq_ok_iff.1 h
  cases source with
  | none => exact hmark
  | some e =>
    have hfree := Chain.freeOf_pieces hfixed hcollation (fun d hd => hcolumns _ (List.mem_map_of_mem hd)) 0
    show mark ∉ e.render placeholder options.collation 0
    rw [← e.flatMap_text_pieces]
    intro hmem
    obtain ⟨p, hp, hmem⟩ := List.mem_flatMap.1 hmem
    cases hindex : p.index? with
    | none => exact hfree p hp hindex hmem
    | some n =>
      obtain rfl := Piece.index?_eq_some.1 hindex
      exact hplaceholder n hmem

end Filter

/-! ### Queries -/

theorem semicolon_not_mem_numbered {s : Text} (h : ';' ∉ s) : ';' ∉ numbered s := by
  intro hmem
  rcases mem_numbered hmem with hmem | hmem | hmem
  · exact h hmem
  · exact absurd hmem (by decide)
  · exact absurd hmem (by decide)

theorem semicolon_not_mem_ofNat (n : Nat) : ';' ∉ ofNat n := by
  intro hmem
  exact absurd (isDigit_of_mem_ofNat hmem) (by decide)

theorem semicolon_not_mem_argument (n : Nat) : ';' ∉ argument n := by
  rw [argument, List.mem_cons, not_or]
  exact ⟨by decide, semicolon_not_mem_ofNat n⟩

namespace Query

variable {filter : Filter.Compiled} (h : ';' ∉ filter.sql)

include h

theorem semicolon_not_mem_count : ';' ∉ (count filter).text := by
  have hhead : ';' ∉ countHead := by decide
  rw [count, List.mem_append, not_or]
  exact ⟨hhead, semicolon_not_mem_numbered h⟩

theorem semicolon_not_mem_rows {order : SortOrder} (horder : ∀ t ∈ order, ';' ∉ t.column) (limit : UInt32)
    (offset : UInt64) : ';' ∉ (rows filter order limit offset).text := by
  have hhead : ';' ∉ rowsHead := by decide
  have hkeyword : ';' ∉ " ORDER BY ".toList ∧ ';' ∉ " LIMIT ".toList ∧ ';' ∉ " OFFSET ".toList := by decide
  have heffective : ∀ t ∈ order.effective, ';' ∉ t.column := by
    unfold SortOrder.effective
    split
    · decide
    · exact horder
  have htext : ';' ∉ order.toSql?.getD defaultOrder := by
    rw [SortOrder.toSql?_getD]
    exact SortOrder.not_mem_text heffective (by decide)
  simp only [rows, List.mem_append, not_or, and_assoc]
  exact ⟨hhead, semicolon_not_mem_numbered h, hkeyword.1, htext, hkeyword.2.1, semicolon_not_mem_argument _,
    hkeyword.2.2, semicolon_not_mem_argument _⟩

end Query

namespace Store

variable (engine : Engine) (s : Store)

theorem ask_snd {q : Query} (h : ';' ∉ q.text) : (s.ask engine q).2 = s := by
  have hcontains : q.text.contains ';' = false := by simpa using h
  simp only [ask, hcontains]
  rfl

section

variable {filter : Filter.Compiled} (h : ';' ∉ filter.sql)

include h

theorem count_snd : (s.count engine filter).2 = s := s.ask_snd engine (Query.semicolon_not_mem_count h)

theorem select_snd {order : SortOrder} (horder : ∀ t ∈ order, ';' ∉ t.column) (limit : UInt32) (offset : UInt64) :
    (s.select engine filter order limit offset).2 = s :=
  s.ask_snd engine (Query.semicolon_not_mem_rows h horder limit offset)

end

variable {options : Filter.Options} {r : ListRequest}

section

variable {filter : Filter.Compiled} {order : SortOrder} (hprepare : r.prepare options = .ok (filter, order))

include hprepare

/-- The condition of a request that passes all checks has no semicolon but those of the collation. -/
theorem semicolon_not_mem_of_prepare (hcollation : ';' ∉ options.collation) :
    ';' ∉ filter.sql ∧ ∀ t ∈ order, ';' ∉ t.column := by
  obtain ⟨hfilter, hcolumns, hsort⟩ := ListRequest.prepare_eq_ok hprepare
  rw [Filter.Compiled.checkColumns_eq_ok] at hcolumns
  have hfilterable : ∀ column ∈ Filter.filterable, ';' ∉ column := by decide
  have hsortable : ∀ column ∈ SortOrder.sortable, ';' ∉ column := by decide
  have hplaceholder (n : Nat) : ';' ∉ Filter.placeholder n := by
    rw [Filter.placeholder, List.mem_cons, List.mem_cons, not_or, not_or]
    exact ⟨by decide, by decide, semicolon_not_mem_ofNat n⟩
  refine ⟨Filter.not_mem_sql hfilter (by decide) (by decide) hplaceholder hcollation fun column hcolumn => ?_, ?_⟩
  · exact hfilterable column (hcolumns column hcolumn)
  · intro t ht
    exact hsortable _ (SortOrder.sortable_of_parse hsort t ht)

theorem list_of_prepare (hcollation : ';' ∉ options.collation) :
    s.list engine options r =
      ((do
        let total ← (s.count engine filter).1.mapError fun _ => .ofDatabase
        let users ← (s.select engine filter order r.page.limit r.page.offset).1.mapError fun _ => .ofDatabase
        return ⟨users.map User.toPublic, r.page.account (UInt64.ofNat total)⟩), s) := by
  obtain ⟨hsql, horder⟩ := semicolon_not_mem_of_prepare hprepare hcollation
  have hcount : s.count engine filter = ((s.count engine filter).1, s) := Prod.ext rfl (s.count_snd engine hsql)
  have hselect : s.select engine filter order r.page.limit r.page.offset =
      ((s.select engine filter order r.page.limit r.page.offset).1, s) :=
    Prod.ext rfl (s.select_snd engine hsql horder r.page.limit r.page.offset)
  generalize (s.count engine filter).1 = total at hcount ⊢
  generalize (s.select engine filter order r.page.limit r.page.offset).1 = users at hselect ⊢
  simp only [list, hprepare, hcount]
  cases total with
  | error e => rfl
  | ok total =>
    simp only [hselect]
    cases users <;> rfl

end

/-- Listing users changes nothing. -/
theorem list_snd (hcollation : ';' ∉ options.collation) : (s.list engine options r).2 = s := by
  cases hprepare : r.prepare options with
  | error e => rw [list, hprepare]
  | ok prepared =>
    obtain ⟨filter, order⟩ := prepared
    rw [s.list_of_prepare engine hprepare hcollation]

end Store

/-! ### Texts that are known -/

namespace Filter

theorem isColumnIdentifier_of_filterable {column : Text} (h : column ∈ filterable) : isColumnIdentifier column = true := by
  have hall : ∀ s ∈ filterable, isColumnIdentifier s = true := by decide
  exact hall column h

mutual

/-- A condition of columns that may be filtered by is plain. -/
theorem Chain.isPlain_predicate (e : Chain) (hcolumns : ∀ c ∈ e.comparisons, c.column ∈ filterable) (n : Nat) :
    ∀ t ∈ (e.predicate numberedPlaceholder n).tests.flatMap Test.terms, t.isPlain = true := by
  match e with
  | .single x => exact x.isPlain_predicate hcolumns n
  | .join left connective right =>
    rw [Chain.forall_comparisons_join] at hcolumns
    rw [Chain.predicate, Predicate.tests, List.flatMap_append, List.forall_mem_append]
    exact ⟨left.isPlain_predicate hcolumns.1 n, right.isPlain_predicate hcolumns.2 _⟩

theorem Operand.isPlain_predicate (x : Operand) (hcolumns : ∀ c ∈ x.comparisons, c.column ∈ filterable) (n : Nat) :
    ∀ t ∈ (x.predicate numberedPlaceholder n).tests.flatMap Test.terms, t.isPlain = true := by
  match x with
  | .test c =>
    have hcolumn := Operand.forall_comparisons_test.1 hcolumns
    obtain ⟨ks, hks⟩ := c.exists_terms_test numberedPlaceholder n
    rw [Operand.predicate, Predicate.tests, List.flatMap_singleton, hks, ofWord_of_filterable hcolumn,
      List.forall_mem_cons, List.forall_mem_map]
    refine ⟨isColumnIdentifier_of_filterable hcolumn, fun k _ => ?_⟩
    rw [ofWord_numberedPlaceholder]
    rfl
  | .group inner => exact inner.isPlain_predicate hcolumns n

end

theorem isPlain_sourcePredicate {collation : Text} {source : Option Chain}
    (hcolumns : ∀ column ∈ (compiledSource collation source).columns, column ∈ filterable) :
    ((sourcePredicate source).tests.flatMap Test.terms).all Term.isPlain = true := by
  rw [List.all_eq_true]
  cases source with
  | none => decide
  | some e => exact e.isPlain_predicate (Chain.forall_columns.1 hcolumns) 0

end Filter

theorem Query.isKnown_of_read {q : Query} {s : Statement} (hread : Statement.read q.text = .ok s)
    (hplain : s.isPlain = true) : q.isKnown = true := by
  rw [isKnown, hread]
  exact hplain

theorem Store.ask_of_isKnown (engine : Engine) {s : Store} (htable : s.has Table.users.name = true) {q : Query}
    (h : q.isKnown = true) : (s.ask engine q).1 = s.database.run q := by
  simp [ask, htable, h]

/-- If the collation is a name, both queries of a request that passes all checks are known. -/
theorem ListRequest.isKnown_of_prepare {options : Filter.Options}
    (hcollation : Settings.isCollation options.collation = true) (hname : isIdentifier options.collation = true)
    {r : ListRequest} (hbytes : byteSize r.filter < UInt64.size) {filter : Filter.Compiled} {order : SortOrder}
    (hprepare : r.prepare options = .ok (filter, order)) (limit : UInt32) (offset : UInt64) :
    (Query.count filter).isKnown = true ∧ (Query.rows filter order limit offset).isKnown = true := by
  obtain ⟨hfilter, hcolumns, hsort⟩ := ListRequest.prepare_eq_ok hprepare
  obtain ⟨-, source, hsource, rfl⟩ := Filter.compile_eq_ok_iff.1 hfilter
  rw [Filter.Compiled.checkColumns_eq_ok] at hcolumns
  have hlength := Filter.length_parameters_le hsource options.collation
  have hparses := Filter.parses_numbered hcollation hcolumns (by omega)
  have hnames := Filter.namesCollations_numbered hcollation hcolumns (by omega) fun _ _ _ _ _ => hname
  have hplain := Filter.isPlain_sourcePredicate hcolumns
  have hsortable := SortOrder.sortable_of_parse hsort
  have horder : ∀ t ∈ order.effective, isColumnIdentifier t.column = true := by
    have hall : ∀ s ∈ SortOrder.sortable, isColumnIdentifier s = true := by decide
    intro t ht
    exact hall _ (hsortable.effective t ht)
  constructor
  · apply Query.isKnown_of_read (read_count hparses hnames)
    exact Bool.and_eq_true_iff.2 ⟨hplain, rfl⟩
  · apply Query.isKnown_of_read (read_rows hparses hnames hsortable.exists limit offset)
    exact Bool.and_eq_true_iff.2 ⟨hplain, List.all_eq_true.2 horder⟩

/-- If the collation is a name, a request to list users is answered from the users that are stored, whatever the engine makes of other texts. -/
theorem Store.list_eq (engine : Engine) {s : Store} (htable : s.has Table.users.name = true) {options : Filter.Options}
    (hcollation : Settings.isCollation options.collation = true) (hname : isIdentifier options.collation = true)
    {r : ListRequest} (hbytes : byteSize r.filter < UInt64.size) :
    s.list engine options r = (s.database.list options r, s) := by
  cases hprepare : r.prepare options with
  | error e =>
    rw [list, Database.list, hprepare]
    rfl
  | ok prepared =>
    obtain ⟨filter, order⟩ := prepared
    have hsemicolon : ';' ∉ options.collation := by
      intro hmem
      simp only [Settings.isCollation, Bool.and_eq_true, List.all_eq_true] at hcollation
      exact absurd (hcollation.2 _ hmem) (by decide)
    rw [s.list_of_prepare engine hprepare hsemicolon, Database.list_of_prepare hprepare]
    obtain ⟨hcountKnown, hrowsKnown⟩ :=
      ListRequest.isKnown_of_prepare hcollation hname hbytes hprepare r.page.limit r.page.offset
    have hcount : (s.count engine filter).1 = s.database.count filter :=
      congrArg (Except.map Database.Answer.counted) (ask_of_isKnown engine htable hcountKnown)
    have hselect : (s.select engine filter order r.page.limit r.page.offset).1 =
        s.database.select filter order r.page.limit r.page.offset :=
      congrArg (Except.map Database.Answer.selected) (ask_of_isKnown engine htable hrowsKnown)
    rw [hcount, hselect]

end Roster
