import Roster.Proofs.SortOrder
import Roster.Proofs.Sql.Grammar
import Roster.Proofs.Sql.Word
import Roster.Users.Listing

/-!
# Answers of the database

The database reads the text of a query back into the statement that was meant. So if the numbered condition of a filter is read as `p`, users are counted and selected by `p`, provided that `p` is not too deep and that all columns exist.
-/

namespace Roster

open Text Sql

/-! ### Orders -/

namespace SortOrder

/-- The order in which users are selected: by name if no order is asked for. -/
def effective (order : SortOrder) : SortOrder :=
  if order.isEmpty then [⟨Column.username.name, .ascending⟩] else order

/-- All columns of the order exist. -/
def Exists (order : SortOrder) : Prop := ∀ t ∈ order, (Column.find? t.column).isSome = true

end SortOrder

@[simp] theorem Direction.ofWord?_keyword (d : Direction) : Direction.ofWord? d.keyword = some d := by
  cases d <;> decide

theorem isWord_direction (d : Direction) : IsWord d.keyword := by
  cases d <;> decide

/-- The name of a column in any case is a word. -/
theorem isWord_of_find? {s : Text} (h : (Column.find? s).isSome = true) : IsWord s := by
  obtain ⟨c, hc⟩ := Option.isSome_iff_exists.1 h
  have hsame : c.name.map Char.toLower = s.map Char.toLower := by
    simpa [Column.find?, sameIgnoringCase] using List.find?_some hc
  have hname : IsWord (c.name.map Char.toLower) := by cases c <;> decide
  have hclass : ([' ', '(', ')', ','].all fun d => !(!isSeparator d.toLower)) = true := by decide
  have hlength : c.name.length = s.length := by simpa using congrArg List.length hsame
  have hpos : 0 < c.name.length := by cases c <;> decide
  refine ⟨List.ne_nil_of_length_pos (by omega), ?_⟩
  intro d hd
  have hmem : d.toLower ∈ s.map Char.toLower := List.mem_map_of_mem hd
  rw [← hsame] at hmem
  exact not_separator_of_class hclass (by simp [hname.not_separator _ hmem])

namespace SortOrder

theorem toSql?_getD (order : SortOrder) : order.toSql?.getD Query.defaultOrder = order.effective.text := by
  cases order <;> rfl

theorem exists_effective {order : SortOrder} (h : order.Exists) : order.effective.Exists := by
  cases order with
  | nil => simp [effective, Exists]
  | cons t order => exact h

theorem effective_ne_nil (order : SortOrder) : order.effective ≠ [] := by
  cases order <;> simp [effective]

end SortOrder

theorem lexemes_sortTerm {t : SortTerm} (h : IsWord t.column) :
    lexemes (t.column ++ ' ' :: t.direction.keyword) = [.word t.column, .word t.direction.keyword] := by
  rw [h.lexemes_append_blank, (isWord_direction t.direction).lexemes]

/-- An order is read back up to a lexeme that is no comma. -/
theorem orderTerms?_text {order : SortOrder} (hne : order ≠ []) (horder : order.Exists) (rest : List Lexeme)
    (hrest : rest.head? ≠ some .comma) :
    Statement.orderTerms? (lexemes order.text ++ rest) = some (order, rest) := by
  induction order with
  | nil => exact absurd rfl hne
  | cons t order ih =>
    have ht : IsWord t.column := isWord_of_find? (horder t (by simp))
    cases order with
    | nil =>
      have htext : SortOrder.text [t] = t.column ++ ' ' :: t.direction.keyword := rfl
      rw [htext, lexemes_sortTerm ht]
      have hread : Statement.orderTerms? (.word t.column :: .word t.direction.keyword :: rest) =
          (Direction.ofWord? t.direction.keyword).bind fun direction => some ([⟨t.column, direction⟩], rest) := by
        cases rest with
        | nil => rfl
        | cons l rest =>
          cases l with
          | comma => simp at hrest
          | _ => rfl
      rw [List.cons_append, List.cons_append, List.nil_append, hread, Direction.ofWord?_keyword]
      rfl
    | cons t' order =>
      have hinner := ih (by simp) fun u hu => horder u (List.mem_cons_of_mem _ hu)
      rw [SortOrder.text_cons_cons, lexemes_append rfl, lexemes_sortTerm ht, lexemes_comma, lexemes_blank]
      simp only [List.cons_append, List.nil_append, Statement.orderTerms?, Direction.ofWord?_keyword, hinner]
      rfl

/-- The text of an order has no other characters than its columns, but for separators and the words for directions. -/
theorem SortOrder.not_mem_text {mark : Char} {order : SortOrder} (hcolumns : ∀ t ∈ order, mark ∉ t.column)
    (hmark : mark ∉ ", ASCDESC".toList) : mark ∉ order.text := by
  have hterm (t : SortTerm) (ht : mark ∉ t.column) : mark ∉ t.column ++ ' ' :: t.direction.keyword := by
    have hkeyword : t.direction.keyword ⊆ ", ASCDESC".toList := by cases t.direction <;> decide
    have hblank : ' ' ∈ ", ASCDESC".toList := by decide
    rw [List.mem_append, List.mem_cons]
    rintro (hmem | rfl | hmem)
    · exact ht hmem
    · exact hmark hblank
    · exact hmark (hkeyword hmem)
  induction order with
  | nil => simp [SortOrder.text, join]
  | cons t order ih =>
    rw [List.forall_mem_cons] at hcolumns
    cases order with
    | nil => exact hterm t hcolumns.1
    | cons t' order =>
      rw [SortOrder.text_cons_cons, List.mem_append, List.mem_cons, List.mem_cons]
      rintro (hmem | rfl | rfl | hmem)
      · exact hterm t hcolumns.1 hmem
      · exact hmark (by decide)
      · exact hmark (by decide)
      · exact ih hcolumns.2 hmem

theorem collate_not_mem_order {order : SortOrder} (horder : order.Exists) :
    Lexeme.word "COLLATE".toList ∉ lexemes order.text := by
  induction order with
  | nil => simp [SortOrder.text, join]
  | cons t order ih =>
    have ht : IsWord t.column := isWord_of_find? (horder t (by simp))
    have hcolumn : "COLLATE".toList ≠ t.column := by
      intro hcollate
      have hfind := horder t (by simp)
      rw [← hcollate] at hfind
      exact absurd hfind (by decide)
    have hdirection : "COLLATE".toList ≠ t.direction.keyword := by cases t.direction <;> decide
    have hterm : Lexeme.word "COLLATE".toList ∉ lexemes (t.column ++ ' ' :: t.direction.keyword) := by
      rw [lexemes_sortTerm ht]
      simp only [List.mem_cons, Lexeme.word.injEq, List.not_mem_nil, or_false, not_or]
      exact ⟨hcolumn, hdirection⟩
    cases order with
    | nil => exact hterm
    | cons t' order =>
      rw [SortOrder.text_cons_cons, lexemes_append rfl, lexemes_comma, lexemes_blank, List.mem_append, List.mem_cons]
      rintro (hmem | hmem | hmem)
      · exact hterm hmem
      · cases hmem
      · exact ih (fun u hu => horder u (List.mem_cons_of_mem _ hu)) hmem

/-! ### Reading statements -/

/-- The lexemes after the condition of a selection. -/
def pageLexemes (order : SortOrder) (limit offset : Nat) : List Lexeme :=
  .word "BY".toList :: (lexemes order.effective.text ++
    [.word "LIMIT".toList, .word (argument limit), .word "OFFSET".toList, .word (argument offset)])

theorem collate_not_mem_pageLexemes {order : SortOrder} (horder : order.Exists) (limit offset : Nat) :
    Lexeme.word "COLLATE".toList ∉ .word "ORDER".toList :: pageLexemes order limit offset := by
  have htext := collate_not_mem_order (SortOrder.exists_effective horder)
  have hargument (n : Nat) : "COLLATE".toList ≠ argument n := by simp [argument]
  simp only [pageLexemes, List.mem_cons, List.mem_append, Lexeme.word.injEq, List.not_mem_nil, or_false, not_or]
  exact ⟨by decide, by decide, htext, by decide, hargument limit, by decide, hargument offset⟩

@[simp] theorem argument?_argument (n : Nat) : argument? (argument n) = some n := toNat?_ofNat n

theorem page?_pageLexemes {order : SortOrder} (h : order.Exists) (limit offset : Nat) :
    Statement.page? (.word "ORDER".toList :: pageLexemes order limit offset) =
      some (order.effective, limit, offset) := by
  have horder (ts : List Lexeme) : (lexemes "ORDER BY".toList).isPrefixOf?
      (.word "ORDER".toList :: .word "BY".toList :: ts) = some ts := rfl
  have hterms := orderTerms?_text order.effective_ne_nil (SortOrder.exists_effective h)
    [.word "LIMIT".toList, .word (argument limit), .word "OFFSET".toList, .word (argument offset)] (by simp)
  unfold Statement.page? pageLexemes
  rw [horder]
  simp only [Option.bind_eq_bind, Option.bind_some]
  rw [hterms, Option.bind_some]
  show (if "LIMIT".toList = "LIMIT".toList ∧ "OFFSET".toList = "OFFSET".toList then _ else none) = _
  rw [if_pos ⟨rfl, rfl⟩]
  simp only [argument?_argument]
  rfl

theorem lexemes_rows (filter : Filter.Compiled) (order : SortOrder) (limit : UInt32) (offset : UInt64) :
    lexemes (Query.rows filter order limit offset).text =
      lexemes Query.rowsHead ++ (lexemes (numbered filter.sql) ++ .word "ORDER".toList ::
        pageLexemes order (filter.parameters.length + 1) (filter.parameters.length + 2)) := by
  have hargument (n : Nat) : IsWord (argument n) := isWord_ofNat rfl n
  have hword (s : Text) (h : s ∈ ["ORDER".toList, "BY".toList, "LIMIT".toList, "OFFSET".toList]) : IsWord s := by
    have hall : ∀ s ∈ ["ORDER".toList, "BY".toList, "LIMIT".toList, "OFFSET".toList], IsWord s := by decide
    exact hall s h
  have htext : (Query.rows filter order limit offset).text =
      Query.rowsHead ++ (numbered filter.sql ++ ' ' :: ("ORDER".toList ++ ' ' :: ("BY".toList ++ ' ' ::
        (order.effective.text ++ ' ' :: ("LIMIT".toList ++ ' ' :: (argument (filter.parameters.length + 1) ++ ' ' ::
          ("OFFSET".toList ++ ' ' :: argument (filter.parameters.length + 2)))))))) := by
    have horder : " ORDER BY ".toList = ' ' :: ("ORDER".toList ++ ' ' :: ("BY".toList ++ [' '])) := rfl
    have hlimit : " LIMIT ".toList = ' ' :: ("LIMIT".toList ++ [' ']) := rfl
    have hoffset : " OFFSET ".toList = ' ' :: ("OFFSET".toList ++ [' ']) := rfl
    simp only [Query.rows, SortOrder.toSql?_getD, horder, hlimit, hoffset, List.append_assoc, List.cons_append,
      List.nil_append]
  rw [htext, lexemes_append_of_getLast? rfl, lexemes_append rfl, lexemes_blank,
    (hword "ORDER".toList (by simp)).lexemes_append_blank, (hword "BY".toList (by simp)).lexemes_append_blank,
    lexemes_append rfl, lexemes_blank, (hword "LIMIT".toList (by simp)).lexemes_append_blank,
    (hargument _).lexemes_append_blank, (hword "OFFSET".toList (by simp)).lexemes_append_blank, (hargument _).lexemes]
  rfl

section

variable {filter : Filter.Compiled} {p : Predicate} (h : Parses .condition (lexemes (numbered filter.sql)) p)

include h

/-- A query that counts is read as it is meant if all collations are named. -/
theorem read_count_cases :
    Statement.read (Query.count filter).text = .ok (.count p) ∨
      ¬NamesCollations (lexemes (numbered filter.sql)) ∧
        ∃ fault, Statement.read (Query.count filter).text = .error fault := by
  have hlexemes : lexemes (Query.count filter).text = lexemes Query.countHead ++ lexemes (numbered filter.sql) :=
    lexemes_append_of_getLast? rfl _
  have hcount (ts : List Lexeme) :
      (lexemes Query.countHead).isPrefixOf? (lexemes Query.countHead ++ ts) = some ts := rfl
  unfold Statement.read
  rw [hlexemes]
  simp only [hcount]
  by_cases hnames : NamesCollations (lexemes (numbered filter.sql))
  · rw [readCondition_of_parses h hnames]
    exact .inl rfl
  · obtain ⟨fault, hfault⟩ := exists_readCondition_eq_error hnames
    rw [hfault]
    exact .inr ⟨hnames, fault, rfl⟩

theorem read_rows_cases {order : SortOrder} (horder : order.Exists) (limit : UInt32) (offset : UInt64) :
    Statement.read (Query.rows filter order limit offset).text =
        .ok (.rows p order.effective (filter.parameters.length + 1) (filter.parameters.length + 2)) ∨
      ¬NamesCollations (lexemes (numbered filter.sql)) ∧
        ∃ fault, Statement.read (Query.rows filter order limit offset).text = .error fault := by
  have hcount (ts : List Lexeme) :
      (lexemes Query.countHead).isPrefixOf? (lexemes Query.rowsHead ++ ts) = none := rfl
  have hrows (ts : List Lexeme) :
      (lexemes Query.rowsHead).isPrefixOf? (lexemes Query.rowsHead ++ ts) = some ts := rfl
  let page := pageLexemes order (filter.parameters.length + 1) (filter.parameters.length + 2)
  have hpage : NamesCollations (.word "ORDER".toList :: page) :=
    namesCollations_of_not_mem (collate_not_mem_pageLexemes horder _ _)
  unfold Statement.read
  rw [lexemes_rows]
  simp only [hcount, hrows]
  by_cases hnames : NamesCollations (lexemes (numbered filter.sql) ++ .word "ORDER".toList :: page)
  · rw [readCondition_append h (by decide) (by decide) hnames]
    simp only [bind, Except.bind, page, page?_pageLexemes horder]
    exact .inl trivial
  · obtain ⟨fault, hfault⟩ := exists_readCondition_eq_error hnames
    rw [hfault]
    exact .inr ⟨fun hcondition => hnames (hcondition.append hpage), fault, rfl⟩

variable (hnames : NamesCollations (lexemes (numbered filter.sql)))

include hnames

theorem read_count : Statement.read (Query.count filter).text = .ok (.count p) :=
  (read_count_cases h).resolve_right fun hfault => hfault.1 hnames

theorem read_rows {order : SortOrder} (horder : order.Exists) (limit : UInt32) (offset : UInt64) :
    Statement.read (Query.rows filter order limit offset).text =
      .ok (.rows p order.effective (filter.parameters.length + 1) (filter.parameters.length + 2)) :=
  (read_rows_cases h horder limit offset).resolve_right fun hfault => hfault.1 hnames

end

/-! ### What is accepted -/

namespace Sql

theorem Test.height_le (t : Test) : t.height ≤ 4 := by
  cases t with
  | compare _ _ _ => simp [Test.height]
  | like negated _ _ => cases negated <;> simp [Test.height]
  | phonetic _ _ _ => simp [Test.height]
  | member negated _ items =>
    by_cases hone : items.length = 1
    · cases negated <;> simp [Test.height, hone]
    · cases negated <;> simp [Test.height, hone]

namespace Predicate

/-- The numbers of the arguments of a condition. -/
def argumentNumbers (p : Predicate) : List Nat :=
  (p.tests.flatMap Test.terms).filterMap fun
    | .argument n => some n
    | _ => none

theorem mem_argumentNumbers_test {test : Test} {n : Nat} :
    n ∈ (Predicate.test test).argumentNumbers ↔ Term.argument n ∈ test.terms := by
  simp only [argumentNumbers, tests, List.flatMap_singleton, List.mem_filterMap]
  constructor
  · rintro ⟨t, ht, he⟩
    cases t <;> cases he
    exact ht
  · intro h
    exact ⟨_, h, rfl⟩

theorem argumentNumbers_join (k : Connective) (p q : Predicate) :
    (Predicate.join k p q).argumentNumbers = p.argumentNumbers ++ q.argumentNumbers := by
  simp [argumentNumbers, tests]

end Predicate

end Sql

/-! ### Answers -/

namespace Database

variable {db : Database} {filter : Filter.Compiled} {p : Predicate} {n : Nat}

/-- The condition can be evaluated with `n` arguments, unless these are too many. -/
structure Accepts (p : Predicate) (n : Nat) : Prop where
  height_le : p.height ≤ maxDepth
  exists_column : ∀ name ∈ p.columns, (Column.find? name).isSome = true
  argument : ∀ k ∈ p.argumentNumbers, 1 ≤ k ∧ k ≤ n

theorem isPermitted_argument {n : Nat} : isPermitted (.argument n) = true ↔ 1 ≤ n ∧ n ≤ maxArguments := by
  simp [isPermitted]

theorem all_isPermitted {test : Test} :
    test.terms.all isPermitted = true ↔
      ∀ k ∈ (Predicate.test test).argumentNumbers, 1 ≤ k ∧ k ≤ maxArguments := by
  simp only [List.all_eq_true, Predicate.mem_argumentNumbers_test]
  constructor
  · intro h k hk
    exact isPermitted_argument.1 (h _ hk)
  · intro h t ht
    cases t with
    | argument n => exact isPermitted_argument.2 (h n ht)
    | _ => rfl

/-- A condition has a depth exactly if its arguments have permitted numbers and nothing in it is too deep. -/
theorem depth_eq_ok {n : Nat} :
    depth p = .ok n ↔
      (∀ k ∈ p.argumentNumbers, 1 ≤ k ∧ k ≤ maxArguments) ∧ p.height ≤ maxDepth ∧ n = p.height := by
  induction p generalizing n with
  | test test =>
    have hheight : (Predicate.test test).height ≤ maxDepth := Nat.le_trans test.height_le (by decide)
    rw [depth, ← all_isPermitted]
    split
    · rename_i hall
      rw [Except.ok.injEq]
      exact ⟨fun h => ⟨hall, hheight, h.symm⟩, fun h => h.2.2.symm⟩
    · rename_i hall
      simp [hall]
  | join k left right ihleft ihright =>
    rw [Predicate.argumentNumbers_join, List.forall_mem_append]
    constructor
    · intro h
      obtain ⟨a, ha, h⟩ := except_bind_eq_ok.1 h
      obtain ⟨b, hb, h⟩ := except_bind_eq_ok.1 h
      obtain ⟨hleft, -, rfl⟩ := ihleft.1 ha
      obtain ⟨hright, -, rfl⟩ := ihright.1 hb
      dsimp only at h
      split at h
      · cases h
      · rename_i hdepth
        cases h
        exact ⟨⟨hleft, hright⟩, Nat.le_of_not_lt hdepth, rfl⟩
    · rintro ⟨⟨hleft, hright⟩, hdepth, rfl⟩
      rw [Predicate.height] at hdepth
      have ha : depth left = .ok left.height := ihleft.2 ⟨hleft, by omega, rfl⟩
      have hb : depth right = .ok right.height := ihright.2 ⟨hright, by omega, rfl⟩
      rw [depth, ha, hb]
      exact if_neg (Nat.not_lt.2 hdepth)

theorem check_eq_ok {s : Statement} {n : Nat} (hs : Accepts s.condition n) (hn : n ≤ maxArguments)
    (hpage : ∀ t ∈ s.page, isPermitted t = true) (horder : s.order.Exists) : check s = .ok () := by
  have hdepth : depth s.condition = .ok s.condition.height := by
    refine depth_eq_ok.2 ⟨fun k hk => ?_, hs.height_le, rfl⟩
    obtain ⟨hone, hle⟩ := hs.argument k hk
    exact ⟨hone, Nat.le_trans hle hn⟩
  have hfind : (s.condition.columns ++ s.order.map SortTerm.column).find?
      (fun name => (Column.find? name).isNone) = none := by
    rw [List.find?_eq_none]
    intro name hname
    rcases List.mem_append.1 hname with hname | hname
    · simpa [Option.isSome_iff_ne_none] using hs.exists_column name hname
    · obtain ⟨t, ht, rfl⟩ := List.mem_map.1 hname
      simpa [Option.isSome_iff_ne_none] using horder t ht
  have hall : (!s.page.all isPermitted) = false := by simpa using hpage
  rw [check, hdepth]
  simp only [bind, Except.bind, hall, hfind]
  rfl

theorem check_count (hp : Accepts p n) (hn : n ≤ maxArguments) : check (.count p) = .ok () :=
  check_eq_ok hp hn (by simp [Statement.page]) (by simp [Statement.order, SortOrder.Exists])

/-- A selection has two more arguments than its condition. -/
theorem check_rows (hp : Accepts p n) (hpage : n + 2 ≤ maxArguments) {order : SortOrder} (horder : order.Exists) :
    check (.rows p order.effective (n + 1) (n + 2)) = .ok () := by
  refine check_eq_ok hp (by omega) ?_ (SortOrder.exists_effective horder)
  intro t ht
  simp only [Statement.page, List.mem_cons, List.not_mem_nil, or_false] at ht
  rcases ht with rfl | rfl
  · exact isPermitted_argument.2 ⟨by omega, by omega⟩
  · exact isPermitted_argument.2 ⟨by omega, hpage⟩

theorem run_eq (db : Database) {q : Query} {s : Statement} (hread : Statement.read q.text = .ok s) :
    db.run q = (check s).map fun _ => db.answer q.arguments s := by
  simp only [run, hread]
  cases check s <;> rfl

theorem run_eq_error (db : Database) {q : Query} {fault : Unreadable} (hread : Statement.read q.text = .error fault) :
    db.run q = .error (.unreadable fault) := by
  simp only [run, hread]

theorem count_eq (hread : Statement.read (Query.count filter).text = .ok (.count p))
    (hcheck : check (.count p) = .ok ()) :
    db.count filter = .ok (db.users.countP (satisfies p (filter.parameters.map (·.value.bound)))) := by
  rw [count, run_eq db hread, hcheck]
  rfl

/-- The arguments of a selection. -/
def selectArguments (filter : Filter.Compiled) (limit : UInt32) (offset : UInt64) : List Value :=
  filter.parameters.map (·.value.bound) ++ [.integer limit.toNat, .integer (min offset.toNat Query.maxOffset : Nat)]

theorem select_eq {order : SortOrder} {limit : UInt32} {offset : UInt64}
    (hread : Statement.read (Query.rows filter order limit offset).text =
      .ok (.rows p order.effective (filter.parameters.length + 1) (filter.parameters.length + 2)))
    (hcheck : check (.rows p order.effective (filter.parameters.length + 1) (filter.parameters.length + 2)) = .ok ()) :
    db.select filter order limit offset =
      .ok ((((db.users.filter (satisfies p (selectArguments filter limit offset))).mergeSort
        fun u v => (compareBy order.effective u v).isLE).drop (min offset.toNat Query.maxOffset)).take limit.toNat) := by
  have hlimit : wholeArgument (selectArguments filter limit offset) (filter.parameters.length + 1) = limit.toNat := by
    simp [wholeArgument, selectArguments]
  have hoffset : wholeArgument (selectArguments filter limit offset) (filter.parameters.length + 2) =
      min offset.toNat Query.maxOffset := by
    have hget : (selectArguments filter limit offset)[filter.parameters.length + 2 - 1]? =
        some (.integer (min offset.toNat Query.maxOffset : Nat)) := by
      simp [selectArguments]
    rw [wholeArgument, hget]
    exact Int.toNat_natCast _
  rw [select, run_eq db hread, hcheck]
  simp only [← hlimit, ← hoffset]
  rfl

end Database

/-! ### Requests -/

namespace SortOrder

/-- All columns of the order may be sorted by. -/
def Sortable (order : SortOrder) : Prop := ∀ t ∈ order, t.column ∈ sortable

variable {order : SortOrder}

theorem sortable_of_parse {s : Text} (h : parse sortable s = .ok order) : order.Sortable := column_mem_of_parse h

theorem Sortable.exists (h : order.Sortable) : order.Exists := by
  have hall : ∀ column ∈ sortable, (Column.find? column).isSome = true := by decide
  intro t ht
  exact hall _ (h t ht)

theorem Sortable.effective (h : order.Sortable) : order.effective.Sortable := by
  cases order with
  | nil =>
    intro t ht
    rw [List.mem_singleton.1 ht]
    decide
  | cons t order => exact h

end SortOrder

section

variable {options : Filter.Options} {r : ListRequest} {filter : Filter.Compiled} {order : SortOrder}
  (h : r.prepare options = .ok (filter, order))

include h

theorem ListRequest.prepare_eq_ok :
    Filter.compile options r.filter = .ok filter ∧ filter.checkColumns Filter.filterable = .ok () ∧
      SortOrder.parse SortOrder.sortable r.sort = .ok order := by
  unfold ListRequest.prepare at h
  obtain ⟨_, -, h⟩ := except_bind_eq_ok.1 h
  obtain ⟨filter', hfilter, h⟩ := except_bind_eq_ok.1 h
  obtain ⟨_, hcolumns, h⟩ := except_bind_eq_ok.1 h
  obtain ⟨order', horder, h⟩ := except_bind_eq_ok.1 h
  cases h
  exact ⟨except_mapError_eq_ok.1 hfilter, except_mapError_eq_ok.1 hcolumns, except_mapError_eq_ok.1 horder⟩

theorem Database.list_of_prepare (db : Database) :
    db.list options r =
      (do
        let total ← (db.count filter).mapError fun _ => .ofDatabase
        let users ← (db.select filter order r.page.limit r.page.offset).mapError fun _ => .ofDatabase
        return ⟨users.map User.toPublic, r.page.account (UInt64.ofNat total)⟩) := by
  rw [list, h]
  rfl

end

end Roster
