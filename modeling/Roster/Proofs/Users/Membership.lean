import Roster.Proofs.Filter.Verbatim
import Roster.Proofs.Users.Appending
import Roster.Proofs.Users.Opposite

/-!
# Membership

A column is tested for membership in a list as if it were compared with the items one by one, the comparisons being joined by `||`, or by `&&` where the test is negated (`exists_hasTruth_membership`). An item stands for the same literal in the list and in its comparison, and both tests compare it under the affinity of the column. Unknown comparisons are no exception: three-valued OR is associative with false for its identity, and negation turns it into AND.
-/

namespace Roster

open Text Sql

theorem Truth.or_assoc (a b c : Truth) : (a.or b).or c = a.or (b.or c) := by
  cases a <;> cases b <;> cases c <;> rfl

theorem Truth.or_false (a : Truth) : a.or .false = a := by
  cases a <;> rfl

theorem Truth.not_or (a b : Truth) : (a.or b).not = a.not.and b.not := by
  cases a <;> cases b <;> rfl

namespace Filter

/-! ### Chains of comparisons -/

/-- The chain with comparisons after it, all joined by one connective. -/
def Chain.extend (k : Connective) (e : Chain) (cs : List Comparison) : Chain :=
  cs.foldl (fun e c => .join e k (.test c)) e

namespace Chain

variable (k : Connective)

theorem comparisons_extend (e : Chain) (cs : List Comparison) : (e.extend k cs).comparisons = e.comparisons ++ cs := by
  induction cs generalizing e with
  | nil => simp [extend]
  | cons c cs ih =>
    have htail := ih (.join e k (.test c))
    rw [comparisons, Operand.comparisons, List.append_assoc] at htail
    exact htail

theorem truth_extend (u : User) (e : Chain) (cs : List Comparison) :
    (e.extend k cs).truth u = cs.foldl (fun t c => k.eval t (c.truth u)) (e.truth u) := by
  induction cs generalizing e with
  | nil => rfl
  | cons c cs ih => exact ih (.join e k (.test c))

/-- A comparison that is no deeper than the chain adds one level. -/
theorem height_extend {name : Nat → Text} {n : Nat} {e : Chain} (hheight : 2 ≤ (e.predicate name n).height)
    {cs : List Comparison} (hcs : ∀ c ∈ cs, ∃ r, c.operator.rule = .relation r) :
    ((e.extend k cs).predicate name n).height = (e.predicate name n).height + cs.length := by
  induction cs generalizing e with
  | nil => rfl
  | cons c cs ih =>
    rw [List.forall_mem_cons] at hcs
    obtain ⟨⟨r, hr⟩, hcs⟩ := hcs
    have hjoin : ((Chain.join e k (.test c)).predicate name n).height = (e.predicate name n).height + 1 := by
      simp only [predicate, Operand.predicate, Predicate.height, Comparison.test, hr, Rule.test, Test.height]
      omega
    have htail : (((Chain.join e k (.test c)).extend k cs).predicate name n).height =
        ((Chain.join e k (.test c)).predicate name n).height + cs.length := ih (by omega) hcs
    rw [List.length_cons, ← Nat.add_assoc, Nat.add_right_comm, ← hjoin]
    exact htail

theorem spells_extend {α : Type} {f : α → Comparison} {spelling : α → Text} {xs : List α}
    (hxs : ∀ x ∈ xs, ∃ tokens, scan (spelling x) = .ok tokens ∧ tokens.map Located.token = (f x).tokens) {s : Text}
    {e : Chain} (h : Spells s (some e)) :
    Spells (s ++ xs.flatMap fun x => ' ' :: (k.symbol ++ ' ' :: spelling x)) (some (e.extend k (xs.map f))) := by
  have hsymbol : scan k.symbol = .ok [⟨.operator k.symbol, 0⟩] :=
    Operator.scan_symbol ⟨k.symbol, .connective k⟩ (by cases k <;> decide)
  induction xs generalizing s e with
  | nil => simpa [extend] using h
  | cons x xs ih =>
    rw [List.forall_mem_cons] at hxs
    obtain ⟨⟨ts, hscan, htokens⟩, hxs⟩ := hxs
    have hnext : Spells (s ++ ' ' :: (k.symbol ++ ' ' :: spelling x)) (some (.join e k (.test (f x)))) := by
      cases h with
      | chain hs hspelled =>
        obtain ⟨us, hus, husTokens⟩ := exists_scan_append hsymbol hscan
        obtain ⟨tokens, hall, hallTokens⟩ := exists_scan_append hs hus
        refine .chain hall ?_
        rw [hallTokens, husTokens, htokens, ← hspelled]
        rfl
    have htail := ih hxs hnext
    rw [List.append_assoc] at htail
    exact htail

end Chain

/-! ### The two filters -/

/-- The symbols that test for membership. -/
def memberSymbols (negated : Bool) : List Text :=
  if negated then ["!^^".toList, "!^$".toList] else ["^^".toList, "^$".toList]

/-- The test of a column for membership in a list. -/
def membership (symbol column : Text) (items : List Atom) : Text :=
  join [' '] [column, symbol, '[' :: (join ", ".toList (items.map Atom.spelling) ++ [']'])]

/-- The comparisons of a column with values, joined by `||`, or their opposites, joined by `&&`. -/
def equalities (negated : Bool) (column : Text) (values : List Atom) : Text :=
  join (if negated then " && ".toList else " || ".toList)
    (values.map fun a => join [' '] [column, if negated then "!=".toList else "==".toList, a.spelling])

theorem exists_member_operator {negated : Bool} {symbol : Text} (h : symbol ∈ memberSymbols negated) :
    ∃ op : TestOperator, op.symbol = symbol ∧ op.rule = .member negated := by
  cases negated with
  | false =>
    simp only [memberSymbols, Bool.false_eq_true, if_false, List.mem_cons, List.not_mem_nil, or_false] at h
    rcases h with rfl | rfl
    · exact ⟨⟨⟨_, .member false⟩, by decide, rfl⟩, rfl, rfl⟩
    · exact ⟨⟨⟨_, .member false⟩, by decide, rfl⟩, rfl, rfl⟩
  | true =>
    simp only [memberSymbols, if_true, List.mem_cons, List.not_mem_nil, or_false] at h
    rcases h with rfl | rfl
    · exact ⟨⟨⟨_, .member true⟩, by decide, rfl⟩, rfl, rfl⟩
    · exact ⟨⟨⟨_, .member true⟩, by decide, rfl⟩, rfl, rfl⟩

/-- The operator that compares with one item. -/
def equalityOperator (negated : Bool) : TestOperator where
  symbol := if negated then "!=".toList else "==".toList
  rule := .relation (if negated then .ne else .eq)
  mem_all := by cases negated <;> decide
  connective?_eq_none := rfl

/-- The connective between the comparisons. -/
def equalityConnective (negated : Bool) : Connective := if negated then .and else .or

/-- The comparison of the column with one value. -/
def equality (negated : Bool) (column : Text) (a : Atom) : Comparison :=
  ⟨column, equalityOperator negated, a.token, [a.literal], a.literals?_token rfl⟩

/-- The chain of comparisons with all values, of which there is at least one. -/
def equalityChain (negated : Bool) (column : Text) (a : Atom) (rest : List Atom) : Chain :=
  (Chain.single (.test (equality negated column a))).extend (equalityConnective negated)
    (rest.map (equality negated column))

theorem join_cons (separator s : Text) (rest : List Text) :
    join separator (s :: rest) = s ++ rest.flatMap fun t => separator ++ t := by
  induction rest generalizing s with
  | nil => simp [join]
  | cons t rest ih => rw [join, ih, List.flatMap_cons, List.append_assoc, List.append_assoc]

theorem spells_equalities {column : Text} (hcolumn : scan column = .ok [⟨.word column, 0⟩]) (negated : Bool) (a : Atom)
    (rest : List Atom) :
    Spells (equalities negated column (a :: rest)) (some (equalityChain negated column a rest)) := by
  have hscan (x : Atom) := (equality negated column x).exists_scan hcolumn x.scan_spelling
  obtain ⟨tokens, hfirst, htokens⟩ := hscan a
  have hsingle : Spells _ (some (.single (.test (equality negated column a)))) := .chain hfirst htokens.symm
  have hchain := Chain.spells_extend (equalityConnective negated) (fun x (_ : x ∈ rest) => hscan x) hsingle
  have htext : equalities negated column (a :: rest) =
      join [' '] [column, (equalityOperator negated).symbol, a.spelling] ++ rest.flatMap fun x =>
        ' ' :: ((equalityConnective negated).symbol ++ ' ' ::
          join [' '] [column, (equalityOperator negated).symbol, x.spelling]) := by
    rw [equalities, List.map_cons, join_cons, List.flatMap_map]
    cases negated <;> rfl
  rw [htext]
  exact hchain

/-! ### Truth -/

/-- The truth value of the test of a column for membership in a list. -/
def memberTruth (negated : Bool) (column : Column) (items : List Atom) (u : User) : Truth :=
  (Rule.member negated).truth column.affinity (u.value column) (items.map fun a => a.literal.meaning)

/-- The comparisons joined from left to right are the membership test. -/
theorem foldl_equalityConnective {α : Type} (negated : Bool) (f : α → Truth) (xs : List α) (t : Truth) :
    xs.foldl (fun t x => (equalityConnective negated).eval t (negateIf negated (f x))) (negateIf negated t) =
      negateIf negated (t.or ((xs.map f).foldr Truth.or .false)) := by
  have heval (a b : Truth) :
      (equalityConnective negated).eval (negateIf negated a) (negateIf negated b) = negateIf negated (a.or b) := by
    cases negated with
    | false => rfl
    | true => exact (Truth.not_or a b).symm
  induction xs generalizing t with
  | nil => rw [List.foldl_nil, List.map_nil, List.foldr_nil, Truth.or_false]
  | cons x xs ih => rw [List.foldl_cons, heval, ih, List.map_cons, List.foldr_cons, Truth.or_assoc]

section

variable {name : Text} (hname : name ∈ filterable) {column : Column} (hfind : Column.find? name = some column)

include hname hfind

theorem truth_equality (negated : Bool) (a : Atom) (u : User) :
    (equality negated name a).truth u =
      negateIf negated (Value.test column.affinity .eq (u.value column) a.literal.meaning) := by
  have htruth : (equality negated name a).truth u =
      Value.test column.affinity (if negated then .ne else .eq) (u.value column) a.literal.meaning :=
    @Comparison.truth_eq (equality negated name a) _ hname hfind u
  rw [htruth]
  cases negated with
  | false => rfl
  | true => exact test_opposite column.affinity .eq (u.value column) a.literal.meaning

theorem truth_equalityChain (negated : Bool) (a : Atom) (rest : List Atom) (u : User) :
    (equalityChain negated name a rest).truth u = memberTruth negated column (a :: rest) u := by
  have hsingle : (Chain.single (.test (equality negated name a))).truth u = (equality negated name a).truth u := rfl
  rw [equalityChain, Chain.truth_extend, hsingle, List.foldl_map]
  simp only [truth_equality hname hfind]
  rw [foldl_equalityConnective negated (fun a => Value.test column.affinity .eq (u.value column) a.literal.meaning) rest]
  simp only [memberTruth, Rule.truth, List.map_cons, List.map_map, List.foldr_cons]
  rfl

end

/-! ### The same truth -/

section

variable {name : Text} (hname : name ∈ filterable) {column : Column} (hfind : Column.find? name = some column)
  {options : Options} (hcollation : Settings.isCollation options.collation = true)
  (hmax : options.maxLength < UInt64.size) {negated : Bool}

include hname hfind hcollation hmax

theorem exists_compile_membership {symbol : Text} (hsymbol : symbol ∈ memberSymbols negated) {items : List Atom}
    (hne : items ≠ []) (hlength : byteSize (membership symbol name items) ≤ options.maxLength) :
    ∃ c, compile options (membership symbol name items) = .ok c ∧ c.HasTruth (memberTruth negated column items) := by
  obtain ⟨op, rfl, hrule⟩ := exists_member_operator hsymbol
  have hlist : op.rule.takesList = true := by rw [hrule]; rfl
  let m : Comparison := ⟨name, op, .list (Atom.listed items), _, Atom.literals?_list hne hlist⟩
  have hvalue := scan_list (Atom.closed_listed items)
  have hsize : m.bound.length ≤ UInt64.size := by
    obtain ⟨tokens, hscan, htokens⟩ := m.exists_scan (scan_of_filterable name hname) hvalue
    have hbound := m.length_bound_le
    have hbytes := extents_of_scanFrom hscan
    rw [htokens] at hbytes
    exact Nat.le_trans (Nat.le_trans hbound (Nat.le_trans hbytes hlength)) hmax.le
  obtain ⟨c, hc, htruth⟩ := exists_compile_comparison hcollation m (by simp [m, hrule, Rule.isLike]) hname hvalue hlength hsize
  have hmember : (fun u => m.truth u) = memberTruth negated column items := by
    funext u
    have hmeaning : m.literals.map op.rule.operand = items.map fun a => a.literal.meaning := by
      rw [hrule, List.map_map]
      rfl
    rw [Comparison.truth_eq hname hfind]
    show op.rule.truth column.affinity (u.value column) (m.literals.map op.rule.operand) = _
    rw [hmeaning, hrule, memberTruth]
  exact ⟨c, hc, hmember ▸ htruth⟩

/-- The condition has one level for every comparison and one more. -/
theorem exists_compile_equalities (a : Atom) (rest : List Atom)
    (hlength : byteSize (equalities negated name (a :: rest)) ≤ options.maxLength) :
    ∃ c, compile options (equalities negated name (a :: rest)) = .ok c ∧
      (∀ u, c.truth? u = some (memberTruth negated column (a :: rest) u)) ∧
      (rest.length + 1 < Database.maxDepth → c.HasTruth (memberTruth negated column (a :: rest))) := by
  have hspells := spells_equalities (scan_of_filterable name hname) negated a rest
  have hcomparisons : (equalityChain negated name a rest).comparisons = (a :: rest).map (equality negated name) :=
    Chain.comparisons_extend _ _ _
  have hcolumns : ∀ name' ∈ (compiledSource options.collation (some (equalityChain negated name a rest))).columns,
      name' ∈ filterable := by
    refine Chain.forall_columns.2 ?_
    rw [hcomparisons]
    simp [equality, hname]
  have hsize := length_parameters_le hspells options.collation
  have hmember : (fun u => sourceTruth u (some (equalityChain negated name a rest))) =
      memberTruth negated column (a :: rest) := by
    funext u
    exact truth_equalityChain hname hfind negated a rest u
  have hnames : Names options.collation (some (equalityChain negated name a rest)) := by
    rintro _ ⟨⟩
    rw [hcomparisons]
    simp [equality, equalityOperator, Rule.isLike]
  refine ⟨_, compile_eq_ok_iff.2 ⟨hlength, _, hspells, rfl⟩, ?_, ?_⟩
  · rw [← hmember]
    exact truth?_compiledSource hcollation _ hcolumns (by omega) hnames
  · intro hdepth
    have hfirst : ((Chain.single (.test (equality negated name a))).predicate numberedPlaceholder 0).height = 2 := rfl
    have hrelation : ∀ c ∈ rest.map (equality negated name), ∃ r, c.operator.rule = .relation r := by
      intro c hc
      obtain ⟨x, -, rfl⟩ := List.mem_map.1 hc
      exact ⟨_, rfl⟩
    have hheight := Chain.height_extend (equalityConnective negated) (by rw [hfirst]) hrelation
    rw [← hmember]
    refine hasTruth_compiledSource hcollation _ hcolumns (by omega) hnames ?_
    show ((equalityChain negated name a rest).predicate numberedPlaceholder 0).height ≤ Database.maxDepth
    rw [equalityChain, hheight, hfirst, List.length_map]
    omega

end

/-- The membership test and the comparisons with its items are both compiled, if they are not too long, and they have the same truth value on every user. So the database counts and selects the same users for both, if the comparisons are not too deep for it. -/
theorem exists_hasTruth_membership {column : Text} (hcolumn : column ∈ filterable) {options : Options}
    (hcollation : Settings.isCollation options.collation = true) (hmax : options.maxLength < UInt64.size)
    {negated : Bool} {symbol : Text} (hsymbol : symbol ∈ memberSymbols negated) {items : List Atom} (hne : items ≠ [])
    (hmembership : byteSize (membership symbol column items) ≤ options.maxLength)
    (hequalities : byteSize (equalities negated column items) ≤ options.maxLength) :
    ∃ c c' truth, compile options (membership symbol column items) = .ok c ∧
      compile options (equalities negated column items) = .ok c' ∧ c.HasTruth truth ∧
      (∀ u, c'.truth? u = some (truth u)) ∧ (items.length < Database.maxDepth → c'.HasTruth truth) := by
  obtain ⟨k, hfind⟩ := find?_of_filterable hcolumn
  obtain ⟨a, rest, rfl⟩ := List.exists_cons_of_ne_nil hne
  obtain ⟨c, hc, htruth⟩ := exists_compile_membership hcolumn hfind hcollation hmax hsymbol hne hmembership
  obtain ⟨c', hc', htruth?, htruth'⟩ := exists_compile_equalities hcolumn hfind hcollation hmax a rest hequalities
  exact ⟨c, c', memberTruth negated k (a :: rest), hc, hc', htruth, htruth?, htruth'⟩

/-- Literals of all kinds next to a column of integers. -/
theorem exists_hasTruth_membership_mixed :
    ∃ c c' : Compiled, compile ⟨"NOCASE".toList, 64⟩ "Active !^$ ['1', true, 01, x]".toList = .ok c ∧
      compile ⟨"NOCASE".toList, 64⟩ "Active != '1' && Active != true && Active != 01 && Active != x".toList = .ok c' ∧
      ∀ db : Database, db.count c = db.count c' := by
  let items : List Atom :=
    [.quotation ⟨'\'', ['1'], rfl, by decide⟩, .word "true".toList (by decide +kernel) (by decide),
      .word "01".toList (by decide +kernel) (by decide), .word ['x'] (by decide +kernel) (by decide)]
  have htext : membership "!^$".toList "Active".toList items = "Active !^$ ['1', true, 01, x]".toList := by decide
  have htext' : equalities true "Active".toList items =
      "Active != '1' && Active != true && Active != 01 && Active != x".toList := by
    decide
  obtain ⟨c, c', truth, hc, hc', htruth, -, htruth'⟩ :=
    @exists_hasTruth_membership "Active".toList (by decide) ⟨"NOCASE".toList, 64⟩ (by decide) (by decide) true
      "!^$".toList (by decide) items (List.cons_ne_nil _ _) (by rw [htext]; decide) (by rw [htext']; decide)
  rw [htext] at hc
  rw [htext'] at hc'
  refine ⟨c, c', hc, hc', fun db => ?_⟩
  have hparameters := (length_parameters_le_maxLength hc).trans (show 64 ≤ Database.maxArguments by decide)
  have hparameters' := (length_parameters_le_maxLength hc').trans (show 64 ≤ Database.maxArguments by decide)
  rw [htruth.count_eq hparameters, (htruth' (by decide)).count_eq hparameters']

end Filter

end Roster
