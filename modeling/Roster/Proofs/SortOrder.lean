import Mathlib.Data.List.Forall2
import Roster.Except
import Roster.Proofs.Text.Words
import Roster.SortOrder

/-!
# Sort texts

A sort text is blank, or every piece of it between commas names a column and perhaps a direction. It is read as an order exactly if all columns are allowed, and otherwise the first faulty piece is reported (`SortOrder.parse_pieces`). White space separates what a piece names, so an allowed column that has a blank or a comma in it cannot be named. That is why an order which was read can be written into a statement, and why it is read back from there.
-/

namespace Roster

open Text

section

variable {ε α β : Type} {f : α → Except ε β}

theorem mapM_eq_ok_iff {xs : List α} {ys : List β} :
    xs.mapM f = .ok ys ↔ List.Forall₂ (fun x y => f x = .ok y) xs ys := by
  induction xs generalizing ys with
  | nil => exact ⟨fun h => by cases h; exact .nil, fun h => by cases h; rfl⟩
  | cons x xs ih =>
    rw [List.mapM_cons, except_bind_eq_ok]
    constructor
    · rintro ⟨y, hy, h⟩
      obtain ⟨ys', hys, he⟩ := except_bind_eq_ok.1 h
      cases he
      exact .cons hy (ih.1 hys)
    · intro h
      cases h with
      | cons hy hys => exact ⟨_, hy, except_bind_eq_ok.2 ⟨_, ih.2 hys, rfl⟩⟩

theorem mapM_eq_error_iff {xs : List α} {e : ε} :
    xs.mapM f = .error e ↔
      ∃ before x after, xs = before ++ x :: after ∧ (∀ y ∈ before, ∃ z, f y = .ok z) ∧ f x = .error e := by
  induction xs with
  | nil =>
    constructor
    · intro h
      cases h
    · rintro ⟨before, x, after, h, -⟩
      simp at h
  | cons x xs ih =>
    rw [List.mapM_cons, except_bind_eq_error]
    constructor
    · rintro (h | ⟨y, hy, h⟩)
      · exact ⟨[], x, xs, rfl, List.forall_mem_nil _, h⟩
      rcases except_bind_eq_error.1 h with h | ⟨_, -, h⟩
      · obtain ⟨before, x', after, rfl, hbefore, hx'⟩ := ih.1 h
        exact ⟨x :: before, x', after, rfl, List.forall_mem_cons.2 ⟨⟨y, hy⟩, hbefore⟩, hx'⟩
      · cases h
    · rintro ⟨before, x', after, h, hbefore, hx'⟩
      cases before with
      | nil =>
        cases h
        exact .inl hx'
      | cons _ before =>
        cases h
        obtain ⟨⟨y, hy⟩, hbefore⟩ := List.forall_mem_cons.1 hbefore
        exact .inr ⟨y, hy, except_bind_eq_error.2 (.inl (ih.2 ⟨before, x', after, rfl, hbefore, hx'⟩))⟩

theorem exists_mapM_eq_ok_iff {xs : List α} : (∃ ys, xs.mapM f = .ok ys) ↔ ∀ x ∈ xs, ∃ y, f x = .ok y := by
  constructor
  · rintro ⟨ys, h⟩
    rw [mapM_eq_ok_iff] at h
    induction h with
    | nil => exact List.forall_mem_nil _
    | cons hy _ ih => exact List.forall_mem_cons.2 ⟨⟨_, hy⟩, ih⟩
  · intro h
    cases hxs : xs.mapM f with
    | ok ys => exact ⟨ys, rfl⟩
    | error e =>
      obtain ⟨before, x, after, rfl, -, hx⟩ := mapM_eq_error_iff.1 hxs
      obtain ⟨y, hy⟩ := h x (by simp)
      cases hx.symm.trans hy

end

theorem sameIgnoringCase_keyword (w : Text) (d : Direction) :
    sameIgnoringCase w d.keyword =
      match d with
      | .ascending => sameIgnoringCase w "asc".toList
      | .descending => sameIgnoringCase w "desc".toList := by
  have hcongr (s t : Text) (h : s.map Char.toLower = t.map Char.toLower) :
      sameIgnoringCase w s = sameIgnoringCase w t := by
    rw [sameIgnoringCase, sameIgnoringCase, h]
  cases d with
  | ascending => exact hcongr _ _ (by decide)
  | descending => exact hcongr _ _ (by decide)

/-- A word names the direction whose keyword it is, in any case. -/
theorem Direction.ofWord?_eq_some_iff {w : Text} {d : Direction} :
    ofWord? w = some d ↔ sameIgnoringCase w d.keyword = true := by
  have hdisjoint : sameIgnoringCase w "asc".toList = true → sameIgnoringCase w "desc".toList = false := by
    intro h
    rw [sameIgnoringCase, beq_iff_eq] at h
    rw [sameIgnoringCase, h]
    decide
  rw [sameIgnoringCase_keyword, ofWord?]
  revert hdisjoint
  generalize sameIgnoringCase w "asc".toList = isAsc
  generalize sameIgnoringCase w "desc".toList = isDesc
  cases d <;> cases isAsc <;> cases isDesc <;> decide

namespace SortOrder

/-- The piece names a column, and perhaps a direction after it; without one the order ascends. -/
inductive Names (piece : Text) : SortTerm → Prop
  | column {column : Text} (h : Spaced piece [column]) : Names piece ⟨column, .ascending⟩
  | directed {column word : Text} {direction : Direction} (h : Spaced piece [column, word])
    (hword : sameIgnoringCase word direction.keyword = true) : Names piece ⟨column, direction⟩

/-- What is wrong with a piece. -/
inductive Faults (allowed : List Text) (piece : Text) : SortError → Prop
  | column {t : SortTerm} (h : Names piece t) (hcolumn : t.column ∉ allowed) :
    Faults allowed piece (.columnNotAllowed t.column)
  | term (h : ∀ t, ¬Names piece t) : Faults allowed piece (.invalidTerm (trim piece))

variable {allowed : List Text}

/-! ### Terms -/

theorem term_of_names {piece : Text} {t : SortTerm} (h : Names piece t) :
    term allowed piece = if t.column ∈ allowed then .ok t else .error (.columnNotAllowed t.column) := by
  cases h with
  | column h => simp only [term, h.words_eq, List.contains_iff_mem]
  | directed h hword =>
    simp only [term, h.words_eq, Direction.ofWord?_eq_some_iff.2 hword, List.contains_iff_mem]

theorem term_of_not_names {piece : Text} (h : ∀ t, ¬Names piece t) :
    term allowed piece = .error (.invalidTerm (trim piece)) := by
  unfold term
  split
  · rename_i column hwords
    exact absurd (.column (words_eq_iff.1 hwords)) (h ⟨column, .ascending⟩)
  · rename_i column word hwords
    split
    · rename_i direction hdirection
      exact absurd (.directed (words_eq_iff.1 hwords) (Direction.ofWord?_eq_some_iff.1 hdirection)) (h ⟨column, direction⟩)
    · rfl
  · rfl

theorem term_eq_ok_iff {piece : Text} {t : SortTerm} :
    term allowed piece = .ok t ↔ Names piece t ∧ t.column ∈ allowed := by
  constructor
  · intro h
    by_cases hnames : ∃ t', Names piece t'
    · obtain ⟨t', ht'⟩ := hnames
      rw [term_of_names ht'] at h
      split at h <;> cases h
      exact ⟨ht', ‹_›⟩
    · rw [term_of_not_names (not_exists.1 hnames)] at h
      cases h
  · rintro ⟨hnames, hcolumn⟩
    rw [term_of_names hnames, if_pos hcolumn]

theorem term_eq_error_iff {piece : Text} {e : SortError} : term allowed piece = .error e ↔ Faults allowed piece e := by
  constructor
  · intro h
    by_cases hnames : ∃ t, Names piece t
    · obtain ⟨t, ht⟩ := hnames
      rw [term_of_names ht] at h
      split at h <;> cases h
      exact .column ht ‹_›
    · rw [term_of_not_names (not_exists.1 hnames)] at h
      cases h
      exact .term (not_exists.1 hnames)
  · intro h
    cases h with
    | column hnames hcolumn => rw [term_of_names hnames, if_neg hcolumn]
    | term hnames => exact term_of_not_names hnames

/-! ### Orders -/

theorem parse_blank {sort : Text} {allowed : List Text} (h : (trim sort).isEmpty = true) :
    parse allowed sort = .ok [] := by
  rw [parse, if_pos h]

theorem parse_of_separated {s : Text} (h : trim s ≠ []) {pieces : List Text} (hpieces : Separated ',' s pieces) :
    parse allowed s = pieces.mapM (term allowed) := by
  rw [parse, if_neg (by simpa using h), hpieces.cut_eq]

theorem forall₂_term_iff {pieces : List Text} {order : SortOrder} :
    List.Forall₂ (fun piece t => term allowed piece = .ok t) pieces order ↔
      List.Forall₂ Names pieces order ∧ ∀ t ∈ order, t.column ∈ allowed := by
  induction pieces generalizing order with
  | nil => cases order <;> simp
  | cons piece pieces ih =>
    cases order with
    | nil => simp
    | cons t order =>
      rw [List.forall₂_cons, List.forall₂_cons, ih, term_eq_ok_iff, List.forall_mem_cons]
      exact and_and_and_comm

theorem parse_eq_ok_iff {s : Text} (h : trim s ≠ []) {pieces : List Text} (hpieces : Separated ',' s pieces)
    {order : SortOrder} :
    parse allowed s = .ok order ↔ List.Forall₂ Names pieces order ∧ ∀ t ∈ order, t.column ∈ allowed := by
  rw [parse_of_separated h hpieces, mapM_eq_ok_iff, forall₂_term_iff]

/-- All columns of an order are allowed. -/
theorem column_mem_of_parse {s : Text} {order : SortOrder} (h : parse allowed s = .ok order) :
    ∀ t ∈ order, t.column ∈ allowed := by
  by_cases hblank : trim s = []
  · cases (parse_blank (List.isEmpty_iff.2 hblank)).symm.trans h
    exact List.forall_mem_nil _
  · exact ((parse_eq_ok_iff hblank (separated_cut ',' s)).1 h).2

/-! ### Orders as text -/

/-- The text of an order. -/
def text (order : SortOrder) : Text := join ", ".toList (order.map fun t => t.column ++ ' ' :: t.direction.keyword)

/-- The text can be a column in a sort text. -/
def IsName (column : Text) : Prop := column ≠ [] ∧ ∀ c ∈ column, isBlank c = false ∧ c ≠ ','

theorem Names.isName {piece : Text} {t : SortTerm} (h : Names piece t) (hpiece : ',' ∉ piece) : IsName t.column := by
  have hmem {ws : List Text} (hspaced : Spaced piece ws) (hcolumn : t.column ∈ ws) : IsName t.column := by
    obtain ⟨hne, hchars⟩ := hspaced.mem t.column hcolumn
    exact ⟨hne, fun c hc => ⟨(hchars c hc).1, fun he => hpiece (he ▸ (hchars c hc).2)⟩⟩
  cases h with
  | column hspaced => exact hmem hspaced List.mem_cons_self
  | directed hspaced _ => exact hmem hspaced List.mem_cons_self

theorem isName_of_forall₂ {pieces : List Text} {order : SortOrder} (h : List.Forall₂ Names pieces order)
    (hpieces : ∀ piece ∈ pieces, ',' ∉ piece) : ∀ t ∈ order, IsName t.column := by
  induction h with
  | nil => exact List.forall_mem_nil _
  | cons hnames _ ih =>
    rw [List.forall_mem_cons] at hpieces
    exact List.forall_mem_cons.2 ⟨hnames.isName hpieces.1, ih hpieces.2⟩

theorem names_spelled {t : SortTerm} (h : IsName t.column) {blanks : Text} (hblanks : ∀ c ∈ blanks, isBlank c = true) :
    Names (blanks ++ t.column ++ ' ' :: t.direction.keyword) t := by
  have hne : t.direction.keyword ≠ [] := by cases t.direction <;> decide
  have hkeyword : ∀ c ∈ t.direction.keyword, isBlank c = false :=
    not_isBlank_of_all (by cases t.direction <;> decide)
  have hdirection : Spaced ([' '] ++ t.direction.keyword ++ []) [t.direction.keyword] :=
    .word (List.forall_mem_singleton.2 rfl) hne hkeyword (by simp) (.blank (by simp))
  rw [List.append_nil] at hdirection
  have hspaced : Spaced (blanks ++ t.column ++ ' ' :: t.direction.keyword) [t.column, t.direction.keyword] :=
    .word hblanks h.1 (fun c hc => (h.2 c hc).1) (by rintro c ⟨⟩; rfl) hdirection
  exact .directed hspaced (by cases t.direction <;> decide)

theorem text_cons_cons (t t' : SortTerm) (order : SortOrder) :
    text (t :: t' :: order) = t.column ++ ' ' :: t.direction.keyword ++ ',' :: ' ' :: text (t' :: order) := by
  simp [text, join]

/-- The text of an order is a sort text that names the terms of the order. -/
theorem exists_separated_text {order : SortOrder} (hne : order ≠ []) (h : ∀ t ∈ order, IsName t.column) {blanks : Text}
    (hblanks : ∀ c ∈ blanks, isBlank c = true) :
    ∃ pieces, Separated ',' (blanks ++ order.text) pieces ∧ List.Forall₂ Names pieces order := by
  induction order generalizing blanks with
  | nil => exact absurd rfl hne
  | cons t order ih =>
    rw [List.forall_mem_cons] at h
    have hcomma : ',' ∉ blanks ++ t.column ++ ' ' :: t.direction.keyword := by
      have hkeyword : ',' ∉ ' ' :: t.direction.keyword := by cases t.direction <;> decide
      rw [List.mem_append, List.mem_append, not_or, not_or]
      exact ⟨⟨fun hc => absurd (hblanks _ hc) (by decide), fun hc => (h.1.2 _ hc).2 rfl⟩, hkeyword⟩
    cases order with
    | nil =>
      have htext : text [t] = t.column ++ ' ' :: t.direction.keyword := rfl
      rw [htext, ← List.append_assoc]
      exact ⟨_, .last hcomma, .cons (names_spelled h.1 hblanks) .nil⟩
    | cons t' order =>
      have hblank : ∀ c ∈ [' '], isBlank c = true := List.forall_mem_singleton.2 rfl
      obtain ⟨pieces, hpieces, hnames⟩ := ih (List.cons_ne_nil _ _) h.2 hblank
      rw [text_cons_cons, ← List.append_assoc, ← List.append_assoc]
      exact ⟨_, .cons hcomma hpieces, .cons (names_spelled h.1 hblanks) hnames⟩

theorem trim_text_ne_nil {order : SortOrder} (hne : order ≠ []) (h : ∀ t ∈ order, IsName t.column) :
    trim order.text ≠ [] := by
  obtain ⟨t, order, rfl⟩ := List.exists_cons_of_ne_nil hne
  obtain ⟨c, column, hcolumn⟩ := List.exists_cons_of_ne_nil (h t List.mem_cons_self).1
  have hc : isBlank c = false := ((h t List.mem_cons_self).2 c (by simp [hcolumn])).1
  have hmem : c ∈ text (t :: order) := by
    cases order <;> simp [text, join, hcolumn]
  intro hblank
  rw [trim_eq_nil.1 hblank c hmem] at hc
  cases hc

theorem parse_text {order : SortOrder} (hne : order ≠ []) (h : ∀ t ∈ order, IsName t.column)
    (hallowed : ∀ t ∈ order, t.column ∈ allowed) : parse allowed order.text = .ok order := by
  obtain ⟨pieces, hpieces, hnames⟩ := exists_separated_text hne h (List.forall_mem_nil _)
  exact (parse_eq_ok_iff (trim_text_ne_nil hne h) hpieces).2 ⟨hnames, hallowed⟩

theorem toSql?_eq_some {order : SortOrder} (hne : order ≠ []) : order.toSql? = some order.text := by
  rw [toSql?, if_neg (by simpa using hne)]
  rfl

/-! ### Sort texts -/

section

variable {s : Text} (h : trim s ≠ []) {pieces : List Text} (hpieces : Separated ',' s pieces)

include h hpieces

theorem parse_eq_error_iff {e : SortError} :
    parse allowed s = .error e ↔
      ∃ before piece after, pieces = before ++ piece :: after ∧
        (∀ p ∈ before, ∃ t, Names p t ∧ t.column ∈ allowed) ∧ Faults allowed piece e := by
  rw [parse_of_separated h hpieces, mapM_eq_error_iff]
  simp only [term_eq_ok_iff, term_eq_error_iff]

theorem exists_parse_iff :
    (∃ order, parse allowed s = .ok order) ↔ ∀ piece ∈ pieces, ∃ t, Names piece t ∧ t.column ∈ allowed := by
  rw [parse_of_separated h hpieces, exists_mapM_eq_ok_iff]
  simp only [term_eq_ok_iff]

theorem ne_nil_of_parse {order : SortOrder} (hparse : parse allowed s = .ok order) : order ≠ [] := by
  rintro rfl
  rw [parse_eq_ok_iff h hpieces, List.forall₂_nil_right_iff] at hparse
  rw [hparse.1] at hpieces
  cases hpieces

/-- An order that was read is read back from its text. -/
theorem parse_text_of_parse {order : SortOrder} (hparse : parse allowed s = .ok order) :
    parse allowed order.text = .ok order := by
  obtain ⟨hnames, hallowed⟩ := (parse_eq_ok_iff h hpieces).1 hparse
  exact parse_text (ne_nil_of_parse h hpieces hparse) (isName_of_forall₂ hnames hpieces.not_mem) hallowed

end

/-- A text is read as an order exactly if it is blank or all its pieces name columns that are allowed. The order has one term for every piece, and unless the text is blank it can be written and is read back. If a text is not read, the first faulty piece is reported. -/
theorem parse_pieces (allowed : List Text) (s : Text) :
    ∃ pieces, Separated ',' s pieces ∧
      ((∃ order, parse allowed s = .ok order) ↔
        (∀ c ∈ s, isBlank c = true) ∨ ∀ piece ∈ pieces, ∃ t, Names piece t ∧ t.column ∈ allowed) ∧
      (∀ order, parse allowed s = .ok order →
        (order.toSql? = none ↔ ∀ c ∈ s, isBlank c = true) ∧
          ((¬∀ c ∈ s, isBlank c = true) →
            List.Forall₂ Names pieces order ∧ (∀ t ∈ order, t.column ∈ allowed) ∧
              ∃ text, order.toSql? = some text ∧ parse allowed text = .ok order)) ∧
      ∀ e, parse allowed s = .error e ↔
        (¬∀ c ∈ s, isBlank c = true) ∧
          ∃ before piece after, pieces = before ++ piece :: after ∧
            (∀ p ∈ before, ∃ t, Names p t ∧ t.column ∈ allowed) ∧ Faults allowed piece e := by
  have hpieces := separated_cut ',' s
  refine ⟨_, hpieces, ?_⟩
  by_cases hblank : ∀ c ∈ s, isBlank c = true
  · have hparse : parse allowed s = .ok [] := parse_blank (List.isEmpty_iff.2 (trim_eq_nil.2 hblank))
    refine ⟨⟨fun _ => .inl hblank, fun _ => ⟨[], hparse⟩⟩, ?_, ?_⟩
    · intro order h
      cases hparse.symm.trans h
      exact ⟨⟨fun _ => hblank, fun _ => rfl⟩, absurd hblank⟩
    · intro e
      rw [hparse]
      exact ⟨nofun, fun h => absurd hblank h.1⟩
  · have htrim : trim s ≠ [] := mt trim_eq_nil.1 hblank
    refine ⟨?_, ?_, ?_⟩
    · rw [exists_parse_iff htrim hpieces, or_iff_right hblank]
    · intro order h
      obtain ⟨hnames, hallowed⟩ := (parse_eq_ok_iff htrim hpieces).1 h
      have hsql := toSql?_eq_some (ne_nil_of_parse htrim hpieces h)
      refine ⟨?_, fun _ => ⟨hnames, hallowed, order.text, hsql, parse_text_of_parse htrim hpieces h⟩⟩
      rw [hsql]
      exact ⟨nofun, fun h => absurd h hblank⟩
    · intro e
      rw [parse_eq_error_iff htrim hpieces, and_iff_right hblank]

/-- Columns and directions between blanks of several kinds. An allowed column with a blank in it is refused before the empty pieces after it are. -/
theorem parse_pieces_of_blanks :
    let allowed := ["Name".toList, "Größe".toList, "a b".toList]
    (∃ order, parse allowed "\u2003Name\tdEsC ,Größe\u00a0".toList = .ok order ∧
        order.toSql? = some "Name DESC, Größe ASC".toList ∧ parse allowed "Name DESC, Größe ASC".toList = .ok order) ∧
      ∃ pieces before piece after, Separated ',' "Name, a b,,".toList pieces ∧ pieces = before ++ piece :: after ∧
        Faults allowed piece (.invalidTerm "a b".toList) := by
  intro allowed
  constructor
  · obtain ⟨pieces, -, -, hok, -⟩ := parse_pieces allowed "\u2003Name\tdEsC ,Größe\u00a0".toList
    let order : SortOrder := [⟨"Name".toList, .descending⟩, ⟨"Größe".toList, .ascending⟩]
    have hparse : parse allowed "\u2003Name\tdEsC ,Größe\u00a0".toList = .ok order := by decide +kernel
    have hnamed : ¬ ∀ c ∈ "\u2003Name\tdEsC ,Größe\u00a0".toList, isBlank c = true :=
      fun hall => absurd (hall 'N' (by decide)) (by decide)
    obtain ⟨-, -, text, hsql, hback⟩ := (hok order hparse).2 hnamed
    obtain rfl : "Name DESC, Größe ASC".toList = text := Option.some.inj hsql
    exact ⟨order, hparse, hsql, hback⟩
  · obtain ⟨pieces, hpieces, -, -, herror⟩ := parse_pieces allowed "Name, a b,,".toList
    obtain ⟨-, before, piece, after, hsplit, -, hfault⟩ := (herror (.invalidTerm "a b".toList)).1 (by decide +kernel)
    exact ⟨pieces, before, piece, after, hpieces, hsplit, hfault⟩

end SortOrder

end Roster
