import Roster.Proofs.Filter.Layout
import Roster.Proofs.Filter.Word
import Roster.Proofs.Sql.Marks

/-!
# The placeholders of a condition

Every parameter of a compiled filter has its placeholder in the condition once, and the condition has no others (`marks_compile`). A mark can only come from a placeholder, because columns are words and words have no `@` in them, and no digit follows a placeholder, because a separator does.
-/

namespace Roster.Filter

open Text Sql

/-! ### Pieces -/

theorem Keyword.mem_all (k : Keyword) : k ∈ Keyword.all := by
  cases k with
  | connective k => cases k <;> decide
  | _ => decide

/-- The mark occurs in no piece but in placeholders. -/
def FreeOf (mark : Char) (ps : List Piece) : Prop := ∀ p ∈ ps, p.index? = none → mark ∉ p.text placeholder

namespace Piece

theorem index?_eq_some {p : Piece} {n : Nat} : p.index? = some n ↔ p = placeholder n := by
  cases p <;> simp [index?]

theorem text_of_index? {p : Piece} (h : p.index? = none) (name name' : Nat → Text) : p.text name = p.text name' := by
  cases p with
  | placeholder n => cases h
  | _ => rfl

end Piece

theorem isDigit_of_isSeparator {c : Char} (h : Sql.isSeparator c = true) : Text.isDigit c = false := by
  have hcases : c = ' ' ∨ c = '(' ∨ c = ')' ∨ c = ',' := by simpa [Sql.isSeparator] using h
  rcases hcases with rfl | rfl | rfl | rfl <;> decide

theorem FreeOf.of_cons {mark : Char} {p : Piece} {ps : List Piece} (h : FreeOf mark (p :: ps)) : FreeOf mark ps :=
  fun q hq => h q (List.mem_cons_of_mem p hq)

variable {mark : Char} {name : Nat → Text} {ps : List Piece} {t : Text}

/-- No digit follows a placeholder. -/
theorem isDigit_after_placeholder {n : Nat} (hfits : (.placeholder n :: ps).IsChain Piece.Fits)
    (ht : ∀ d ∈ t.head?, Text.isDigit d = false) :
    ∀ d ∈ (ps.flatMap (Piece.text name) ++ t).head?, Text.isDigit d = false := by
  cases ps with
  | nil => exact ht
  | cons p ps =>
    have hseparator : p.isSeparator = true := (List.isChain_cons_cons.1 hfits).1.1.resolve_left nofun
    obtain ⟨c, hc, hsep⟩ := Piece.isSeparator_of_text hseparator name
    intro d hd
    rw [List.flatMap_cons, hc] at hd
    obtain rfl : c = d := by simpa using hd
    exact isDigit_of_isSeparator hsep

/-- The marks of pieces are those of their placeholders. -/
theorem marks_flatMap_text (hname : ∀ n, IsMarked mark (name n)) (hfits : ps.IsChain Piece.Fits)
    (hfree : FreeOf mark ps) {names : List Text} (ht : Marks mark names t)
    (hdigit : ∀ d ∈ t.head?, Text.isDigit d = false) :
    Marks mark ((ps.filterMap Piece.index?).map name ++ names) (ps.flatMap (Piece.text name) ++ t) := by
  -- What follows the pieces is part of the statement: a placeholder at their end must not run into a digit there.
  induction ps with
  | nil => exact ht
  | cons p ps ih =>
    have hrest := ih hfits.of_cons hfree.of_cons
    rw [List.flatMap_cons, List.append_assoc]
    cases hp : p.index? with
    | none =>
      have hmark := hfree p (by simp) hp
      rw [Piece.text_of_index? hp placeholder name] at hmark
      rw [List.filterMap_cons_none hp]
      exact .text_append hmark hrest
    | some n =>
      obtain rfl := Piece.index?_eq_some.1 hp
      rw [List.filterMap_cons_some hp, List.map_cons, List.cons_append]
      exact .name_append (hname n) (isDigit_after_placeholder hfits hdigit) hrest

/-- A mark that is in no fixed text can only come from a column or the collation. -/
theorem FreeOf.of_names (hfixed : ∀ p ∈ Piece.fixed, mark ∉ p.text placeholder)
    (hcolumn : ∀ s, Piece.column s ∈ ps → mark ∉ s) (hcollation : ∀ s, Piece.collation s ∈ ps → mark ∉ s) :
    FreeOf mark ps := by
  intro p hp hindex
  cases p with
  | placeholder k => cases hindex
  | collation s => exact hcollation s hp
  | column s => exact hcolumn s hp
  | relation r => exact hfixed _ (by cases r <;> decide)
  | keyword k => exact hfixed _ (by simp [Piece.fixed, k.mem_all])
  | _ => exact hfixed _ (by decide)

theorem Chain.freeOf_pieces (hfixed : ∀ p ∈ Piece.fixed, mark ∉ p.text placeholder) {collation : Text}
    (hcollation : mark ∉ collation) {e : Chain} (hcolumns : ∀ c ∈ e.comparisons, mark ∉ c.column) (n : Nat) :
    FreeOf mark (e.pieces collation n) := by
  refine .of_names hfixed ?_ ?_
  · intro s hs
    obtain ⟨c, hc, rfl⟩ := Chain.column_of_mem_pieces hs
    exact hcolumns c hc
  · intro s hs
    rw [Chain.collation_of_mem_pieces hs]
    exact hcollation

/-- What is written for a chain has the placeholders of its literals, whatever follows it. -/
theorem Chain.marks_render (hfixed : ∀ p ∈ Piece.fixed, mark ∉ p.text placeholder)
    (hname : ∀ n, IsMarked mark (name n)) {collation : Text} (hcollation : mark ∉ collation) {e : Chain}
    (hcolumns : ∀ c ∈ e.comparisons, mark ∉ c.column) (n : Nat) {names : List Text} (ht : Marks mark names t)
    (hdigit : ∀ d ∈ t.head?, Text.isDigit d = false) :
    Marks mark ((List.range' n (boundLiterals e.comparisons).length).map name ++ names)
      (e.render name collation n ++ t) := by
  have hmarks := marks_flatMap_text hname (e.tidy_pieces collation n).fits
    (Chain.freeOf_pieces hfixed hcollation hcolumns n) ht hdigit
  rw [e.filterMap_index?_pieces, e.flatMap_text_pieces] at hmarks
  exact hmarks

/-! ### Compiled filters -/

theorem isMarked_placeholder (n : Nat) : IsMarked '@' (placeholder n) := by
  refine ⟨'p' :: ofNat n, rfl, ?_⟩
  intro hmem
  rcases List.mem_cons.1 hmem with he | hmem
  · cases he
  · exact absurd (isDigit_of_mem_ofNat hmem) (by decide)

theorem not_mem_of_isCollation {collation : Text} (h : Settings.isCollation collation = true) : '@' ∉ collation := by
  intro hmem
  simp only [Settings.isCollation, Bool.and_eq_true, List.all_eq_true] at h
  exact absurd (h.2 _ hmem) (by decide)

/-- The parameters are named in their order, and the condition has their names, each once and in the same order, and no other `@`. The collation must have none, as those of the settings do (`not_mem_of_isCollation`). -/
theorem marks_compile {options : Options} {input : Text} {c : Compiled} (h : compile options input = .ok c)
    (hcollation : '@' ∉ options.collation) :
    c.parameters.map Parameter.name = (List.range c.parameters.length).map placeholder ∧
      c.sql.count '@' = c.parameters.length ∧ Marks '@' (c.parameters.map Parameter.name) c.sql := by
  have hmarks : c.parameters.map Parameter.name = (List.range c.parameters.length).map placeholder ∧
      Marks '@' (c.parameters.map Parameter.name) c.sql := by
    obtain ⟨-, source, hsource, rfl⟩ := compile_eq_ok_iff.1 h
    cases source with
    | none =>
      have hmatchAll : '@' ∉ matchAll := by decide
      exact ⟨rfl, .text hmatchAll⟩
    | some e =>
      have hnames := names_parametersFrom 0 (boundLiterals e.comparisons)
      have hrender := Chain.marks_render (by decide) isMarked_placeholder hcollation hsource.not_mem_column 0
        (t := []) .nil (by simp)
      rw [List.append_nil, List.append_nil, ← hnames] at hrender
      refine ⟨?_, hrender⟩
      rw [compiledSource, Chain.length_parameters, List.range_eq_range']
      exact hnames
  refine ⟨hmarks.1, ?_, hmarks.2⟩
  rw [hmarks.2.count_eq, List.length_map]

/-- Two-digit indices, and columns and values that look like placeholders. -/
theorem marks_compile_two_digits :
    let input := "a?1;:p0 ^^ [1, 2, 3, 4, 5, 6, 7, 8, 9, '@p1'] || (é == '@p0' && x1: !_= x)".toList
    let sql := ("a?1;:p0 IN (@p0, @p1, @p2, @p3, @p4, @p5, @p6, @p7, @p8, @p9) OR " ++
      "(é = @p10 AND x1: NOT LIKE @p11 COLLATE NOCASE)").toList
    ∃ c, compile ⟨"NOCASE".toList, 4096⟩ input = .ok c ∧ c.sql = sql ∧
      c.parameters.map Parameter.name = (List.range 12).map placeholder ∧ sql.count '@' = 12 ∧
      Marks '@' ((List.range 12).map placeholder) sql := by
  intro input sql
  let values : List Literal :=
    [.int 1, .int 2, .int 3, .int 4, .int 5, .int 6, .int 7, .int 8, .int 9, .str "@p1".toList, .str "@p0".toList,
      .str "x%".toList]
  let c : Compiled := ⟨sql, parametersFrom 0 values, ["a?1;:p0".toList, "é".toList, "x1:".toList]⟩
  have h : compile ⟨"NOCASE".toList, 4096⟩ input = .ok c := by decide +kernel
  obtain ⟨hnames, hcount, hmarks⟩ := marks_compile h (by decide)
  rw [hnames] at hmarks
  exact ⟨c, h, rfl, hnames, hcount, hmarks⟩

end Roster.Filter
