import Roster.Proofs.Users.Selection

/-!
# The arguments of a query

The compiler names its placeholders from `@p0`, a query has them numbered from `?1`, and the values are bound by their positions. The numberings agree: the condition is renumbered as if its placeholders had been numbered from the start, and every argument of a query stands in its text once, in the order of the values (`Query.binds_compile`).
-/

namespace Roster

open Text Sql Roster.Filter

/-! ### Texts with gaps -/

/-- A text with gaps for placeholders. -/
abbrev Template := List (Text ⊕ Nat)

namespace Template

/-- The text, when placeholders are named by `name`. -/
def fill (name : Nat → Text) (template : Template) : Text := template.flatMap (Sum.elim id name)

/-- The indices of the placeholders, in their order. -/
def indices (template : Template) : List Nat := template.filterMap Sum.getRight?

end Template

namespace Filter

def Piece.part (p : Piece) : Text ⊕ Nat :=
  match p.index? with
  | some n => .inr n
  | none => .inl (p.text Filter.placeholder)

theorem Piece.elim_part (name : Nat → Text) (p : Piece) : Sum.elim id name p.part = p.text name := by
  cases p <;> rfl

theorem fill_map_part (name : Nat → Text) (ps : List Piece) :
    Template.fill name (ps.map Piece.part) = ps.flatMap (Piece.text name) := by
  rw [Template.fill, List.flatMap_map]
  exact List.flatMap_congr fun p _ => p.elim_part name

theorem indices_map_part (ps : List Piece) : Template.indices (ps.map Piece.part) = ps.filterMap Piece.index? := by
  rw [Template.indices, List.filterMap_map]
  apply List.filterMap_congr
  intro p _
  cases p <;> rfl

theorem FreeOf.not_mem_of_inl {mark : Char} {ps : List Piece} (h : FreeOf mark ps) :
    ∀ s, Sum.inl s ∈ ps.map Piece.part → mark ∉ s := by
  intro s hs
  obtain ⟨p, hp, he⟩ := List.mem_map.1 hs
  unfold Piece.part at he
  split at he
  · cases he
  · rename_i hindex
    cases he
    exact h p hp hindex

end Filter

/-! ### Queries -/

namespace Query

/-- The values are bound to the arguments `?1`, `?2`, … in their order, and each argument stands in the text once, in the same order, and no other `?`. -/
structure Binds (q : Query) (values : List Value) : Prop where
  marks : Marks '?' ((List.range' 1 values.length).map argument) q.text
  arguments_eq : q.arguments = values

end Query

/-! ### Conditions -/

theorem map_numberedPlaceholder (n : Nat) :
    (List.range' 0 n).map numberedPlaceholder = (List.range' 1 n).map argument := by
  apply List.ext_getElem
  · simp
  · intro k _ _
    simp [numberedPlaceholder, Nat.add_comm]

section

variable {collation : Text} (hcollation : '@' ∉ collation) {input : Text} (hsize : byteSize input < UInt64.size)

include hcollation hsize

theorem numbered_render {e : Chain} (hsource : Spells input (some e)) :
    numbered (e.render placeholder collation 0) = e.render numberedPlaceholder collation 0 := by
  have hlength := length_parameters_le hsource collation
  rw [compiledSource, Chain.length_parameters] at hlength
  exact (e.renumbers_render hcollation hsource.not_mem_column (by omega)).eq

variable {source : Option Chain} (hsource : Spells input source)

include hsource

/-- The condition is renumbered as its placeholders are, and nothing else in it is changed. -/
theorem exists_template :
    ∃ template : Template, (∀ s, .inl s ∈ template → '@' ∉ s) ∧
      template.indices = List.range (compiledSource collation source).parameters.length ∧
      (compiledSource collation source).sql = template.fill placeholder ∧
      numbered (compiledSource collation source).sql = template.fill fun k => argument (k + 1) := by
  cases source with
  | none =>
    have hmatchAll : '@' ∉ matchAll := by decide
    refine ⟨[.inl matchAll], by simpa using hmatchAll, rfl, ?_, ?_⟩
    · simp [Template.fill, compiledSource, Compiled.all]
    · simpa [Template.fill, compiledSource, Compiled.all] using numbered_matchAll
  | some e =>
    have hfree := Chain.freeOf_pieces (by decide) hcollation hsource.not_mem_column 0
    refine ⟨(e.pieces collation 0).map Piece.part, hfree.not_mem_of_inl, ?_, ?_, ?_⟩
    · rw [indices_map_part, e.filterMap_index?_pieces, compiledSource, Chain.length_parameters, List.range_eq_range']
    · rw [fill_map_part, e.flatMap_text_pieces]
      rfl
    · show numbered (e.render placeholder collation 0) = _
      rw [numbered_render hcollation hsize hsource, fill_map_part, ← e.flatMap_text_pieces]
      rfl

/-- The arguments of a numbered condition, whatever follows it. -/
theorem marks_numbered (hmark : '?' ∉ collation)
    (hcolumns : ∀ column ∈ (compiledSource collation source).columns, column ∈ filterable) {names : List Text}
    {t : Text} (ht : Marks '?' names t) (hdigit : ∀ d ∈ t.head?, Text.isDigit d = false) :
    Marks '?' ((List.range' 1 (compiledSource collation source).parameters.length).map argument ++ names)
      (numbered (compiledSource collation source).sql ++ t) := by
  cases source with
  | none =>
    have hmatchAll : '?' ∉ matchAll := by decide
    show Marks '?' ([] ++ names) (numbered matchAll ++ t)
    rw [numbered_matchAll]
    exact .text_append hmatchAll ht
  | some e =>
    have hnames : ∀ c ∈ e.comparisons, '?' ∉ c.column := by
      have hall : ∀ s ∈ filterable, '?' ∉ s := by decide
      intro c hc
      exact hall _ (Chain.forall_columns.1 hcolumns c hc)
    have hmarked (k : Nat) : IsMarked '?' (numberedPlaceholder k) := isMarked_argument (k + 1)
    have hmarks := Chain.marks_render (by decide) hmarked hmark hnames 0 ht hdigit
    rw [map_numberedPlaceholder, ← numbered_render hcollation hsize hsource] at hmarks
    rw [compiledSource, Chain.length_parameters]
    exact hmarks

end

/-- The last two arguments stand after the condition of a selection. -/
theorem marks_page {order : Text} (horder : '?' ∉ order) (n : Nat) :
    Marks '?' [argument (n + 1), argument (n + 2)]
      (" ORDER BY ".toList ++ (order ++
        (" LIMIT ".toList ++ (argument (n + 1) ++ (" OFFSET ".toList ++ argument (n + 2)))))) := by
  have hkeyword : ∀ s ∈ [" ORDER BY ".toList, " LIMIT ".toList, " OFFSET ".toList], '?' ∉ s := by decide
  have hoffset : Marks '?' [argument (n + 2)] (argument (n + 2)) := by
    simpa using Marks.name_append (isMarked_argument (n + 2)) (t := []) (by simp) .nil
  have hlimit : Marks '?' [argument (n + 1), argument (n + 2)]
      (argument (n + 1) ++ (" OFFSET ".toList ++ argument (n + 2))) := by
    refine .name_append (isMarked_argument (n + 1)) ?_ (.text_append (hkeyword _ (by simp)) hoffset)
    have hblank : Text.isDigit ' ' = false := by decide
    simpa using hblank
  exact .text_append (hkeyword _ (by simp)) (.text_append horder (.text_append (hkeyword _ (by simp)) hlimit))

namespace Query

/-- The condition of a query is the compiled one with its placeholders renumbered, and the values of the parameters are bound in their order, before the limit and the offset. The offset is bound as the greatest number that can be if it is greater. The collation must have no `@`, and for the second part no `?` either, as those of the settings have none; the length of the filter in bytes fits into 64 bits. -/
theorem binds_compile {options : Options} {input : Text} {c : Compiled} (h : compile options input = .ok c)
    (hsize : byteSize input < UInt64.size) (hcollation : '@' ∉ options.collation) :
    (∃ template : Template, (∀ s, .inl s ∈ template → '@' ∉ s) ∧
        template.indices = List.range c.parameters.length ∧ c.sql = template.fill placeholder ∧
        numbered c.sql = template.fill fun k => argument (k + 1)) ∧
      (c.checkColumns filterable = .ok () → '?' ∉ options.collation →
        (count c).Binds (c.parameters.map (·.value.bound)) ∧
        ∀ (sort : Text) (order : SortOrder) (limit : UInt32) (offset : UInt64),
          SortOrder.parse SortOrder.sortable sort = .ok order →
          (rows c order limit offset).Binds
            (c.parameters.map (·.value.bound) ++
              [.integer limit.toNat, .integer (min offset.toNat maxOffset : Nat)])) := by
  obtain ⟨-, source, hsource, rfl⟩ := compile_eq_ok_iff.1 h
  refine ⟨exists_template hcollation hsize hsource, ?_⟩
  intro hcolumns hmark
  rw [Compiled.checkColumns_eq_ok] at hcolumns
  refine ⟨⟨?_, rfl⟩, ?_⟩
  · have hhead : '?' ∉ countHead := by decide
    have hcondition := marks_numbered hcollation hsize hsource hmark hcolumns (t := []) .nil (by simp)
    rw [List.append_nil, List.append_nil] at hcondition
    rw [List.length_map]
    exact .text_append hhead hcondition
  · intro sort order limit offset horder
    refine ⟨?_, rfl⟩
    have hhead : '?' ∉ rowsHead := by decide
    have hblank : Text.isDigit ' ' = false := by decide
    have hcolumn : ∀ s ∈ SortOrder.sortable, '?' ∉ s := by decide
    have hsortable := (SortOrder.sortable_of_parse horder).effective
    have hpage := marks_page (SortOrder.not_mem_text (fun t ht => hcolumn _ (hsortable t ht)) (by decide))
      (compiledSource options.collation source).parameters.length
    have hcondition := marks_numbered hcollation hsize hsource hmark hcolumns hpage (by simpa using hblank)
    have hnames (n : Nat) : (List.range' 1 (n + 2)).map argument =
        (List.range' 1 n).map argument ++ [argument (n + 1), argument (n + 2)] := by
      rw [← List.range'_append_1, List.map_append, Nat.add_comm 1 n]
      rfl
    rw [List.length_append, List.length_map, List.length_cons, List.length_singleton, hnames]
    have htext := Marks.text_append hhead hcondition
    simp only [rows, SortOrder.toSql?_getD, List.append_assoc]
    exact htext

/-- A list between other values, an offset that is too great, and an order. -/
theorem binds_compile_in_list :
    let input := "Active == 1 && (Username ^^ [bob, 'e@p0'] || Email @= '?1')".toList
    let text := ("SELECT Id, Username, Email, PasswordHash, LastLoginAt, Active FROM Users WHERE " ++
      "Active = ?1 AND (Username IN (?2, ?3) OR Email LIKE ?4 COLLATE NOCASE) " ++
      "ORDER BY LastLoginAt DESC, Username ASC LIMIT ?5 OFFSET ?6").toList
    let values : List Value :=
      [.integer 1, .text "bob".toList, .text "e@p0".toList, .text "%?1%".toList, .integer 10,
        .integer 9223372036854775807]
    ∃ c order, compile ⟨"NOCASE".toList, 4096⟩ input = .ok c ∧
      SortOrder.parse SortOrder.sortable "LastLoginAt desc, Username".toList = .ok order ∧
      (rows c order 10 9223372036854775808).text = text ∧ (rows c order 10 9223372036854775808).Binds values := by
  intro input text values
  let c : Compiled :=
    ⟨"Active = @p0 AND (Username IN (@p1, @p2) OR Email LIKE @p3 COLLATE NOCASE)".toList,
      parametersFrom 0 [.int 1, .raw "bob".toList, .str "e@p0".toList, .str "%?1%".toList],
      ["Active".toList, "Username".toList, "Email".toList]⟩
  let order : SortOrder := [⟨"LastLoginAt".toList, .descending⟩, ⟨"Username".toList, .ascending⟩]
  have h : compile ⟨"NOCASE".toList, 4096⟩ input = .ok c := by decide +kernel
  have horder : SortOrder.parse SortOrder.sortable "LastLoginAt desc, Username".toList = .ok order := by decide +kernel
  have htext : (rows c order 10 9223372036854775808).text = text := by decide +kernel
  have hbinds := (binds_compile h (by decide +kernel) (by decide)).2 (by decide) (by decide)
  exact ⟨c, order, h, horder, htext, hbinds.2 _ order 10 9223372036854775808 horder⟩

/-- A collation that brings a placeholder of its own into the condition, and an offset that is not bound as it is. -/
theorem binds_compile_refuted :
    ∃ (collation input : Text) (c : Compiled), compile ⟨collation, 4096⟩ input = .ok c ∧ '@' ∉ collation ∧
      c.checkColumns filterable = .ok () ∧ c.parameters.length = 1 ∧
      (count c).text = "SELECT COUNT(*) FROM Users WHERE Email LIKE ?1 COLLATE NOCASE OR ?1 = ?1".toList ∧
      ¬Marks '?' ((List.range' 1 c.parameters.length).map argument) (count c).text ∧
      (∀ (order : SortOrder) (limit : UInt32),
        (rows c order limit 9223372036854775808).arguments[c.parameters.length + 1]? ≠
          some (.integer (9223372036854775808 : UInt64).toNat)) := by
  let c : Compiled :=
    ⟨"Email LIKE @p0 COLLATE NOCASE OR ?1 = ?1".toList, parametersFrom 0 [.str "%x%".toList], ["Email".toList]⟩
  refine ⟨"NOCASE OR ?1 = ?1".toList, "Email @= x".toList, c, by decide +kernel, by decide, by decide, rfl,
    by decide +kernel, ?_, ?_⟩
  · intro hmarks
    have hcount : (count c).text.count '?' = 3 := by decide +kernel
    rw [hmarks.count_eq] at hcount
    exact absurd hcount (by decide)
  · intro order limit
    have hoffset : some (Value.integer (min (9223372036854775808 : UInt64).toNat maxOffset : Nat)) ≠
        some (.integer (9223372036854775808 : UInt64).toNat) := by decide +kernel
    exact hoffset

end Query

end Roster
