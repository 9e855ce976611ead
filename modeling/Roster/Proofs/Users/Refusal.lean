import Roster.Proofs.Filter.Span
import Roster.Proofs.Users.Truth

/-!
# Refused requests

With the default options a request for users is answered, or it is refused for what it says; the database never fails (`Database.list_answers_or_refuses`). All columns have been checked before it is asked, so what remains is the depth of the condition, which the number of comparisons bounds. Each of them takes up six bytes of the filter with the connective next to it: two for the column, one for the operator, one for the value, and two for the connective. So 4096 bytes hold too few comparisons for the database to object.
-/

namespace Roster

open Text Sql

namespace Filter

/-! ### The depth of a condition -/

mutual

/-- Every comparison but the first adds at most one level. -/
theorem Chain.height_predicate_le (name : Nat → Text) (e : Chain) (n : Nat) :
    (e.predicate name n).height ≤ e.comparisons.length + 3 := by
  match e with
  | .single x => exact x.height_predicate_le name n
  | .join left connective right =>
    have hleft := left.height_predicate_le name n
    have hright := right.height_predicate_le name (n + (boundLiterals left.comparisons).length)
    have hleftPos := List.length_pos_iff.2 left.comparisons_ne_nil
    have hrightPos := List.length_pos_iff.2 right.comparisons_ne_nil
    simp only [Chain.predicate, Predicate.height, Chain.comparisons, List.length_append]
    omega

theorem Operand.height_predicate_le (name : Nat → Text) (x : Operand) (n : Nat) :
    (x.predicate name n).height ≤ x.comparisons.length + 3 := by
  match x with
  | .test c => exact (c.test name n).height_le
  | .group inner => exact inner.height_predicate_le name n

end

/-! ### The number of comparisons -/

theorem Comparison.four_le_extents {c : Comparison} (hcolumn : c.column ∈ filterable) (hvalue : 0 < c.value.extent) :
    4 ≤ extents c.tokens := by
  -- The shortest column is `Id`, and no operator is shorter than `<`.
  have hall : ∀ s ∈ filterable, 2 ≤ byteSize s := by decide
  have hbytes := hall _ hcolumn
  have hsymbol := c.operator.byteSize_symbol_pos
  rw [c.extents_tokens]
  omega

theorem byteSize_connective (k : Connective) : byteSize k.symbol = 2 := by
  cases k <;> rfl

mutual

theorem Chain.length_comparisons_le (e : Chain) (h : ∀ c ∈ e.comparisons, 4 ≤ extents c.tokens) :
    6 * e.comparisons.length ≤ extents e.tokens + 2 := by
  match e with
  | .single x => exact x.length_comparisons_le h
  | .join left connective right =>
    rw [Chain.forall_comparisons_join] at h
    have hleft := left.length_comparisons_le h.1
    have hright := right.length_comparisons_le h.2
    rw [Chain.comparisons, List.length_append, Chain.extents_join, byteSize_connective]
    omega

theorem Operand.length_comparisons_le (x : Operand) (h : ∀ c ∈ x.comparisons, 4 ≤ extents c.tokens) :
    6 * x.comparisons.length ≤ extents x.tokens + 2 := by
  match x with
  | .test c =>
    have hc := Operand.forall_comparisons_test.1 h
    show 6 * 1 ≤ extents c.tokens + 2
    omega
  | .group inner =>
    have hinner := inner.length_comparisons_le h
    rw [Operand.comparisons, Operand.extents_group]
    omega

end

theorem Spells.length_comparisons_le {input : Text} {e : Chain} (h : Spells input (some e))
    (hcolumns : ∀ c ∈ e.comparisons, c.column ∈ filterable) : 6 * e.comparisons.length ≤ byteSize input + 2 := by
  cases h with
  | @chain _ tokens hscan htokens =>
    have hextents : extents e.tokens ≤ byteSize input := by
      rw [htokens]
      exact extents_of_scanFrom hscan
    have hvalue : ∀ c ∈ e.comparisons, 0 < c.value.extent := by
      intro c hc
      have hmem : c.value ∈ e.tokens := e.tokens_subset c hc (by simp [Comparison.tokens])
      rw [htokens] at hmem
      obtain ⟨t, ht, htoken⟩ := List.mem_map.1 hmem
      rw [← htoken]
      exact extent_pos_of_scan hscan t ht
    have hcount := e.length_comparisons_le fun c hc => Comparison.four_le_extents (hcolumns c hc) (hvalue c hc)
    omega

/-- The depth of the condition is a sixth of the bytes of the filter, or little more. -/
theorem Spells.height_le {input : Text} {source : Option Chain} (h : Spells input source) {collation : Text}
    (hcolumns : ∀ column ∈ (compiledSource collation source).columns, column ∈ filterable) :
    6 * (sourcePredicate source).height ≤ byteSize input + 20 := by
  cases source with
  | none =>
    show 6 * 2 ≤ byteSize input + 20
    omega
  | some e =>
    have hheight := e.height_predicate_le numberedPlaceholder 0
    have hcount := h.length_comparisons_le (Chain.forall_columns.1 hcolumns)
    show 6 * (e.predicate numberedPlaceholder 0).height ≤ byteSize input + 20
    omega

end Filter

/-! ### Requests -/

open Roster.Filter

theorem ListRequest.prepare_eq_error {options : Options} {r : ListRequest} {e : ServiceError}
    (h : r.prepare options = .error e) : ∃ code message, e = .badRequest code message := by
  unfold prepare at h
  rcases except_bind_eq_error.1 h with hpage | ⟨_, -, h⟩
  · unfold ServiceError.checkPage at hpage
    split at hpage <;> cases hpage
    exact ⟨_, _, rfl⟩
  rcases except_bind_eq_error.1 h with hfilter | ⟨filter, -, h⟩
  · obtain ⟨fault, -, rfl⟩ := except_mapError_eq_error.1 hfilter
    exact ⟨_, _, rfl⟩
  rcases except_bind_eq_error.1 h with hcolumns | ⟨_, -, h⟩
  · obtain ⟨fault, -, rfl⟩ := except_mapError_eq_error.1 hcolumns
    exact ⟨_, _, rfl⟩
  rcases except_bind_eq_error.1 h with hsort | ⟨order, -, h⟩
  · obtain ⟨fault, -, rfl⟩ := except_mapError_eq_error.1 hsort
    exact ⟨_, _, rfl⟩
  cases h

namespace Database

/-- The database answers for every filter that cannot be long enough to be too deep. Then it has not too many parameters either. -/
theorem exists_list {options : Options} (hcollation : Settings.isCollation options.collation = true)
    (hname : isIdentifier options.collation = true)
    (hdepth : options.maxLength + 20 ≤ 6 * maxDepth) {r : ListRequest} {filter : Compiled} {order : SortOrder}
    (h : r.prepare options = .ok (filter, order)) (db : Database) : ∃ listing, db.list options r = .ok listing := by
  obtain ⟨hfilter, hcolumns, hsort⟩ := ListRequest.prepare_eq_ok h
  obtain ⟨hlength, source, hsource, rfl⟩ := compile_eq_ok_iff.1 hfilter
  rw [Compiled.checkColumns_eq_ok] at hcolumns
  have hheight := hsource.height_le hcolumns
  have haccepts := accepts_sourcePredicate hcolumns (by omega)
  have hparameters : (compiledSource options.collation source).parameters.length + 2 ≤ maxArguments := by
    have hmax : 6 * maxDepth ≤ maxArguments := by decide
    have hbytes := length_parameters_le hsource options.collation
    omega
  have hsize : (compiledSource options.collation source).parameters.length ≤ UInt64.size := by
    have hmax : maxArguments ≤ UInt64.size := by decide
    omega
  have horder := (SortOrder.sortable_of_parse hsort).exists
  have hparses := parses_numbered hcollation hcolumns hsize
  have hnames := namesCollations_numbered hcollation hcolumns hsize fun _ _ _ _ _ => hname
  rw [list_of_prepare h, count_eq (read_count hparses hnames) (check_count haccepts (by omega)),
    select_eq (read_rows hparses hnames horder _ _) (check_rows haccepts hparameters horder)]
  exact ⟨_, rfl⟩

/-- With the default options, whatever the users and the request are, the request is answered with a listing or it is refused as a bad request before the database is asked. So there is no internal error. -/
theorem list_answers_or_refuses (db : Database) (r : ListRequest) :
    (∃ query listing, r.prepare Settings.defaultOptions = .ok query ∧
        db.list Settings.defaultOptions r = .ok listing) ∨
      ∃ code message, r.prepare Settings.defaultOptions = .error (.badRequest code message) ∧
        db.list Settings.defaultOptions r = .error (.badRequest code message) := by
  cases h : r.prepare Settings.defaultOptions with
  | ok query =>
    obtain ⟨listing, hlist⟩ := exists_list (by decide) (by decide) (by decide) h db
    exact .inl ⟨query, listing, rfl, hlist⟩
  | error e =>
    obtain ⟨code, message, rfl⟩ := ListRequest.prepare_eq_error h
    refine .inr ⟨code, message, rfl, ?_⟩
    rw [list, h]
    rfl

end Database

end Roster
