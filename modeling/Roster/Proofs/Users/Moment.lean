import Roster.Proofs.Timestamp
import Roster.Proofs.Users.Truth

/-!
# Comparing moments

The last login is stored as the text of a moment with all its digits, and filters compare it as a text with the timestamp that they name. The timestamp is bound as it is written. So the comparison is that of the instants if all digits of the timestamp are written, or if its year is below 0, and in no other case (`comparesChronologically_iff`).
-/

namespace Roster

open Text Sql

theorem Relation.holds_inj {o o' : Ordering} (h : ∀ r : Relation, r.holds o = true ↔ r.holds o' = true) : o = o' := by
  have hlt := h .lt
  have hgt := h .gt
  cases o <;> cases o' <;> simp_all [Relation.holds]

namespace Filter

/-- Whatever the last login is compared with the text by, the filter is true exactly if the moment that is stored is in that relation to the instant. -/
def ComparesChronologically (options : Options) (s : Text) (instant : Int) : Prop :=
  ∀ (op : TestOperator) (r : Relation), op.rule = .relation r →
    ∃ c truth, compile options (join [' '] ["LastLoginAt".toList, op.symbol, s]) = .ok c ∧ c.HasTruth truth ∧
      ∀ (u : User) (m : Timestamp), m.IsPlain → u.lastLoginAt = some m.text →
        (truth u = .true ↔ r.holds (compare m.instant instant) = true)

theorem exists_operator_of_relation (r : Relation) : ∃ op : TestOperator, op.rule = .relation r := by
  have hall : ∀ r : Relation, ∃ op ∈ Operator.all, op.rule = .relation r := by
    intro r
    cases r <;> decide
  obtain ⟨op, hop, hrule⟩ := hall r
  exact ⟨⟨op, hop, by rw [hrule]; rfl⟩, hrule⟩

theorem byteSize_symbol_le {op : TestOperator} {r : Relation} (hrule : op.rule = .relation r) :
    byteSize op.symbol ≤ 2 := by
  have hall : ∀ op ∈ Operator.all, op.rule ∈ [.eq, .ne, .ge, .le, .gt, .lt].map Rule.relation →
      byteSize op.symbol ≤ 2 := by
    decide
  refine hall _ op.mem_all ?_
  rw [hrule]
  cases r <;> decide

/-- A text that is read as a timestamp is one word of a filter, if it has no blanks. -/
theorem scan_of_parse? {s : Text} {t : Timestamp} (hblank : ∀ c ∈ s, isBlank c = false)
    (hparse : Timestamp.parse? s = some t) : scan s = .ok [⟨.word s, 0⟩] := by
  apply scan_of_plain
  · rintro rfl
    cases hparse
  · intro c hc
    have hchar := Timestamp.forall_isMomentChar_of_parse? hparse c hc
    simp only [Timestamp.isMomentChar, hblank c hc, Bool.false_or, Bool.or_eq_true, List.contains_iff_mem] at hchar
    refine ⟨hblank c hc, ?_⟩
    rcases hchar with hdigit | hmem
    · have hnot (l : List Char) (hl : (l.all fun d => !d.isDigit) = true) : l.contains c = false := by
        rw [← Bool.not_eq_true, List.contains_iff_mem]
        intro hmem
        simpa [hdigit] using List.all_eq_true.1 hl c hmem
      have hquote : isQuote c = ['"', '\''].contains c := by
        rw [isQuote, List.contains_cons, List.contains_cons, List.contains_nil, Bool.or_false]
      exact ⟨hquote.trans (hnot _ rfl), hnot _ rfl, hnot _ rfl⟩
    · have hall : (['-', '+', 'T', ':', 'Z'].all fun c => !isQuote c && !isBracket c && !isOperatorChar c) = true := rfl
      simpa [and_assoc] using List.all_eq_true.1 hall c hmem

section

variable {options : Options} (hcollation : Settings.isCollation options.collation = true) {s : Text}
  (hblank : ∀ c ∈ s, isBlank c = false) (hword : Literal.ofWord s = .str s) {t : Timestamp}
  (hparse : Timestamp.parse? s = some t)
  (hlength : byteSize (join [' '] ["LastLoginAt".toList, "==".toList, s]) ≤ options.maxLength)

include hcollation hblank hword hparse hlength

/-- The stored text is compared with the text of the filter. -/
theorem exists_hasTruth_lastLogin {op : TestOperator} {r : Relation} (hrule : op.rule = .relation r) :
    ∃ c truth, compile options (join [' '] ["LastLoginAt".toList, op.symbol, s]) = .ok c ∧ c.HasTruth truth ∧
      ∀ (u : User) (stored : Text), u.lastLoginAt = some stored →
        truth u = .ofBool (r.holds (compareTexts stored s)) := by
  have hvalues : op.rule.literals? (.word s) = some [.str s] := by simp [Rule.literals?, hrule, Rule.takesList, hword]
  have hsymbol := byteSize_symbol_le hrule
  have hbytes : byteSize (join [' '] ["LastLoginAt".toList, op.symbol, s]) ≤ options.maxLength := by
    refine Nat.le_trans ?_ hlength
    simp only [join, byteSize_append]
    have htwo : byteSize "==".toList = 2 := rfl
    omega
  have hcolumn : "LastLoginAt".toList ∈ filterable := by decide
  have hfind : Column.find? "LastLoginAt".toList = some .lastLoginAt := by decide
  obtain ⟨c, hc, htruth⟩ := exists_compile_comparison hcollation ⟨"LastLoginAt".toList, op, .word s, _, hvalues⟩
    (by simp [hrule, Rule.isLike]) hcolumn (scan_of_parse? hblank hparse) hbytes
    (show 1 ≤ UInt64.size by decide)
  refine ⟨c, _, hc, htruth, ?_⟩
  intro u stored hstored
  rw [Comparison.truth_eq hcolumn hfind]
  simp only [hrule, User.value, hstored]
  rfl

/-- The filter compares chronologically exactly with the timestamps whose digits are all written, and with those before all moments that are stored. -/
theorem comparesChronologically_iff (hsecond : t.second ≤ 59) :
    ComparesChronologically options s t.instant ↔ (0 ≤ t.year ∧ t.year ≤ 9999 ∧ s = t.text) ∨ t.year < 0 := by
  have hofBool (b : Bool) : Truth.ofBool b = .true ↔ b = true := by cases b <;> simp [Truth.ofBool]
  rw [← Timestamp.compareTexts_eq_compare_iff hblank hparse hsecond]
  constructor
  · intro h m hm
    let u : User := ⟨[], [], [], [], some m.text, true⟩
    apply Relation.holds_inj
    intro r
    obtain ⟨op, hrule⟩ := exists_operator_of_relation r
    obtain ⟨c, truth, hc, htruth, hrow⟩ := h op r hrule
    obtain ⟨c', truth', hc', htruth', hrow'⟩ := exists_hasTruth_lastLogin hcollation hblank hword hparse hlength hrule
    obtain rfl := Except.ok.inj (hc.symm.trans hc')
    have hsame := (htruth.truth?_eq u).symm.trans (htruth'.truth?_eq u)
    rw [← hrow u m hm rfl, Option.some.inj hsame, hrow' u m.text rfl, hofBool]
  · intro h op r hrule
    obtain ⟨c, truth, hc, htruth, hrow⟩ := exists_hasTruth_lastLogin hcollation hblank hword hparse hlength hrule
    refine ⟨c, truth, hc, htruth, ?_⟩
    intro u m hm hstored
    rw [hrow u m.text hstored, h m hm, hofBool]

end

/-- A timestamp with all digits, and one of a year before 0. -/
theorem comparesChronologically_iff_padded :
    ComparesChronologically ⟨"NOCASE".toList, 64⟩ "2024-03-01T09:00:00Z".toList
        (Timestamp.instant ⟨2024, 3, 1, 9, 0, 0⟩) ∧
      ComparesChronologically ⟨"NOCASE".toList, 64⟩ "-4-2-29T0:0:9Z".toList (Timestamp.instant ⟨-4, 2, 29, 0, 0, 9⟩) := by
  have hblank : ∀ c ∈ "2024-03-01T09:00:00Z".toList, isBlank c = false := not_isBlank_of_all (by decide)
  have hblank' : ∀ c ∈ "-4-2-29T0:0:9Z".toList, isBlank c = false := not_isBlank_of_all (by decide)
  have hparse : Timestamp.parse? "2024-03-01T09:00:00Z".toList = some ⟨2024, 3, 1, 9, 0, 0⟩ := by decide +kernel
  have hparse' : Timestamp.parse? "-4-2-29T0:0:9Z".toList = some ⟨-4, 2, 29, 0, 0, 9⟩ := by decide +kernel
  constructor
  · refine (comparesChronologically_iff (by decide) hblank (by decide +kernel) hparse (by decide) (by decide)).2 ?_
    exact .inl ⟨by decide, by decide, by decide +kernel⟩
  · refine (comparesChronologically_iff (by decide) hblank' (by decide +kernel) hparse' (by decide) (by decide)).2 ?_
    exact .inr (by decide)

/-- The filter `LastLoginAt > 2024-1-1T00:00:00Z` is false of a user who logged in last a month later. -/
theorem not_comparesChronologically_unpadded :
    let s := "2024-1-1T00:00:00Z".toList
    let t : Timestamp := ⟨2024, 1, 1, 0, 0, 0⟩
    (∀ c ∈ s, isBlank c = false) ∧ Literal.ofWord s = .str s ∧ Timestamp.parse? s = some t ∧ t.second ≤ 59 ∧
      ¬ComparesChronologically ⟨"NOCASE".toList, 4096⟩ s t.instant := by
  intro s t
  have hblank : ∀ c ∈ "2024-1-1T00:00:00Z".toList, isBlank c = false := not_isBlank_of_all (by decide)
  refine ⟨hblank, by decide +kernel, by decide +kernel, by decide, ?_⟩
  intro h
  let op : TestOperator := ⟨⟨">".toList, .relation .gt⟩, by decide, rfl⟩
  let u : User := ⟨"u1".toList, "bob".toList, "e".toList, "h".toList, some "2024-02-01T00:00:00Z".toList, true⟩
  let m : Timestamp := ⟨2024, 2, 1, 0, 0, 0⟩
  have hm : m.IsPlain := ⟨Timestamp.isMoment_of_isValid (by decide) (by decide), by decide, by decide⟩
  obtain ⟨c, truth, hc, htruth, hrow⟩ := h op .gt rfl
  have htrue := (hrow u m hm (by decide +kernel)).2 (by decide +kernel)
  let compiled : Compiled :=
    ⟨"LastLoginAt > @p0".toList, parametersFrom 0 [.str s], ["LastLoginAt".toList]⟩
  have hcompile : compile ⟨"NOCASE".toList, 4096⟩ (join [' '] ["LastLoginAt".toList, op.symbol, s]) = .ok compiled := by
    decide +kernel
  obtain rfl := Except.ok.inj (hcompile.symm.trans hc)
  have hfalse : compiled.truth? u = some .false := by decide +kernel
  rw [htruth.truth?_eq, htrue] at hfalse
  cases hfalse

end Filter

end Roster
