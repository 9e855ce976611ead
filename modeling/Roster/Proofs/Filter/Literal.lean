import Roster.Filter.Literal
import Roster.Proofs.Timestamp

/-!
# Words as values

A word is looked at as a truth value, as a whole number, as a timestamp and as raw text, in this order. Numerals may have signs and leading zeros, and truth values may be written in either case, so several words stand for one value. The text that a value has is one of them: read as a word, it gives the same value again (`Literal.ofWord_asText`).
-/

namespace Roster

open Text

/-! ### Numerals -/

namespace Text

/-- The text is a number in decimal, with any number of leading zeros and with a sign or none. -/
inductive Numeral : Text → Int → Prop
  | unsigned {digits : Text} (hne : digits ≠ []) (h : ∀ c ∈ digits, c.isDigit = true) :
    Numeral digits (Nat.ofDigitChars 10 digits 0)
  | positive {digits : Text} (hne : digits ≠ []) (h : ∀ c ∈ digits, c.isDigit = true) :
    Numeral ('+' :: digits) (Nat.ofDigitChars 10 digits 0)
  | negative {digits : Text} (hne : digits ≠ []) (h : ∀ c ∈ digits, c.isDigit = true) :
    Numeral ('-' :: digits) (-(Nat.ofDigitChars 10 digits 0 : Nat))

theorem toNat?_eq_some_iff {s : Text} {n : Nat} :
    toNat? s = some n ↔ s ≠ [] ∧ (∀ c ∈ s, c.isDigit = true) ∧ Nat.ofDigitChars 10 s 0 = n := by
  have hcondition : (s.isEmpty || !s.all Char.isDigit) = true ↔ ¬(s ≠ [] ∧ ∀ c ∈ s, c.isDigit = true) := by
    rw [← not_iff_not, not_not]
    simp
  unfold toNat?
  split
  · rename_i h
    rw [hcondition] at h
    constructor
    · intro h
      cases h
    · rintro ⟨hne, hdigits, -⟩
      exact absurd ⟨hne, hdigits⟩ h
  · rename_i h
    rw [hcondition, not_not] at h
    rw [Option.some.injEq, ← and_assoc, and_iff_right h]

theorem toInt?_negative (s : Text) : toInt? ('-' :: s) = (toNat? s).map fun n : Nat => (-n : Int) := by
  cases h : toNat? s <;> simp [toInt?, h]

theorem toInt?_positive (s : Text) : toInt? ('+' :: s) = (toNat? s).map fun n : Nat => (n : Int) := by
  cases h : toNat? s <;> simp [toInt?, h]

theorem toInt?_unsigned {s : Text} (h : ∀ c ∈ s.head?, c ≠ '-' ∧ c ≠ '+') :
    toInt? s = (toNat? s).map fun n : Nat => (n : Int) := by
  unfold toInt?
  split
  · exact absurd rfl (h _ rfl).1
  · exact absurd rfl (h _ rfl).2
  · rfl

theorem toInt?_eq_some_iff {s : Text} {n : Int} : toInt? s = some n ↔ Numeral s n := by
  constructor
  · intro h
    cases s with
    | nil => cases h
    | cons c digits =>
      by_cases hminus : c = '-'
      · rw [hminus, toInt?_negative] at h
        obtain ⟨m, hm, rfl⟩ := Option.map_eq_some_iff.1 h
        obtain ⟨hne, hdigits, rfl⟩ := toNat?_eq_some_iff.1 hm
        exact hminus ▸ .negative hne hdigits
      by_cases hplus : c = '+'
      · rw [hplus, toInt?_positive] at h
        obtain ⟨m, hm, rfl⟩ := Option.map_eq_some_iff.1 h
        obtain ⟨hne, hdigits, rfl⟩ := toNat?_eq_some_iff.1 hm
        exact hplus ▸ .positive hne hdigits
      · rw [toInt?_unsigned (by simp [hminus, hplus])] at h
        obtain ⟨m, hm, rfl⟩ := Option.map_eq_some_iff.1 h
        obtain ⟨hne, hdigits, rfl⟩ := toNat?_eq_some_iff.1 hm
        exact .unsigned hne hdigits
  · intro h
    cases h with
    | unsigned hne h =>
      have hsign : ∀ c ∈ s.head?, c ≠ '-' ∧ c ≠ '+' := by
        intro c hc
        have hdigit := h c (List.mem_of_mem_head? hc)
        constructor <;> rintro rfl <;> cases hdigit
      rw [toInt?_unsigned hsign]
      exact Option.map_eq_some_iff.2 ⟨_, toNat?_eq_some_iff.2 ⟨hne, h, rfl⟩, rfl⟩
    | positive hne h =>
      rw [toInt?_positive]
      exact Option.map_eq_some_iff.2 ⟨_, toNat?_eq_some_iff.2 ⟨hne, h, rfl⟩, rfl⟩
    | negative hne h =>
      rw [toInt?_negative]
      exact Option.map_eq_some_iff.2 ⟨_, toNat?_eq_some_iff.2 ⟨hne, h, rfl⟩, rfl⟩

theorem numeral_ofInt (n : Int) : Numeral (ofInt n) n := by
  cases n with
  | ofNat n =>
    have hnat := toNat?_eq_some_iff.1 (toNat?_ofNat n)
    have h := Numeral.unsigned hnat.1 hnat.2.1
    rwa [hnat.2.2] at h
  | negSucc n =>
    have hnat := toNat?_eq_some_iff.1 (toNat?_ofNat (n + 1))
    have h := Numeral.negative hnat.1 hnat.2.1
    rwa [hnat.2.2] at h

def isNumeralChar (c : Char) : Bool := c.isDigit || c == '+' || c == '-'

theorem Numeral.forall_isNumeralChar {s : Text} {n : Int} (h : Numeral s n) : ∀ c ∈ s, isNumeralChar c = true := by
  have hdigits {digits : Text} (h : ∀ c ∈ digits, c.isDigit = true) : ∀ c ∈ digits, isNumeralChar c = true := by
    intro c hc
    simp [isNumeralChar, h c hc]
  cases h with
  | unsigned _ h => exact hdigits h
  | positive _ h => exact List.forall_mem_cons.2 ⟨rfl, hdigits h⟩
  | negative _ h => exact List.forall_mem_cons.2 ⟨rfl, hdigits h⟩

theorem Numeral.ne_nil {s : Text} {n : Int} (h : Numeral s n) : s ≠ [] := by
  cases h with
  | unsigned hne _ => exact hne
  | positive => exact List.cons_ne_nil _ _
  | negative => exact List.cons_ne_nil _ _

theorem toLower_of_isNumeralChar {c : Char} (h : isNumeralChar c = true) : c.toLower = c := by
  simp only [isNumeralChar, Bool.or_eq_true, beq_iff_eq] at h
  rcases h with (hdigit | rfl) | rfl
  · have hnot : ¬(c.val ≥ 'A'.val ∧ c.val ≤ 'Z'.val) := by
      simp only [Char.isDigit, Bool.and_eq_true, decide_eq_true_eq] at hdigit
      rintro ⟨hle, -⟩
      exact absurd (UInt32.le_trans hle hdigit.2) (by decide)
    exact dif_neg hnot
  · rfl
  · rfl

/-- A numeral is no spelling of a word that starts with a letter. -/
theorem Numeral.sameIgnoringCase_eq_false {s : Text} {n : Int} (h : Numeral s n) {c : Char} {t : Text}
    (hc : isNumeralChar c.toLower = false) : sameIgnoringCase s (c :: t) = false := by
  obtain ⟨d, digits, rfl⟩ := List.exists_cons_of_ne_nil h.ne_nil
  have hd := h.forall_isNumeralChar d List.mem_cons_self
  have hne : d ≠ c.toLower := by
    rintro rfl
    simp [hc] at hd
  simp [sameIgnoringCase, toLower_of_isNumeralChar hd, hne]

end Text

namespace Filter.Literal

theorem inRange_iff {n : Int} : inRange n = true ↔ -2 ^ 63 ≤ n ∧ n < 2 ^ 63 := by
  have hmin : Int64.minValue.toInt = -2 ^ 63 := rfl
  have hmax : Int64.maxValue.toInt = 2 ^ 63 - 1 := rfl
  rw [inRange, hmin, hmax, Bool.and_eq_true, decide_eq_true_eq, decide_eq_true_eq]
  omega

theorem not_truth_of_numeral {s : Text} {n : Int} (h : Numeral s n) :
    sameIgnoringCase s "true".toList = false ∧ sameIgnoringCase s "false".toList = false :=
  ⟨h.sameIgnoringCase_eq_false rfl, h.sameIgnoringCase_eq_false rfl⟩

theorem ofWord_of_numeral {s : Text} {n : Int} (h : Numeral s n) :
    ofWord s = if inRange n then .int n else if (Timestamp.parse? s).isSome then .str s else .raw s := by
  obtain ⟨htrue, hfalse⟩ := not_truth_of_numeral h
  rw [ofWord, htrue, hfalse, toInt?_eq_some_iff.2 h, Option.filter]
  cases inRange n <;> rfl

theorem ofWord_eq_int_iff {s : Text} {n : Int} : ofWord s = .int n ↔ Numeral s n ∧ inRange n = true := by
  constructor
  · intro h
    unfold ofWord at h
    split at h
    · cases h
    split at h
    · cases h
    split at h
    · rename_i m hm
      cases h
      rw [Option.filter_eq_some_iff, toInt?_eq_some_iff] at hm
      exact hm
    · split at h <;> cases h
  · rintro ⟨h, hrange⟩
    rw [ofWord_of_numeral h, if_pos hrange]

/-- Numbers that take more than 64 bits are kept as they are. No numeral is a timestamp, which has a letter at its end. -/
theorem ofWord_eq_raw {s : Text} {n : Int} (h : Numeral s n) (hrange : ¬inRange n = true) : ofWord s = .raw s := by
  have hparse : ¬(Timestamp.parse? s).isSome = true := by
    rw [Option.isSome_iff_exists]
    rintro ⟨t, ht⟩
    cases h.forall_isNumeralChar 'Z' (Timestamp.mem_of_parse? ht)
  rw [ofWord_of_numeral h, if_neg hrange, if_neg hparse]

/-- Words that are neither truth values nor numbers are kept as they are. -/
theorem eq_of_ofWord {s t : Text} (h : ofWord s = .str t ∨ ofWord s = .raw t) : s = t := by
  unfold ofWord at h
  split at h
  · simp at h
  split at h
  · simp at h
  split at h
  · simp at h
  split at h <;> simpa using h

/-- No timestamp is taken for anything else: its last letter is in no numeral and in no truth value. -/
theorem ofWord_of_parse? {s : Text} {t : Timestamp} (h : Timestamp.parse? s = some t) : ofWord s = .str s := by
  have hmem := Timestamp.mem_of_parse? h
  have hword {w : Text} (hw : 'z' ∉ w.map Char.toLower) : ¬sameIgnoringCase s w = true := by
    rw [sameIgnoringCase, beq_iff_eq]
    intro hsame
    exact hw (hsame ▸ List.mem_map_of_mem (f := Char.toLower) hmem)
  have hint : toInt? s = none := by
    rw [Option.eq_none_iff_forall_ne_some]
    intro n hn
    cases (toInt?_eq_some_iff.1 hn).forall_isNumeralChar 'Z' hmem
  rw [ofWord, if_neg (hword (by decide)), if_neg (hword (by decide)), hint, h]
  rfl

theorem ofWord_asText_ofWord (s : Text) : ofWord (ofWord s).asText = ofWord s := by
  cases hvalue : ofWord s with
  | str t => rw [asText, ← eq_of_ofWord (.inl hvalue), hvalue, eq_of_ofWord (.inl hvalue)]
  | raw t => rw [asText, ← eq_of_ofWord (.inr hvalue), hvalue, eq_of_ofWord (.inr hvalue)]
  | bool b => cases b <;> rfl
  | int n => exact ofWord_eq_int_iff.2 ⟨numeral_ofInt n, (ofWord_eq_int_iff.1 hvalue).2⟩

/-- The text of the value of a word has the same value. All numbers of 64 bits are the values of their texts; all other numerals of such a number have its value too, and the numerals of numbers that take more bits are kept as they are, as are timestamps and all words that are neither truth values nor numbers. -/
theorem ofWord_asText (s : Text) :
    ofWord (ofWord s).asText = ofWord s ∧
      (∀ n : Int64, ofWord (ofInt n.toInt) = .int n.toInt) ∧
      (∀ n, ofWord s = .int n ↔ Numeral s n ∧ -2 ^ 63 ≤ n ∧ n < 2 ^ 63) ∧
      (∀ n, Numeral s n → -2 ^ 63 ≤ n ∧ n < 2 ^ 63 → ofWord s = ofWord (ofInt n)) ∧
      (∀ n, Numeral s n → ¬(-2 ^ 63 ≤ n ∧ n < 2 ^ 63) → ofWord s = .raw s) ∧
      (∀ t, Timestamp.parse? s = some t → ofWord s = .str s) ∧
      ∀ t, ofWord s = .str t ∨ ofWord s = .raw t → s = t := by
  have hrange (n : Int64) : inRange n.toInt = true := inRange_iff.2 ⟨n.le_toInt, n.toInt_lt⟩
  refine ⟨ofWord_asText_ofWord s, fun n => ofWord_eq_int_iff.2 ⟨numeral_ofInt _, hrange n⟩, ?_, ?_, ?_,
    fun t => ofWord_of_parse?, fun t => eq_of_ofWord⟩
  · intro n
    rw [ofWord_eq_int_iff, inRange_iff]
  · intro n h hn
    rw [← inRange_iff] at hn
    rw [ofWord_eq_int_iff.2 ⟨h, hn⟩, ofWord_eq_int_iff.2 ⟨numeral_ofInt n, hn⟩]
  · intro n h hn
    rw [← inRange_iff] at hn
    exact ofWord_eq_raw h hn

/-- The ends of the range: the least number with zeros in front, and one more than the greatest. -/
theorem ofWord_asText_bounds :
    let least := "-009223372036854775808".toList
    let beyond := "+9223372036854775808".toList
    Numeral least (-2 ^ 63) ∧ ofWord least = ofWord "-9223372036854775808".toList ∧
      ofWord least = .int Int64.minValue.toInt ∧ Numeral beyond (2 ^ 63) ∧ ofWord beyond = .raw beyond ∧
      ofWord (ofWord "fALSE".toList).asText = ofWord "fALSE".toList := by
  intro least beyond
  have hleast : Numeral least (-2 ^ 63) := toInt?_eq_some_iff.1 (by decide +kernel)
  have hbeyond : Numeral beyond (2 ^ 63) := toInt?_eq_some_iff.1 (by decide +kernel)
  obtain ⟨-, -, hint, hsame, -, -, -⟩ := ofWord_asText least
  obtain ⟨-, -, -, -, hraw, -, -⟩ := ofWord_asText beyond
  exact ⟨hleast, hsame _ hleast (by decide), (hint _).2 ⟨hleast, by decide⟩, hbeyond, hraw _ hbeyond (by decide),
    (ofWord_asText _).1⟩

end Filter.Literal

end Roster
