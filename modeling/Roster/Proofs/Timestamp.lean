import Mathlib.Algebra.Order.Ring.Int
import Mathlib.Order.Compare
import Mathlib.Order.Monotone.Basic
import Roster.Proofs.Sql.Order
import Roster.Timestamp

/-!
# The order of timestamps

A timestamp names an instant, a number of seconds. The text of fixed width that stands for a moment of the years from 0 to 9999 sorts as the instant does (`compareTexts_text`), because both compare the parts from the year to the second. Of the other texts that are read as timestamps none sorts like this, unless it lies before all these moments (`compareTexts_eq_compare_iff`): they have fewer digits, or a sign, which comes before all digits.
-/

namespace Roster

open Text Sql

namespace Timestamp

/-! ### Instants -/

/-- The days before the first day of the year, but for a constant. -/
def daysBeforeYear (year : Int) : Int := 365 * year + (year - 1) / 4 - (year - 1) / 100 + (year - 1) / 400

/-- The days in the first months of the year. -/
def daysOfMonths (year : Int) : Nat → Nat
  | 0 => 0
  | months + 1 => daysOfMonths year months + daysInMonth year (months + 1)

/-- The number of the day in the year, from 1 on. -/
def dayOfYear (t : Timestamp) : Int := daysOfMonths t.year (t.month - 1) + t.day

/-- The seconds before the moment, but for a constant. -/
def instant (t : Timestamp) : Int :=
  (((daysBeforeYear t.year + t.dayOfYear) * 24 + t.hour) * 60 + t.minute) * 60 + t.second

/-- The parts name a real moment, not a leap second. -/
structure IsMoment (t : Timestamp) : Prop where
  month_pos : 1 ≤ t.month
  month_le : t.month ≤ 12
  day_pos : 1 ≤ t.day
  day_le : t.day ≤ daysInMonth t.year t.month
  hour_le : t.hour ≤ 23
  minute_le : t.minute ≤ 59
  second_le : t.second ≤ 59

theorem isMoment_of_isValid {t : Timestamp} (h : t.isValid = true) (hsecond : t.second ≤ 59) : t.IsMoment := by
  simp only [isValid, Bool.and_eq_true, decide_eq_true_eq] at h
  obtain ⟨⟨⟨⟨⟨⟨⟨⟨-, -⟩, hmonth⟩, hmonth'⟩, hday⟩, hday'⟩, hhour⟩, hminute⟩, -⟩ := h
  exact ⟨hmonth, hmonth', hday, hday', hhour, hminute, hsecond⟩

theorem daysInMonth_le (year : Int) (month : Nat) : daysInMonth year month ≤ 31 := by
  unfold daysInMonth
  split
  · split <;> decide
  split <;> decide

theorem daysBeforeYear_succ (year : Int) :
    daysBeforeYear (year + 1) = daysBeforeYear year + if isLeap year then 366 else 365 := by
  simp only [daysBeforeYear, isLeap, Bool.and_eq_true, Bool.or_eq_true, beq_iff_eq, bne_iff_ne]
  split <;> omega

theorem daysBeforeYear_mono {year year' : Int} (h : year ≤ year') : daysBeforeYear year ≤ daysBeforeYear year' := by
  have hmono : Monotone daysBeforeYear := by
    refine monotone_int_of_le_succ fun year => ?_
    rw [daysBeforeYear_succ]
    split <;> omega
  exact hmono h

theorem daysOfMonths_mono (year : Int) {m n : Nat} (h : m ≤ n) : daysOfMonths year m ≤ daysOfMonths year n :=
  monotone_nat_of_le_succ (fun _ => Nat.le_add_right _ _) h

/-- The days of the months are those of the year. -/
theorem daysOfMonths_twelve (year : Int) : daysOfMonths year 12 = if isLeap year then 366 else 365 := by
  simp only [daysOfMonths, daysInMonth]
  cases isLeap year <;> rfl

/-- A sum is ordered by its first part where that decides, and by its second part where the first is the same. -/
theorem compare_add {α : Type} [LinearOrder α] (f : α → Int) {a b : α} {x y : Int} (hab : a < b → f a + x < f b + y)
    (hba : b < a → f b + y < f a + x) : compare (f a + x) (f b + y) = (compare a b).then (compare x y) := by
  rcases lt_trichotomy a b with h | rfl | h
  · rw [compare_lt_iff_lt.2 h, compare_lt_iff_lt.2 (hab h)]
    rfl
  · rw [compare_eq_iff_eq.2 (rfl : a = a)]
    show compare (f a + x) (f a + y) = compare x y
    rcases lt_trichotomy x y with h | rfl | h
    · rw [compare_lt_iff_lt.2 h, compare_lt_iff_lt.2 (by omega)]
    · rw [compare_eq_iff_eq.2 rfl, compare_eq_iff_eq.2 rfl]
    · rw [compare_gt_iff_gt.2 h, compare_gt_iff_gt.2 (by omega)]
  · rw [compare_gt_iff_gt.2 h, compare_gt_iff_gt.2 (hba h)]
    rfl

theorem compare_natCast (m n : Nat) : compare (m : Int) (n : Int) = compare m n := by
  rcases lt_trichotomy m n with h | rfl | h
  · rw [compare_lt_iff_lt.2 h, compare_lt_iff_lt.2 (by omega)]
  · rw [compare_eq_iff_eq.2 rfl, compare_eq_iff_eq.2 rfl]
  · rw [compare_gt_iff_gt.2 h, compare_gt_iff_gt.2 (by omega)]

/-- The day comes before all days of later months. -/
theorem dayOfYear_le {t : Timestamp} (h : t.IsMoment) {month : Nat} (hmonth : t.month < month) :
    t.dayOfYear ≤ daysOfMonths t.year (month - 1) := by
  have hpos := h.month_pos
  have hday := h.day_le
  have hmono : daysOfMonths t.year t.month ≤ daysOfMonths t.year (month - 1) := daysOfMonths_mono t.year (by omega)
  obtain ⟨months, hmonths⟩ : ∃ months, t.month = months + 1 := ⟨t.month - 1, by omega⟩
  rw [hmonths, daysOfMonths, ← hmonths] at hmono
  rw [dayOfYear, hmonths, Nat.add_sub_cancel]
  omega

theorem one_le_dayOfYear {t : Timestamp} (h : t.IsMoment) : 1 ≤ t.dayOfYear := by
  have hday := h.day_pos
  rw [dayOfYear]
  omega

/-- The day comes before all days of later years. -/
theorem daysBeforeYear_add_le {t : Timestamp} (h : t.IsMoment) {year : Int} (hyear : t.year < year) :
    daysBeforeYear t.year + t.dayOfYear ≤ daysBeforeYear year := by
  have hday : t.dayOfYear ≤ daysOfMonths t.year 12 := dayOfYear_le h (Nat.lt_succ_of_le h.month_le)
  have hmono : daysBeforeYear (t.year + 1) ≤ daysBeforeYear year := daysBeforeYear_mono hyear
  rw [daysOfMonths_twelve] at hday
  rw [daysBeforeYear_succ] at hmono
  cases hleap : isLeap t.year <;> simp [hleap] at hday hmono <;> omega

/-- The order of two moments by their parts. -/
def compareParts (t t' : Timestamp) : Ordering :=
  (compare t.year t'.year).then <| (compare t.month t'.month).then <| (compare t.day t'.day).then <|
    (compare t.hour t'.hour).then <| (compare t.minute t'.minute).then (compare t.second t'.second)

section

variable {t t' : Timestamp} (h : t.IsMoment) (h' : t'.IsMoment)

include h h'

theorem compare_dayOfYear (hyear : t.year = t'.year) :
    compare t.dayOfYear t'.dayOfYear = (compare t.month t'.month).then (compare t.day t'.day) := by
  have hday := h.day_pos
  have hday' := h'.day_pos
  rw [dayOfYear, dayOfYear, ← hyear, ← compare_natCast t.day]
  refine compare_add (fun month => (daysOfMonths t.year (month - 1) : Int)) ?_ ?_
  · intro hlt
    have hle := dayOfYear_le h hlt
    rw [dayOfYear] at hle
    omega
  · intro hlt
    have hle := dayOfYear_le h' hlt
    rw [dayOfYear, ← hyear] at hle
    omega

theorem compare_instant : compare t.instant t'.instant = t.compareParts t' := by
  have hhour := h.hour_le
  have hhour' := h'.hour_le
  have hminute := h.minute_le
  have hminute' := h'.minute_le
  have hsecond := h.second_le
  have hsecond' := h'.second_le
  have hpos := one_le_dayOfYear h
  have hpos' := one_le_dayOfYear h'
  have hyear : compare (daysBeforeYear t.year + t.dayOfYear) (daysBeforeYear t'.year + t'.dayOfYear) =
      (compare t.year t'.year).then (compare t.dayOfYear t'.dayOfYear) := by
    refine compare_add daysBeforeYear ?_ ?_
    · intro hlt
      have hle := daysBeforeYear_add_le h hlt
      omega
    · intro hlt
      have hle := daysBeforeYear_add_le h' hlt
      omega
  rw [instant, instant, compare_add (· * 60) (by omega) (by omega), compare_add (· * 60) (by omega) (by omega),
    compare_add (· * 24) (by omega) (by omega), hyear]
  simp only [compare_natCast, compareParts, Ordering.then_assoc]
  cases hcompare : compare t.year t'.year with
  | eq => rw [compare_dayOfYear h h' (compare_eq_iff_eq.1 hcompare), Ordering.then_assoc]
  | lt => rfl
  | gt => rfl

end

theorem instant_lt_of_year_lt {t t' : Timestamp} (h : t.IsMoment) (h' : t'.IsMoment) (hyear : t.year < t'.year) :
    t.instant < t'.instant := by
  rw [← compare_lt_iff_lt, compare_instant h h', compareParts, compare_lt_iff_lt.2 hyear]
  rfl

/-! ### Texts -/

/-- The last digits of the number, `width` of them. -/
def padded : Nat → Nat → Text
  | 0, _ => []
  | width + 1, n => padded width (n / 10) ++ [(n % 10).digitChar]

/-- The text of the moment with all digits: `YYYY-MM-DDTHH:MM:SSZ`. -/
def text (t : Timestamp) : Text :=
  padded 4 t.year.toNat ++ '-' :: (padded 2 t.month ++ '-' :: (padded 2 t.day ++ 'T' :: (padded 2 t.hour ++
    ':' :: (padded 2 t.minute ++ ':' :: (padded 2 t.second ++ ['Z'])))))

/-- A moment of the years that have four digits. -/
structure IsPlain (t : Timestamp) : Prop extends t.IsMoment where
  year_nonneg : 0 ≤ t.year
  year_le : t.year ≤ 9999

theorem compareTexts_cons (c d : Char) (s s' : Text) :
    compareTexts (c :: s) (d :: s') = (compare c d).then (compareTexts s s') := by
  rw [compareTexts_eq, List.compare_cons_cons]

theorem compareTexts_padded (width : Nat) {m n : Nat} (hm : m < 10 ^ width) (hn : n < 10 ^ width) (s s' : Text) :
    compareTexts (padded width m ++ s) (padded width n ++ s') = (compare m n).then (compareTexts s s') := by
  have hdigit : ∀ m < 10, ∀ n < 10, compare m.digitChar n.digitChar = compare m n := by decide
  induction width generalizing m n s s' with
  | zero =>
    obtain rfl : m = n := by omega
    rw [compare_eq_iff_eq.2 rfl]
    rfl
  | succ width ih =>
    rw [Nat.pow_succ] at hm hn
    have hadd : compare ((m / 10 : Nat) * 10 + (m % 10 : Nat) : Int) ((n / 10 : Nat) * 10 + (n % 10 : Nat)) =
        (compare (m / 10) (n / 10)).then (compare ((m % 10 : Nat) : Int) (n % 10 : Nat)) :=
      compare_add (fun k : Nat => (k * 10 : Int)) (by omega) (by omega)
    have hsum (k : Nat) : ((k / 10 : Nat) * 10 + (k % 10 : Nat) : Int) = k := by omega
    rw [hsum, hsum, compare_natCast, compare_natCast] at hadd
    rw [padded, padded, List.append_assoc, List.append_assoc, ih (by omega) (by omega), List.singleton_append,
      List.singleton_append, compareTexts_cons, hdigit _ (by omega) _ (by omega), hadd, Ordering.then_assoc]

/-- Where all digits are written, texts are ordered as the moments are. -/
theorem compareTexts_text {t t' : Timestamp} (h : t.IsPlain) (h' : t'.IsPlain) :
    compareTexts t.text t'.text = compare t.instant t'.instant := by
  have hyear := h.year_le
  have hyear' := h'.year_le
  have hmonth := h.month_le
  have hmonth' := h'.month_le
  have hday := Nat.le_trans h.day_le (daysInMonth_le t.year t.month)
  have hday' := Nat.le_trans h'.day_le (daysInMonth_le t'.year t'.month)
  have hhour := h.hour_le
  have hhour' := h'.hour_le
  have hminute := h.minute_le
  have hminute' := h'.minute_le
  have hsecond := h.second_le
  have hsecond' := h'.second_le
  have hseparator (c : Char) (s s' : Text) : compareTexts (c :: s) (c :: s') = compareTexts s s' := by
    simp [compareTexts]
  have hcast : compare t.year.toNat t'.year.toNat = compare t.year t'.year := by
    rw [← compare_natCast, Int.toNat_of_nonneg h.year_nonneg, Int.toNat_of_nonneg h'.year_nonneg]
  rw [compare_instant h.toIsMoment h'.toIsMoment, compareParts, text, text]
  rw [compareTexts_padded 4 (by omega) (by omega), hseparator, compareTexts_padded 2 (by omega) (by omega), hseparator,
    compareTexts_padded 2 (by omega) (by omega), hseparator,
    compareTexts_padded 2 (by omega) (by omega), hseparator, compareTexts_padded 2 (by omega) (by omega), hseparator,
    compareTexts_padded 2 (by omega) (by omega), hseparator, hcast]
  simp [compareTexts]

/-! ### Reading -/

/-- The characters of the texts that are read as timestamps. -/
def isMomentChar (c : Char) : Bool := isBlank c || c.isDigit || ['-', '+', 'T', ':', 'Z'].contains c

/-- What was read before the rest has no other characters. -/
def Reads (s rest : Text) : Prop := ∃ taken, s = taken ++ rest ∧ ∀ c ∈ taken, isMomentChar c = true

theorem Reads.trans {s t rest : Text} (h : Reads s t) (h' : Reads t rest) : Reads s rest := by
  obtain ⟨taken, rfl, htaken⟩ := h
  obtain ⟨taken', rfl, htaken'⟩ := h'
  exact ⟨taken ++ taken', (List.append_assoc _ _ _).symm, List.forall_mem_append.2 ⟨htaken, htaken'⟩⟩

theorem reads_trimStart (s : Text) : Reads s (trimStart s) := by
  refine ⟨s.takeWhile isBlank, List.takeWhile_append_dropWhile.symm, fun c hc => ?_⟩
  have hblank : isBlank c = true := List.all_eq_true.1 List.all_takeWhile c hc
  simp [isMomentChar, hblank]

theorem ofDigitChars_lt {s : Text} (h : ∀ c ∈ s, c.isDigit = true) : Nat.ofDigitChars 10 s 0 < 10 ^ s.length := by
  induction s with
  | nil => decide
  | cons c s ih =>
    rw [List.forall_mem_cons] at h
    have hdigit : c.toNat - '0'.toNat ≤ 9 := by
      have hc := h.1
      simp only [Char.isDigit, Bool.and_eq_true, decide_eq_true_eq, UInt32.le_iff_toNat_le] at hc
      show c.val.toNat - 48 ≤ 9
      have hle : c.val.toNat ≤ 57 := hc.2
      omega
    have hrest := ih h.2
    have hmul : 10 ^ s.length * (c.toNat - '0'.toNat) ≤ 10 ^ s.length * 9 := Nat.mul_le_mul_left _ hdigit
    rw [Nat.ofDigitChars_cons, Nat.mul_zero, Nat.zero_add, Nat.ofDigitChars_eq_ofDigitChars_zero, List.length_cons,
      Nat.pow_succ]
    omega

theorem digits?_eq_some {limit n : Nat} {s rest : Text} (h : digits? limit s = some (n, rest)) :
    Reads s rest ∧ n < 10 ^ limit := by
  obtain ⟨m, hm, hrest⟩ := Option.map_eq_some_iff.1 h
  obtain ⟨rfl, rfl⟩ := Prod.mk.inj hrest
  have hdigits : ∀ c ∈ (s.take limit).takeWhile Char.isDigit, c.isDigit = true :=
    List.all_eq_true.1 List.all_takeWhile
  have hprefix : (s.take limit).takeWhile Char.isDigit <+: s :=
    (List.takeWhile_prefix _).trans (List.take_prefix _ _)
  have hlength : ((s.take limit).takeWhile Char.isDigit).length ≤ limit :=
    Nat.le_trans (List.takeWhile_prefix _).length_le (List.length_take_le _ _)
  constructor
  · refine ⟨_, (List.prefix_iff_eq_append.1 hprefix).symm, fun c hc => ?_⟩
    simp [isMomentChar, hdigits c hc]
  · unfold toNat? at hm
    split at hm
    · cases hm
    · cases hm
      exact Nat.lt_of_lt_of_le (ofDigitChars_lt hdigits) (Nat.pow_le_pow_right (by decide) hlength)

theorem reads_of_part? {s rest : Text} {n : Nat} (h : part? s = some (n, rest)) : Reads s rest :=
  (reads_trimStart s).trans (digits?_eq_some h).1

theorem eq_of_after? {c : Char} {s rest : Text} (h : after? c s = some rest) : s = c :: rest := by
  cases s with
  | nil => cases h
  | cons d s =>
    simp only [after?, Option.ite_none_right_eq_some, Option.some.injEq] at h
    obtain ⟨rfl, rfl⟩ := h
    rfl

theorem reads_of_after? {c : Char} (hc : isMomentChar c = true) {s rest : Text} (h : after? c s = some rest) :
    Reads s rest :=
  ⟨[c], eq_of_after? h, List.forall_mem_singleton.2 hc⟩

/-- Only a year with a sign has less or more than four digits. -/
theorem year?_eq_some {s rest : Text} {year : Int} (h : year? s = some (year, rest)) :
    Reads s rest ∧ (year < 0 → (trimStart s).head? = some '-') ∧ (9999 < year → (trimStart s).head? = some '+') := by
  have hsign (c : Char) (hc : isMomentChar c = true) {s t : Text} (hs : Reads s t) : Reads (c :: s) t := by
    obtain ⟨taken, rfl, htaken⟩ := hs
    exact ⟨c :: taken, rfl, List.forall_mem_cons.2 ⟨hc, htaken⟩⟩
  have hstart := reads_trimStart s
  unfold year? at h
  split at h
  · rename_i t htrim
    obtain ⟨⟨n, _⟩, hn, hyear⟩ := Option.map_eq_some_iff.1 h
    obtain ⟨rfl, rfl⟩ := Prod.mk.inj hyear
    rw [htrim] at hstart ⊢
    exact ⟨hstart.trans (hsign '-' rfl (digits?_eq_some hn).1), fun _ => rfl, by simp only; omega⟩
  · rename_i t htrim
    obtain ⟨⟨n, _⟩, hn, hyear⟩ := Option.map_eq_some_iff.1 h
    obtain ⟨rfl, rfl⟩ := Prod.mk.inj hyear
    rw [htrim] at hstart ⊢
    exact ⟨hstart.trans (hsign '+' rfl (digits?_eq_some hn).1), by simp only; omega, fun _ => rfl⟩
  · obtain ⟨⟨n, _⟩, hn, hyear⟩ := Option.map_eq_some_iff.1 h
    obtain ⟨rfl, rfl⟩ := Prod.mk.inj hyear
    obtain ⟨hreads, hlt⟩ := digits?_eq_some hn
    exact ⟨hstart.trans hreads, by simp only; omega, by simp only; omega⟩

/-- What is read as a timestamp ends in a `Z`. -/
theorem parse?_eq_some {s : Text} {t : Timestamp} (h : parse? s = some t) :
    Reads s ['Z'] ∧ t.isValid = true ∧ (t.year < 0 → (trimStart s).head? = some '-') ∧
      (9999 < t.year → (trimStart s).head? = some '+') := by
  unfold parse? at h
  obtain ⟨⟨year, s₁⟩, hyear, h⟩ := Option.bind_eq_some_iff.1 h
  obtain ⟨s₂, hafter₁, h⟩ := Option.bind_eq_some_iff.1 h
  obtain ⟨⟨month, s₃⟩, hmonth, h⟩ := Option.bind_eq_some_iff.1 h
  obtain ⟨s₄, hafter₂, h⟩ := Option.bind_eq_some_iff.1 h
  obtain ⟨⟨day, s₅⟩, hday, h⟩ := Option.bind_eq_some_iff.1 h
  obtain ⟨s₆, hafter₃, h⟩ := Option.bind_eq_some_iff.1 h
  obtain ⟨⟨hour, s₇⟩, hhour, h⟩ := Option.bind_eq_some_iff.1 h
  obtain ⟨s₈, hafter₄, h⟩ := Option.bind_eq_some_iff.1 h
  obtain ⟨⟨minute, s₉⟩, hminute, h⟩ := Option.bind_eq_some_iff.1 h
  obtain ⟨s₁₀, hafter₅, h⟩ := Option.bind_eq_some_iff.1 h
  obtain ⟨⟨second, s₁₁⟩, hsecond, h⟩ := Option.bind_eq_some_iff.1 h
  obtain ⟨rest, hafter₆, h⟩ := Option.bind_eq_some_iff.1 h
  simp only [Bool.and_eq_true, List.isEmpty_iff, Option.ite_none_right_eq_some, Option.some.injEq] at h
  obtain ⟨⟨rfl, hvalid⟩, rfl⟩ := h
  obtain ⟨hreads, hsign⟩ := year?_eq_some hyear
  refine ⟨?_, hvalid, hsign⟩
  rw [← eq_of_after? hafter₆]
  exact hreads.trans <| (reads_of_after? rfl hafter₁).trans <| (reads_of_part? hmonth).trans <|
      (reads_of_after? rfl hafter₂).trans <| (reads_of_part? hday).trans <| (reads_of_after? rfl hafter₃).trans <|
      (reads_of_part? hhour).trans <| (reads_of_after? rfl hafter₄).trans <| (reads_of_part? hminute).trans <|
      (reads_of_after? rfl hafter₅).trans <| reads_of_part? hsecond

theorem forall_isMomentChar_of_parse? {s : Text} {t : Timestamp} (h : parse? s = some t) :
    ∀ c ∈ s, isMomentChar c = true := by
  obtain ⟨taken, rfl, hchars⟩ := (parse?_eq_some h).1
  exact List.forall_mem_append.2 ⟨hchars, List.forall_mem_singleton.2 rfl⟩

theorem mem_of_parse? {s : Text} {t : Timestamp} (h : parse? s = some t) : 'Z' ∈ s := by
  obtain ⟨taken, rfl, -⟩ := (parse?_eq_some h).1
  simp

/-! ### Texts that sort by their instants -/

theorem exists_padded_cons (width n : Nat) : ∃ digit < 10, ∃ rest, padded (width + 1) n = digit.digitChar :: rest := by
  induction width generalizing n with
  | zero => exact ⟨n % 10, Nat.mod_lt n (by decide), [], rfl⟩
  | succ width ih =>
    obtain ⟨digit, hdigit, rest, hrest⟩ := ih (n / 10)
    exact ⟨digit, hdigit, rest ++ [(n % 10).digitChar], by rw [padded, hrest, List.cons_append]⟩

/-- Signs come before digits. -/
theorem compareTexts_of_sign (t : Timestamp) {s : Text} (h : s.head? = some '-' ∨ s.head? = some '+') :
    compareTexts t.text s = .gt := by
  have hsign : ∀ digit < 10, compare digit.digitChar '-' = .gt ∧ compare digit.digitChar '+' = .gt := by decide
  obtain ⟨digit, hdigit, rest, hrest⟩ := exists_padded_cons 3 t.year.toNat
  obtain ⟨hminus, hplus⟩ := hsign digit hdigit
  rw [text, hrest, List.cons_append]
  rcases h with h | h
  · obtain ⟨s, rfl⟩ := List.head?_eq_some_iff.1 h
    rw [compareTexts_cons, hminus]
    rfl
  · obtain ⟨s, rfl⟩ := List.head?_eq_some_iff.1 h
    rw [compareTexts_cons, hplus]
    rfl

theorem trimStart_of_forall {s : Text} (h : ∀ c ∈ s, isBlank c = false) : trimStart s = s := by
  cases s with
  | nil => rfl
  | cons c s => rw [trimStart, List.dropWhile_cons_of_neg (by simp [h c List.mem_cons_self])]

/-- A text without blanks that is read as a timestamp sorts among the moments of four-digit years by its instant exactly if all its digits are written, or if it lies before all of them. -/
theorem compareTexts_eq_compare_iff {s : Text} {t : Timestamp} (hblank : ∀ c ∈ s, isBlank c = false)
    (hparse : parse? s = some t) (hsecond : t.second ≤ 59) :
    (∀ m : Timestamp, m.IsPlain → compareTexts m.text s = compare m.instant t.instant) ↔
      (0 ≤ t.year ∧ t.year ≤ 9999 ∧ s = t.text) ∨ t.year < 0 := by
  obtain ⟨-, hvalid, hminus, hplus⟩ := parse?_eq_some hparse
  rw [trimStart_of_forall hblank] at hminus hplus
  have hmoment := isMoment_of_isValid hvalid hsecond
  constructor
  · intro h
    by_cases hnegative : t.year < 0
    · exact .inr hnegative
    by_cases hlarge : 9999 < t.year
    · let m : Timestamp := ⟨0, 1, 1, 0, 0, 0⟩
      have hm : m.IsPlain :=
        ⟨isMoment_of_isValid (by decide) (by decide), by decide, by decide⟩
      have hlt : m.instant < t.instant := instant_lt_of_year_lt hm.toIsMoment hmoment (by simp only [m]; omega)
      have hgt := compareTexts_of_sign m (.inr (hplus hlarge))
      rw [h m hm, compare_lt_iff_lt.2 hlt] at hgt
      cases hgt
    · have hplain : t.IsPlain := ⟨hmoment, by omega, by omega⟩
      have heq := h t hplain
      rw [compare_eq_iff_eq.2 rfl] at heq
      exact .inl ⟨by omega, by omega, (Std.LawfulEqCmp.eq_of_compare heq).symm⟩
  · rintro (⟨hnonneg, hle, rfl⟩ | hnegative) m hm
    · exact compareTexts_text hm ⟨hmoment, hnonneg, hle⟩
    · have hyear := hm.year_nonneg
      rw [compareTexts_of_sign m (.inl (hminus hnegative)), compare_gt_iff_gt.2]
      exact instant_lt_of_year_lt hmoment hm.toIsMoment (by omega)

end Timestamp

end Roster
