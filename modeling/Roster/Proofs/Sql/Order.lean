import Mathlib.Data.List.Basic
import Mathlib.Tactic.SplitIfs
import Roster.Sql.Value
import Roster.Text.Utf8

/-!
# The order of values

Values are put in a sorted list with null first, then the integers by size, then the texts by their bytes in UTF-8. Texts are compared by code points. That comes to the same, because the bytes of two different characters differ before either of them ends, and where they differ first, the greater byte belongs to the greater code point.
-/

namespace Roster

open Text

/-! ### Texts -/

namespace Text

theorem ofNat_cons_lt {m n : Nat} (hm : m < 256) (hn : n < 256) {bytes bytes' : List UInt8} :
    UInt8.ofNat m :: bytes < UInt8.ofNat n :: bytes' ↔ m < n ∨ m = n ∧ bytes < bytes' := by
  rw [List.cons_lt_cons_iff, UInt8.lt_iff_toNat_lt, ← UInt8.toNat_inj, UInt8.toNat_ofNat_of_lt' hm,
    UInt8.toNat_ofNat_of_lt' hn]

/-- The bytes of the lesser character are less, whatever follows them. -/
theorem utf8EncodeChar_append_lt {c d : Char} (h : c.val < d.val) (bytes bytes' : List UInt8) :
    String.utf8EncodeChar c ++ bytes < String.utf8EncodeChar d ++ bytes' := by
  have hlt : c.val.toNat < d.val.toNat := UInt32.lt_iff_toNat_lt.1 h
  have hmax : d.val.toNat < 0x110000 := by
    have hvalid := d.valid
    simp only [UInt32.isValidChar, Nat.isValidChar] at hvalid
    omega
  simp only [String.utf8EncodeChar]
  generalize c.val.toNat = m at *
  generalize d.val.toNat = n at *
  have hdigits (k : Nat) : k / 4096 = k / 64 / 64 ∧ k / 262144 = k / 64 / 64 / 64 := by omega
  -- One case for each pair of sizes; the lesser character is never the longer one.
  split_ifs <;>
    simp (disch := omega) only [List.cons_append, List.nil_append, ofNat_cons_lt, hdigits] <;>
    omega

end Text

namespace Sql

theorem compareTexts_eq : compareTexts = compare := by
  funext s t
  induction s generalizing t with
  | nil => cases t <;> rfl
  | cons c s ih =>
    cases t with
    | nil => rfl
    | cons d t =>
      have hc : compare c d = if c.val < d.val then .lt else if c = d then .eq else .gt := rfl
      rw [compareTexts, List.compare_cons_cons, ← ih, hc]
      split_ifs <;> rfl

instance : Std.TransCmp compareTexts := compareTexts_eq ▸ inferInstance

instance : Std.LawfulEqCmp compareTexts := compareTexts_eq ▸ inferInstance

theorem toBytes_lt_of_compareTexts {s t : Text} (h : compareTexts s t = .lt) : toBytes s < toBytes t := by
  induction s generalizing t with
  | nil =>
    cases t with
    | nil => cases h
    | cons d t =>
      obtain ⟨b, bytes, hd⟩ := List.exists_cons_of_ne_nil (String.utf8EncodeChar_ne_nil (c := d))
      rw [toBytes, toBytes, List.flatMap_cons, hd]
      exact List.nil_lt_cons b _
  | cons c s ih =>
    cases t with
    | nil => cases h
    | cons d t =>
      rw [compareTexts] at h
      split_ifs at h with hlt heq
      · exact utf8EncodeChar_append_lt hlt _ _
      · subst heq
        exact List.append_left_lt (ih h)

theorem compareTexts_eq_lt {s t : Text} : compareTexts s t = .lt ↔ toBytes s < toBytes t := by
  refine ⟨toBytes_lt_of_compareTexts, fun h => ?_⟩
  cases hcompare : compareTexts s t with
  | lt => rfl
  | eq =>
    rw [Std.LawfulEqCmp.eq_of_compare hcompare] at h
    exact absurd h (List.lt_irrefl _)
  | gt => exact absurd (toBytes_lt_of_compareTexts (Std.OrientedCmp.lt_of_gt hcompare)) (List.lt_asymm h)

theorem toBytes_inj {s t : Text} : toBytes s = toBytes t ↔ s = t := by
  refine ⟨fun h => ?_, congrArg toBytes⟩
  cases hcompare : compareTexts s t with
  | eq => exact Std.LawfulEqCmp.eq_of_compare hcompare
  | lt =>
    have hlt := toBytes_lt_of_compareTexts hcompare
    rw [h] at hlt
    exact absurd hlt (List.lt_irrefl _)
  | gt =>
    have hlt := toBytes_lt_of_compareTexts (Std.OrientedCmp.lt_of_gt hcompare)
    rw [h] at hlt
    exact absurd hlt (List.lt_irrefl _)

/-! ### Values -/

namespace Value

/-- The value comes before the other in ascending order. -/
inductive Less : Value → Value → Prop
  | null_integer (n : Int) : Less .null (.integer n)
  | null_text (s : Text) : Less .null (.text s)
  | integer {m n : Int} : m < n → Less (.integer m) (.integer n)
  | integer_text (n : Int) (s : Text) : Less (.integer n) (.text s)
  | text {s t : Text} : toBytes s < toBytes t → Less (.text s) (.text t)

@[simp] theorem order_integer (m n : Int) : order (.integer m) (.integer n) = compare m n := by
  show compareNumbers m n = compareOfLessAndEq m n
  simp only [compareNumbers, compareOfLessAndEq, Rat.intCast_lt_intCast, Rat.intCast_inj]

@[simp] theorem order_text (s t : Text) : order (.text s) (.text t) = compareTexts s t := rfl

instance : Std.TransCmp order where
  eq_swap {a b} := by
    cases a <;> cases b
    case integer.integer m n =>
      rw [order_integer, order_integer]
      exact Std.OrientedCmp.eq_swap
    case text.text s t =>
      rw [order_text, order_text]
      exact Std.OrientedCmp.eq_swap
    all_goals rfl
  isLE_trans {a b c} hab hbc := by
    cases a <;> cases b <;> cases c
    case integer.integer.integer l m n =>
      rw [order_integer] at *
      exact Std.TransCmp.isLE_trans hab hbc
    case text.text.text r s t =>
      rw [order_text] at *
      exact Std.TransCmp.isLE_trans hab hbc
    all_goals first | rfl | exact absurd hab Bool.false_ne_true | exact absurd hbc Bool.false_ne_true

instance : Std.LawfulEqCmp order where
  eq_of_compare {a b} h := by
    cases a <;> cases b
    case integer.integer m n =>
      rw [order_integer] at h
      rw [Std.LawfulEqCmp.eq_of_compare h]
    case text.text s t =>
      rw [order_text] at h
      rw [Std.LawfulEqCmp.eq_of_compare h]
    all_goals first | rfl | exact nomatch h

theorem order_eq_lt {a b : Value} : order a b = .lt ↔ Less a b := by
  constructor
  · intro h
    cases a <;> cases b
    case null.integer n => exact .null_integer n
    case null.text s => exact .null_text s
    case integer.integer m n =>
      rw [order_integer] at h
      exact .integer (Int.compare_eq_lt.1 h)
    case integer.text n s => exact .integer_text n s
    case text.text s t => exact .text (compareTexts_eq_lt.1 h)
    all_goals exact nomatch h
  · intro h
    cases h with
    | integer h =>
      rw [order_integer]
      exact Int.compare_eq_lt.2 h
    | text h => exact compareTexts_eq_lt.2 h
    | _ => rfl

end Value

end Sql

end Roster
