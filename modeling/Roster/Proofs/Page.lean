import Mathlib.Algebra.Order.Floor.Div
import Mathlib.Data.List.Basic
import Roster.Page

/-!
# Parts of a list

Page `n` of a list holds the items from `(n - 1) * s` on, at most `s` of them, where `s` is the limit of the page. Neither the offset nor the number of pages overflows, and the pages up to the last one put together are the list (`partition_part`).
-/

namespace Roster.Page

/-! ### Numbers -/

theorem limit_toNat (page : Page) : page.limit.toNat = min page.size.toNat 50000 :=
  UInt32.toNat_min page.size maxSize

/-- No more than this many items stand before any page. -/
theorem items_before_le (page : Page) : (page.number.toNat - 1) * page.limit.toNat ≤ 2 ^ 32 * 50000 := by
  have hlimit : page.limit.toNat ≤ 50000 := by
    rw [limit_toNat]
    exact Nat.min_le_right _ _
  have hnumber := page.number.toNat_lt
  exact Nat.mul_le_mul (by omega) hlimit

theorem offset_toNat (page : Page) : page.offset.toNat = (page.number.toNat - 1) * page.limit.toNat := by
  have hbefore : (if page.number = 0 then 0 else page.number - 1).toNat = page.number.toNat - 1 := by
    split
    · simp [*]
    · rename_i hne
      refine UInt32.toNat_sub_of_le _ _ (UInt32.le_iff_toNat_le.2 ?_)
      exact Nat.one_le_iff_ne_zero.2 fun h => hne (UInt32.toNat_inj.1 h)
  have hlt : (page.number.toNat - 1) * page.limit.toNat < 2 ^ 64 :=
    Nat.lt_of_le_of_lt page.items_before_le (by decide)
  rw [offset, UInt64.toNat_mul, UInt32.toNat_toUInt64, UInt32.toNat_toUInt64, hbefore, Nat.mod_eq_of_lt hlt]

theorem ceilDiv_toNat {a b : UInt64} (hb : 0 < b.toNat) : (ceilDiv a b).toNat = a.toNat ⌈/⌉ b.toNat := by
  have hmod : a % b = 0 ↔ a.toNat % b.toNat = 0 := by
    rw [← UInt64.toNat_inj, UInt64.toNat_mod]
    rfl
  have hsplit := Nat.div_add_mod a.toNat b.toNat
  have hdiv : a.toNat ⌈/⌉ b.toNat = a.toNat / b.toNat + (a.toNat % b.toNat + b.toNat - 1) / b.toNat := by
    have hsum : a.toNat + b.toNat - 1 = b.toNat * (a.toNat / b.toNat) + (a.toNat % b.toNat + b.toNat - 1) := by omega
    rw [Nat.ceilDiv_eq_add_pred_div, hsum, Nat.mul_add_div hb]
  rw [hdiv, ceilDiv]
  split
  · rename_i h
    have hnone : (0 + b.toNat - 1) / b.toNat = 0 := Nat.div_eq_of_lt (by omega)
    rw [UInt64.toNat_div, hmod.1 h, hnone]
    rfl
  · rename_i h
    have hpos : 0 < a.toNat % b.toNat := Nat.pos_of_ne_zero (mt hmod.2 h)
    have hlt := Nat.mod_lt a.toNat hb
    have hone : (a.toNat % b.toNat + b.toNat - 1) / b.toNat = 1 := by
      rw [Nat.div_eq_iff hb]
      omega
    have hbound : a.toNat / b.toNat + 1 < 2 ^ 64 := by
      have hle := Nat.le_mul_of_pos_left (a.toNat / b.toNat) hb
      have ha := a.toNat_lt
      omega
    rw [UInt64.toNat_add, UInt64.toNat_div, hone]
    exact Nat.mod_eq_of_lt hbound

theorem account_totalItems_toNat (page : Page) {total : Nat} (h : total < UInt64.size) :
    (page.account (UInt64.ofNat total)).totalItems.toNat = total := UInt64.toNat_ofNat_of_lt' h

/-- The total is never divided by zero, not even for a page of size zero. -/
theorem divisor_toNat (page : Page) : (max page.limit 1).toUInt64.toNat = max page.limit.toNat 1 := by
  rw [UInt32.toNat_toUInt64, UInt32.toNat_max]
  rfl

theorem totalPages_toNat {page : Page} (hlimit : 0 < page.limit.toNat) (total : UInt64) :
    (page.account total).totalPages.toNat = total.toNat ⌈/⌉ page.limit.toNat := by
  have hdivisor : (max page.limit 1).toUInt64.toNat = page.limit.toNat := by
    rw [divisor_toNat, Nat.max_eq_left hlimit]
  rw [account, ceilDiv_toNat (by rwa [hdivisor]), hdivisor]

theorem account_totalPages_toNat {page : Page} (hlimit : 0 < page.limit.toNat) {total : Nat} (h : total < UInt64.size) :
    (page.account (UInt64.ofNat total)).totalPages.toNat = total ⌈/⌉ page.limit.toNat := by
  rw [totalPages_toNat hlimit, UInt64.toNat_ofNat_of_lt' h]

/-- There are more than `k` pages exactly if `k` full pages do not hold all items. -/
theorem lt_totalPages_iff {page : Page} (hlimit : 0 < page.limit.toNat) {total : UInt64} {k : Nat} :
    k < (page.account total).totalPages.toNat ↔ k * page.limit.toNat < total.toNat := by
  rw [totalPages_toNat hlimit, Nat.mul_comm]
  exact lt_iff_lt_of_le_iff_le (ceilDiv_le_iff_le_mul hlimit)

/-! ### Parts -/

variable {α β : Type}

/-- The part of a list that is on the page. -/
def part (page : Page) (items : List α) : List α := (items.drop page.offset.toNat).take page.limit.toNat

theorem part_map (page : Page) (f : α → β) (items : List α) : page.part (items.map f) = (page.part items).map f := by
  rw [part, part, List.map_take, List.map_drop]

/-- The lists `data 1`, `data 2` and so on, with their accounts, are the pages of the items with at most `limit` items each. -/
structure Partition (limit : Nat) (items : List α) (data : UInt32 → List α) (account : UInt32 → Meta) : Prop where
  pageNumber : ∀ n ≠ 0, (account n).pageNumber = n
  pageSize : ∀ n ≠ 0, (account n).pageSize.toNat = limit
  totalItems : ∀ n ≠ 0, (account n).totalItems.toNat = items.length
  totalPages : ∀ n ≠ 0, (account n).totalPages.toNat = items.length ⌈/⌉ limit
  whole : items.length ⌈/⌉ limit < UInt32.size →
    (List.range' 1 (items.length ⌈/⌉ limit)).flatMap (fun n => data (UInt32.ofNat n)) = items
  full : ∀ n ≠ 0, n.toNat < items.length ⌈/⌉ limit → (data n).length = limit
  last : ∀ n ≠ 0, n.toNat = items.length ⌈/⌉ limit → 1 ≤ (data n).length ∧ (data n).length ≤ limit
  beyond : ∀ n, items.length ⌈/⌉ limit < n.toNat → data n = []

section

variable (items : List α) {size : UInt32}

theorem part_eq {n : UInt32} {k : Nat} (hk : n.toNat = k + 1) :
    part ⟨n, size⟩ items = (items.drop (k * min size.toNat 50000)).take (min size.toNat 50000) := by
  rw [part, offset_toNat, limit_toNat, hk, Nat.add_sub_cancel]

/-- The first pages put together are the beginning of the list. -/
theorem flatMap_part {count : Nat} (hcount : count < UInt32.size) :
    (List.range' 1 count).flatMap (fun n => part ⟨UInt32.ofNat n, size⟩ items) =
      items.take (count * min size.toNat 50000) := by
  induction count with
  | zero => simp
  | succ count ih =>
    have hnumber : (UInt32.ofNat (1 + count)).toNat = count + 1 := by
      rw [UInt32.toNat_ofNat_of_lt' (by omega), Nat.add_comm]
    rw [List.range'_1_concat, List.flatMap_append, ih (by omega), Nat.add_one_mul, List.take_add, List.flatMap_singleton,
      part_eq items hnumber]

theorem partition_part (hsize : size ≠ 0) (hitems : items.length < UInt64.size) :
    Partition (min size.toNat 50000) items (fun n => part ⟨n, size⟩ items)
      (fun n => account ⟨n, size⟩ (UInt64.ofNat items.length)) := by
  have hlimit : 0 < min size.toNat 50000 := by
    have hne : size.toNat ≠ 0 := fun h => hsize (UInt32.toNat_inj.1 h)
    omega
  -- The items before a page do not use up the list exactly if the page is not after the last one.
  have hpages (k : Nat) : k < items.length ⌈/⌉ min size.toNat 50000 ↔ min size.toNat 50000 * k < items.length :=
    lt_iff_lt_of_le_iff_le (ceilDiv_le_iff_le_mul hlimit)
  have hnumber {n : UInt32} (hn : n ≠ 0) : ∃ k, n.toNat = k + 1 :=
    Nat.exists_eq_succ_of_ne_zero fun h => hn (UInt32.toNat_inj.1 h)
  constructor
  case pageNumber =>
    intro n _
    rfl
  case pageSize =>
    intro n _
    exact limit_toNat ⟨n, size⟩
  case totalItems =>
    intro n _
    exact account_totalItems_toNat _ hitems
  case totalPages =>
    intro n _
    rw [account_totalPages_toNat (by rwa [limit_toNat]) hitems, limit_toNat]
  case whole =>
    intro hcount
    rw [flatMap_part items hcount, List.take_of_length_le]
    rw [Nat.mul_comm]
    exact le_smul_ceilDiv hlimit
  case full =>
    intro n hn h
    obtain ⟨k, hk⟩ := hnumber hn
    rw [hpages, hk, Nat.mul_add_one, Nat.mul_comm] at h
    rw [part_eq items hk, List.length_take, List.length_drop]
    omega
  case last =>
    intro n hn h
    obtain ⟨k, hk⟩ := hnumber hn
    have hlt := (hpages k).1 (by omega)
    rw [Nat.mul_comm] at hlt
    rw [part_eq items hk, List.length_take, List.length_drop]
    omega
  case beyond =>
    intro n h
    obtain ⟨k, hk⟩ := Nat.exists_eq_succ_of_ne_zero (Nat.ne_zero_of_lt h)
    have hle := mt (hpages k).2 (by omega)
    rw [Nat.mul_comm] at hle
    rw [part_eq items hk, List.drop_of_length_le (Nat.le_of_not_lt hle), List.take_nil]

end

end Roster.Page
