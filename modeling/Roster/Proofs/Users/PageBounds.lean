import Roster.Proofs.Users.Paging

/-!
# The arithmetic of pages

The number and the size of a page have 32 bits, its offset and its totals 64, and an offset is bound as a signed number of 64 bits. A deployment brings sizes down to a maximum of its own before a page brings them down once more. For a page that exists nothing is rounded, saturated or wrapped around on the way (`Page.exact_clamped`).
-/

namespace Roster

open Text Sql

/-- Only a number or a size of zero is refused. -/
theorem ServiceError.exists_checkPage_eq_error_iff {page : Page} :
    (∃ e, checkPage page = .error e) ↔ page.number = 0 ∨ page.size = 0 := by
  rw [← not_iff_not, not_or, ← checkPage_eq_ok_iff]
  cases checkPage page <;> simp

namespace Page

/-- What the numbers of a page say about a list of `total` items. -/
structure Exact (page : Page) (total : UInt64) : Prop where
  accepted : ServiceError.checkPage page = .ok ()
  limit_pos : 1 ≤ page.limit.toNat
  offset_eq : page.offset.toNat = (page.number.toNat - 1) * page.limit.toNat
  offset_lt : page.offset.toNat < 2 ^ 63
  arguments_eq : ∀ (filter : Filter.Compiled) (order : SortOrder),
    (Query.rows filter order page.limit page.offset).arguments =
      filter.parameters.map (·.value.bound) ++ [.integer page.limit.toNat, .integer page.offset.toNat]
  full : 0 < total.toNat → ((page.account total).totalPages.toNat - 1) * page.limit.toNat < total.toNat
  whole : 0 < total.toNat → total.toNat ≤ (page.account total).totalPages.toNat * page.limit.toNat
  empty : total.toNat = 0 → (page.account total).totalPages.toNat = 0
  exists_iff : page.number.toNat ≤ (page.account total).totalPages.toNat ↔ page.offset.toNat < total.toNat

section

variable {page : Page} {maximum : UInt32} {total : UInt64}

theorem offset_lt_two_pow (page : Page) : page.offset.toNat < 2 ^ 63 :=
  Nat.lt_of_le_of_lt page.offset_le_maxOffset (by decide)

/-- The limit and the offset are bound as they are. -/
theorem arguments_rows (page : Page) (filter : Filter.Compiled) (order : SortOrder) :
    (Query.rows filter order page.limit page.offset).arguments =
      filter.parameters.map (·.value.bound) ++ [.integer page.limit.toNat, .integer page.offset.toNat] := by
  rw [Query.rows, Nat.min_eq_left page.offset_le_maxOffset]

theorem divisor_ne_zero (page : Page) : (max page.limit 1).toUInt64 ≠ 0 := by
  have hpos : 0 < (max page.limit 1).toUInt64.toNat := by
    rw [divisor_toNat]
    exact Nat.lt_of_lt_of_le Nat.one_pos (Nat.le_max_right _ _)
  intro hzero
  rw [hzero] at hpos
  exact Nat.lt_irrefl 0 hpos

/-- A page that exists has an exact account. -/
theorem exact_of_ne_zero (hnumber : page.number ≠ 0) (hsize : page.size ≠ 0) : Exact page total := by
  have hlimit : 0 < page.limit.toNat := by
    have hpos : page.size.toNat ≠ 0 := fun h => hsize (UInt32.toNat_inj.1 h)
    rw [limit_toNat]
    omega
  have hpages (k : Nat) : k < (page.account total).totalPages.toNat ↔ k * page.limit.toNat < total.toNat :=
    lt_totalPages_iff hlimit
  constructor
  case accepted => exact ServiceError.checkPage_eq_ok_iff.2 ⟨hnumber, hsize⟩
  case limit_pos => exact hlimit
  case offset_eq => exact page.offset_toNat
  case offset_lt => exact page.offset_lt_two_pow
  case arguments_eq => exact page.arguments_rows
  case full =>
    intro htotal
    have hsome := (hpages 0).2 (by omega)
    exact (hpages _).1 (by omega)
  case whole =>
    intro _
    exact Nat.le_of_not_lt fun h => Nat.lt_irrefl _ ((hpages _).2 h)
  case empty =>
    intro htotal
    refine Nat.eq_zero_of_not_pos fun h => ?_
    have hsome := (hpages 0).1 h
    omega
  case exists_iff =>
    -- A page exists exactly if the pages before it do not hold all items.
    have hone : page.number.toNat ≠ 0 := fun h => hnumber (UInt32.toNat_inj.1 h)
    rw [offset_toNat, ← hpages]
    omega

theorem clamped_limit_toNat (page : Page) (maximum : UInt32) :
    (page.clamped maximum).limit.toNat = min page.size.toNat (min maximum.toNat 50000) := by
  rw [limit_toNat, clamped, UInt32.toNat_min, Nat.min_assoc]

theorem clamped_size_ne_zero (hsize : page.size ≠ 0) (hmaximum : maximum ≠ 0) : (page.clamped maximum).size ≠ 0 := by
  rw [clamped, UInt32.min_def]
  split
  · exact hsize
  · exact hmaximum

/-- A page that exists still exists when its size is brought down to a positive maximum, and all its numbers are exact, whatever the total: the limit is the least of the size, the maximum and 50000, the offset is what is before the page, the pages counted are the ones that have items. No total is divided by zero, not even for a page that does not exist; those are the ones with a number or a size of zero, and they are refused. -/
theorem exact_clamped (page : Page) (maximum : UInt32) (total : UInt64) :
    (page.number ≠ 0 → page.size ≠ 0 → maximum ≠ 0 →
      (page.clamped maximum).limit.toNat = min page.size.toNat (min maximum.toNat 50000) ∧
        Exact (page.clamped maximum) total) ∧
    ((page.account total).totalPages = ceilDiv total (max page.limit 1).toUInt64 ∧
      (max page.limit 1).toUInt64 ≠ 0) ∧
    ((∃ e, ServiceError.checkPage page = .error e) ↔ page.number = 0 ∨ page.size = 0) := by
  refine ⟨?_, ⟨rfl, page.divisor_ne_zero⟩, ServiceError.exists_checkPage_eq_error_iff⟩
  intro hnumber hsize hmaximum
  have hclamped := clamped_size_ne_zero hsize hmaximum
  exact ⟨page.clamped_limit_toNat maximum, exact_of_ne_zero hnumber hclamped⟩

/-- The last page that has a number, with the maximum above the size that a page can have; and as many items as 64 bits can count. -/
theorem exact_clamped_last :
    let page : Page := Page.clamped 60000 ⟨0xffffffff, 0xffffffff⟩
    Exact page 0xffffffffffffffff ∧ page.limit.toNat = 50000 ∧ page.offset.toNat = (2 ^ 32 - 2) * 50000 ∧
      page.number.toNat ≤ (page.account 0xffffffffffffffff).totalPages.toNat := by
  intro page
  obtain ⟨hlimit, hexact⟩ :=
    (exact_clamped ⟨0xffffffff, 0xffffffff⟩ 60000 0xffffffffffffffff).1 (by decide) (by decide) (by decide)
  refine ⟨hexact, hlimit, ?_, ?_⟩
  · rw [hexact.offset_eq, hlimit]
    decide
  · rw [hexact.exists_iff, hexact.offset_eq, hlimit]
    decide

end

end Page

end Roster
