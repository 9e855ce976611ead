import Roster.Proofs.Sql.Order
import Roster.Users.Database

/-!
# The order of users

Users are ordered by the first term of an order on which they differ. Since usernames are distinct, an order with the username among its terms leaves no two users tied, so there is one way only to put users in that order.
-/

namespace Roster

open Text Sql

/-- The user comes before the other by this term alone. -/
def SortTerm.Precedes (t : SortTerm) (u v : User) : Prop :=
  match t.direction with
  | .ascending => Value.Less (Database.sortKey t.column u) (Database.sortKey t.column v)
  | .descending => Value.Less (Database.sortKey t.column v) (Database.sortKey t.column u)

/-- The user comes before the other: by the first term, or, where they agree on it, by the terms after it. -/
def SortOrder.Precedes : SortOrder → User → User → Prop
  | [], _, _ => False
  | t :: order, u, v =>
    t.Precedes u v ∨ Database.sortKey t.column u = Database.sortKey t.column v ∧ SortOrder.Precedes order u v

namespace Database

/-- The order of two users by one term. -/
def compareByTerm (t : SortTerm) (u v : User) : Ordering :=
  match t.direction with
  | .ascending => Value.order (sortKey t.column u) (sortKey t.column v)
  | .descending => Value.order (sortKey t.column v) (sortKey t.column u)

section

variable {t : SortTerm} {u v : User}

theorem compareByTerm_of_ascending (h : t.direction = .ascending) :
    compareByTerm t u v = Value.order (sortKey t.column u) (sortKey t.column v) := by
  rw [compareByTerm, h]

theorem compareByTerm_of_descending (h : t.direction = .descending) :
    compareByTerm t u v = Value.order (sortKey t.column v) (sortKey t.column u) := by
  rw [compareByTerm, h]

theorem compareByTerm_eq_eq : compareByTerm t u v = .eq ↔ sortKey t.column u = sortKey t.column v := by
  cases h : t.direction with
  | ascending => rw [compareByTerm_of_ascending h, Std.LawfulEqCmp.compare_eq_iff_eq]
  | descending => rw [compareByTerm_of_descending h, Std.LawfulEqCmp.compare_eq_iff_eq, eq_comm]

theorem compareByTerm_eq_lt : compareByTerm t u v = .lt ↔ t.Precedes u v := by
  cases h : t.direction with
  | ascending => rw [compareByTerm_of_ascending h, Value.order_eq_lt, SortTerm.Precedes, h]
  | descending => rw [compareByTerm_of_descending h, Value.order_eq_lt, SortTerm.Precedes, h]

end

instance (t : SortTerm) : Std.TransCmp (compareByTerm t) where
  eq_swap {u v} := by
    cases h : t.direction with
    | ascending =>
      rw [compareByTerm_of_ascending h, compareByTerm_of_ascending h]
      exact Std.OrientedCmp.eq_swap
    | descending =>
      rw [compareByTerm_of_descending h, compareByTerm_of_descending h]
      exact Std.OrientedCmp.eq_swap
  isLE_trans {u v w} huv hvw := by
    cases h : t.direction with
    | ascending =>
      rw [compareByTerm_of_ascending h] at *
      exact Std.TransCmp.isLE_trans huv hvw
    | descending =>
      rw [compareByTerm_of_descending h] at *
      exact Std.TransCmp.isLE_trans hvw huv

theorem compareBy_cons (t : SortTerm) (order : SortOrder) :
    compareBy (t :: order) = compareLex (compareByTerm t) (compareBy order) := by
  funext u v
  rw [compareBy, compareLex]
  cases h : t.direction with
  | ascending => rw [compareByTerm_of_ascending h]
  | descending => rw [compareByTerm_of_descending h, ← Std.OrientedCmp.eq_swap]

instance (order : SortOrder) : Std.TransCmp (compareBy order) := by
  induction order with
  | nil =>
    have horiented : Std.OrientedCmp (compareBy []) := ⟨rfl⟩
    exact ⟨fun _ _ => rfl⟩
  | cons t order ih =>
    rw [compareBy_cons]
    infer_instance

theorem compareBy_eq_lt {order : SortOrder} {u v : User} : compareBy order u v = .lt ↔ order.Precedes u v := by
  induction order with
  | nil => simp [compareBy, SortOrder.Precedes]
  | cons t order ih =>
    rw [compareBy_cons, compareLex, Ordering.then_eq_lt, compareByTerm_eq_lt, compareByTerm_eq_eq, ih,
      SortOrder.Precedes]

theorem sortKey_eq_of_compareBy {order : SortOrder} {u v : User} (h : compareBy order u v = .eq) :
    ∀ t ∈ order, sortKey t.column u = sortKey t.column v := by
  induction order with
  | nil => simp
  | cons t order ih =>
    rw [compareBy_cons, compareLex, Ordering.then_eq_eq, compareByTerm_eq_eq] at h
    exact List.forall_mem_cons.2 ⟨h.1, ih h.2⟩

@[simp] theorem sortKey_username (u : User) : sortKey Column.username.name u = .text u.username := rfl

/-- Users with distinct names are put in an order that has the name among its terms, without ties. -/
theorem pairwise_mergeSort {order : SortOrder} (hname : ∃ t ∈ order, t.column = Column.username.name)
    {users : List User} (hunique : (users.map User.username).Nodup) :
    (users.mergeSort fun u v => (compareBy order u v).isLE).Pairwise order.Precedes := by
  have htotal (u v : User) : ((compareBy order u v).isLE || (compareBy order v u).isLE) = true := by
    have hswap : compareBy order v u = (compareBy order u v).swap := Std.OrientedCmp.eq_swap
    rw [hswap]
    cases compareBy order u v <;> rfl
  have hsorted := List.pairwise_mergeSort (fun _ _ _ => Std.TransCmp.isLE_trans) htotal users
  have hperm := List.mergeSort_perm users fun u v => (compareBy order u v).isLE
  have hdistinct := List.pairwise_map.1 ((hperm.map User.username).nodup_iff.2 hunique)
  refine hsorted.imp₂ (fun u v hle hne => ?_) hdistinct
  rw [← compareBy_eq_lt]
  rcases Ordering.isLE_iff_eq_lt_or_eq_eq.1 hle with hlt | heq
  · exact hlt
  · obtain ⟨t, ht, hcolumn⟩ := hname
    have hkey := sortKey_eq_of_compareBy heq t ht
    rw [hcolumn, sortKey_username, sortKey_username] at hkey
    exact absurd (Value.text.inj hkey) hne

/-- Two lists of the same users that are in order are the same. -/
theorem eq_of_perm {order : SortOrder} {users users' : List User} (hperm : users.Perm users')
    (h : users.Pairwise order.Precedes) (h' : users'.Pairwise order.Precedes) : users = users' := by
  refine hperm.eq_of_pairwise (fun u v _ _ huv hvu => ?_) h h'
  rw [← compareBy_eq_lt] at huv hvu
  exact absurd hvu (Std.OrientedCmp.not_lt_of_lt huv)

end Database

end Roster
