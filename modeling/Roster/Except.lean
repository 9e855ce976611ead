/-!
# Outcomes

What it takes for an outcome built from others to be a success, or a failure, and how one step after the other is changed as a whole.
-/

namespace Roster

variable {ε α β : Type}

theorem except_map_eq_ok {f : α → β} {r : Except ε α} {b : β} :
    r.map f = .ok b ↔ ∃ a, r = .ok a ∧ f a = b := by
  cases r <;> simp [Except.map]

theorem except_map_eq_error {f : α → β} {r : Except ε α} {e : ε} : r.map f = .error e ↔ r = .error e := by
  cases r <;> simp [Except.map]

theorem except_bind_eq_ok {f : α → Except ε β} {r : Except ε α} {b : β} :
    (r >>= f) = .ok b ↔ ∃ a, r = .ok a ∧ f a = .ok b := by
  cases r <;> simp [bind, Except.bind]

theorem except_bind_eq_error {f : α → Except ε β} {r : Except ε α} {e : ε} :
    (r >>= f) = .error e ↔ r = .error e ∨ ∃ a, r = .ok a ∧ f a = .error e := by
  cases r <;> simp [bind, Except.bind]

theorem except_mapError_eq_ok {ε' : Type} {f : ε → ε'} {r : Except ε α} {a : α} :
    r.mapError f = .ok a ↔ r = .ok a := by
  cases r <;> constructor <;> intro h <;> cases h <;> rfl

theorem except_mapError_eq_error {ε' : Type} {f : ε → ε'} {r : Except ε α} {e' : ε'} :
    r.mapError f = .error e' ↔ ∃ e, r = .error e ∧ f e = e' := by
  cases r with
  | ok a =>
    constructor
    · intro h
      cases h
    · rintro ⟨e, h, -⟩
      cases h
  | error e =>
    constructor
    · intro h
      cases h
      exact ⟨e, rfl, rfl⟩
    · rintro ⟨e, h, rfl⟩
      cases h
      rfl

theorem except_map_map {γ : Type} (r : Except ε α) (f : α → β) (g : β → γ) : (r.map f).map g = r.map (g ∘ f) := by
  cases r <;> rfl

theorem except_map_bind {γ : Type} (r : Except ε α) (f : α → Except ε β) (g : β → γ) :
    (r >>= f).map g = r >>= fun a => (f a).map g := by
  cases r <;> rfl

theorem except_mapError_bind {ε' : Type} (r : Except ε α) (f : α → Except ε β) (g : ε → ε') :
    (r >>= f).mapError g = r.mapError g >>= fun a => (f a).mapError g := by
  cases r <;> rfl

theorem except_mapError_mapError {ε' ε'' : Type} (r : Except ε α) (f : ε → ε') (g : ε' → ε'') :
    (r.mapError f).mapError g = r.mapError (g ∘ f) := by
  cases r <;> rfl

theorem except_toOption_eq_some {r : Except ε α} {a : α} : r.toOption = some a ↔ r = .ok a := by
  cases r <;> simp [Except.toOption]

end Roster
