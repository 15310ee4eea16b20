/-!
# Results in sequence

Every reader, decoder and writer that can fail is a sequence of steps, each of which gives a value
or the error that ends all. These lemmas take a sequence apart.
-/

namespace SqlFilter

variable {ε α β : Type} {x : Except ε α}

@[simp] theorem ok_bind (a : α) (f : α → Except ε β) : (Except.ok a >>= f) = f a := rfl

@[simp] theorem error_bind (e : ε) (f : α → Except ε β) :
    (Except.error e >>= f) = Except.error e := rfl

theorem bind_eq_ok {f : α → Except ε β} {b : β} :
    (x >>= f) = .ok b ↔ ∃ a, x = .ok a ∧ f a = .ok b := by
  cases x <;> simp

theorem map_eq_ok {f : α → β} {b : β} : (f <$> x) = .ok b ↔ ∃ a, x = .ok a ∧ f a = b := by
  cases x <;> simp [Functor.map, Except.map]

theorem mapError_eq_ok {δ : Type} {f : ε → δ} {a : α} : x.mapError f = .ok a ↔ x = .ok a := by
  constructor
  · intro h
    cases x with
    | ok b =>
      cases h
      rfl
    | error e => cases h
  · rintro rfl
    rfl

theorem bind_eq_error {f : α → Except ε β} {e : ε} :
    (x >>= f) = .error e ↔ x = .error e ∨ ∃ a, x = .ok a ∧ f a = .error e := by
  cases x <;> simp

/-- A sequence succeeds if its first step does, and what follows for the value it gives. -/
theorem exists_bind_eq_ok {f : α → Except ε β} :
    (∃ b, (x >>= f) = .ok b) ↔ ∃ a, x = .ok a ∧ ∃ b, f a = .ok b := by
  constructor
  · rintro ⟨b, h⟩
    obtain ⟨a, first, next⟩ := bind_eq_ok.mp h
    exact ⟨a, first, b, next⟩
  · rintro ⟨a, first, b, next⟩
    exact ⟨b, bind_eq_ok.mpr ⟨a, first, next⟩⟩

/-- What cannot fail at the end does not matter. -/
theorem exists_bind_ok {f : α → β} :
    (∃ b, (x >>= fun a => .ok (f a)) = .ok b) ↔ ∃ a, x = .ok a := by
  -- the value at the end is there as soon as the one before it is
  rw [exists_bind_eq_ok]
  constructor
  · rintro ⟨a, first, -⟩
    exact ⟨a, first⟩
  · rintro ⟨a, first⟩
    exact ⟨a, first, f a, rfl⟩

end SqlFilter
