/-!
# Results that may be errors

A computation in steps succeeds exactly if each of its steps does.  These lemmas take such a
computation apart without naming the errors of its steps; where two computations only differ in
their errors, both are compared after forgetting which error a failure shows.

A computation that also works on a state hands it from step to step, and stops with the state of the
step that fails.
-/

namespace IssueQuery.Outcome

variable {ε ε' α β : Type}

theorem bind_eq_ok_iff {x : Except ε α} {f : α → Except ε β} {b : β} :
    x >>= f = .ok b ↔ ∃ a, x = .ok a ∧ f a = .ok b := by
  constructor
  · intro h
    cases x with
    | error e => cases h
    | ok a => exact ⟨a, rfl, h⟩
  · rintro ⟨a, rfl, h⟩
    exact h

theorem bind_eq_error_iff {x : Except ε α} {f : α → Except ε β} {e : ε} :
    x >>= f = .error e ↔ x = .error e ∨ ∃ a, x = .ok a ∧ f a = .error e := by
  constructor
  · intro h
    cases x with
    | error e' => cases h; exact Or.inl rfl
    | ok a => exact Or.inr ⟨a, rfl, h⟩
  · rintro (rfl | ⟨a, rfl, h⟩)
    · rfl
    · exact h

theorem pure_eq_ok_iff {a b : α} : (pure a : Except ε α) = .ok b ↔ a = b :=
  Except.ok.injEq a b ▸ Iff.rfl

theorem ok_bind (a : α) (f : α → Except ε β) :
    (Except.ok a >>= f) = f a := rfl

theorem mapError_eq_ok_iff {x : Except ε α} {describe : ε → ε'} {a : α} :
    x.mapError describe = .ok a ↔ x = .ok a := by
  constructor
  · intro h
    cases x with
    | error e => cases h
    | ok b => cases h; rfl
  · rintro rfl
    rfl

theorem mapError_eq_error_iff {x : Except ε α} {describe : ε → ε'} {e' : ε'} :
    x.mapError describe = .error e' ↔ ∃ e, x = .error e ∧ describe e = e' := by
  constructor
  · intro h
    cases x with
    | error e => cases h; exact ⟨e, rfl, rfl⟩
    | ok b => cases h
  · rintro ⟨e, rfl, rfl⟩
    rfl

theorem map_eq_ok_iff {x : Except ε α} {f : α → β} {b : β} :
    x.map f = .ok b ↔ ∃ a, x = .ok a ∧ f a = b := by
  cases x with
  | error e => simp [Except.map]
  | ok a => simp [Except.map]

theorem toOption_bind (x : Except ε α) (f : α → Except ε β) :
    (x >>= f).toOption = x.toOption.bind fun a => (f a).toOption := by
  cases x with
  | error e => rfl
  | ok a => rfl

theorem toOption_eq_some_iff {x : Except ε α} {a : α} :
    x.toOption = some a ↔ x = .ok a := by
  cases x with
  | error e => simp [Except.toOption]
  | ok b => simp [Except.toOption]

/-! ## Steps on a state -/

variable {σ : Type} {x : ExceptT ε (StateM σ) α} {f : α → ExceptT ε (StateM σ) β} {s s' : σ}

/-- What a run ends with, and with which state. -/
theorem run_eq_ok_or_error (x : ExceptT ε (StateM σ) α) (s : σ) :
    (∃ a s', x.run s = (.ok a, s')) ∨ ∃ e s', x.run s = (.error e, s') := by
  obtain ⟨result, s'⟩ := x.run s
  cases result with
  | ok a => exact Or.inl ⟨a, s', rfl⟩
  | error e => exact Or.inr ⟨e, s', rfl⟩

theorem run_bind (x : ExceptT ε (StateM σ) α) (f : α → ExceptT ε (StateM σ) β) (s : σ) :
    (x >>= f).run s =
      match x.run s with
      | (.ok a, s') => (f a).run s'
      | (.error e, s') => (.error e, s') := by
  simp only [bind, ExceptT.bind, ExceptT.run, ExceptT.mk, StateT.bind]
  generalize x s = outcome
  obtain ⟨result, s'⟩ := outcome
  cases result with
  | error e => rfl
  | ok a => rfl

theorem run_bind_of_ok {a : α} (h : x.run s = (.ok a, s')) : (x >>= f).run s = (f a).run s' := by
  rw [run_bind, h]

end IssueQuery.Outcome
