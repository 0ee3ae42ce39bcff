/-!
# ChainParams — outcomes

An outcome is a value or an error. Where one of the two is mapped the other is left alone, so a
mapped outcome tells what the outcome was.

* `map_eq_ok_iff`, `map_eq_error_iff`           — outcomes with their values mapped.
* `mapError_eq_ok_iff`, `mapError_eq_error_iff` — outcomes with their errors mapped.
-/

namespace ChainParams

variable {ε δ α β : Type}

/-- A mapped value comes from a value. -/
theorem map_eq_ok_iff {f : α → β} {x : Except ε α} {b : β} :
    x.map f = .ok b ↔ ∃ a, x = .ok a ∧ f a = b := by
  cases x with
  | error e => simp [Except.map]
  | ok a => simp [Except.map]

/-- Mapping values neither makes errors nor removes them. -/
theorem map_eq_error_iff {f : α → β} {x : Except ε α} {e : ε} :
    x.map f = .error e ↔ x = .error e := by
  cases x with
  | error e' => simp [Except.map]
  | ok a => simp [Except.map]

/-- Mapping errors neither makes values nor removes them. -/
theorem mapError_eq_ok_iff {f : ε → δ} {x : Except ε α} {a : α} :
    x.mapError f = .ok a ↔ x = .ok a := by
  cases x with
  | error e => constructor <;> intro h <;> cases h
  | ok a' =>
    constructor
    · intro h
      rw [Except.ok.inj h]
    · intro h
      rw [Except.ok.inj h]
      rfl

/-- A mapped error comes from an error. -/
theorem mapError_eq_error_iff {f : ε → δ} {x : Except ε α} {d : δ} :
    x.mapError f = .error d ↔ ∃ e, x = .error e ∧ f e = d := by
  cases x with
  | error e =>
    constructor
    · intro h
      exact ⟨e, rfl, Except.error.inj h⟩
    · rintro ⟨e', he, rfl⟩
      cases he
      rfl
  | ok a =>
    constructor
    · intro h
      cases h
    · rintro ⟨e, he, -⟩
      cases he

end ChainParams
