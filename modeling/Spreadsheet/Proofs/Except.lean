import Mathlib

/-! # Computations that can fail

What a sequence of computations gives, by what each of them gives.
-/

namespace Except

variable {ε ε' α β : Type} {a : α} {b : β} {e : ε} {f : α → Except ε β} {x : Except ε α}

@[simp] theorem pure_eq_ok : (pure a : Except ε α) = ok a := rfl

@[simp] theorem throw_eq_error : (throw e : Except ε α) = error e := rfl

@[simp] theorem ok_bind : (ok a : Except ε α) >>= f = f a := rfl

@[simp] theorem error_bind : (error e : Except ε α) >>= f = error e := rfl

theorem bind_eq_ok_iff : x >>= f = ok b ↔ ∃ a, x = ok a ∧ f a = ok b := by
  cases x <;> simp

theorem map_eq_ok_iff {g : α → β} : x.map g = ok b ↔ ∃ a, x = ok a ∧ g a = b := by
  cases x <;> simp [Except.map]

theorem map_eq_error_iff {g : α → β} : x.map g = error e ↔ x = error e := by
  cases x <;> simp [Except.map]

theorem mapError_eq_ok_iff {g : ε → ε'} : x.mapError g = ok a ↔ x = ok a := by
  cases x <;> simp [Except.mapError]

theorem mapError_eq_error_iff {g : ε → ε'} {e' : ε'} :
    x.mapError g = error e' ↔ ∃ e, x = error e ∧ g e = e' := by
  cases x <;> simp [Except.mapError]

theorem mapError_bind {g : ε → ε'} :
    (x >>= f).mapError g = x.mapError g >>= fun a => (f a).mapError g := by
  cases x <;> rfl

end Except
