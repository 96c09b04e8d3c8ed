/-
# Counters that skip zero

A counter that runs from `1` to `n` and starts again at `1`.  It may be started
anywhere; after its first step it goes round the numbers `1, …, n`, and
`iterate_tick` gives the number it is at after any number of steps.
-/

import Mathlib.Data.Nat.ModEq
import Mathlib.Logic.Function.Iterate
import Mathlib.Tactic.Common

namespace Basis

variable {n : ℕ}

/-- The number after `v`. -/
def tick (n v : ℕ) : ℕ := v % n + 1

/-- **The number after `k + 1` steps.** -/
theorem iterate_tick (n v k : ℕ) : (tick n)^[k + 1] v = (v + k) % n + 1 := by
  induction k with
  | zero => rfl
  | succ k ih =>
      rw [Function.iterate_succ_apply', ih, tick, Nat.mod_add_mod, Nat.add_assoc]

/-- Numbers that are fewer than `n` steps apart are different. -/
theorem iterate_tick_ne (v : ℕ) {i j : ℕ} (hij : i < j) (hj : j < i + n) :
    (tick n)^[i + 1] v ≠ (tick n)^[j + 1] v := by
  rw [iterate_tick, iterate_tick]
  intro heq
  have hmod : v + i ≡ v + j [MOD n] := Nat.succ_injective heq
  have hdvd := (Nat.modEq_iff_dvd' (by omega)).1 hmod
  have hle := Nat.le_of_dvd (by omega) hdvd
  omega

/-- The counter repeats itself after `n` steps and their multiples, and after no
others. -/
theorem iterate_tick_periodic_iff (v p : ℕ) :
    (∀ k, (tick n)^[k + p + 1] v = (tick n)^[k + 1] v) ↔ n ∣ p := by
  simp only [iterate_tick]
  constructor
  · intro h
    have hmod : v ≡ v + p [MOD n] := by
      have := h 0
      exact (Nat.succ_injective (by simpa using this)).symm
    have hdvd := (Nat.modEq_iff_dvd' (Nat.le_add_right v p)).1 hmod
    rwa [Nat.add_sub_cancel_left] at hdvd
  · rintro ⟨q, rfl⟩ k
    rw [← Nat.add_assoc, Nat.add_mul_mod_self_left]

end Basis
