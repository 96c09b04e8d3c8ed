/-
# Computations seen through an abstraction

A computation over concrete states does what one over abstract states does:
`Simulates Inv abs x y` says that from every state with the invariant `x` ends
in such a state and, with its states seen through `abs`, has the result of `y`,
the same value or the same exception.  The invariant is what the concrete
operations need to be right, and it holds wherever they end, also behind a
throw.

The relation is kept by sequencing, so two programs of the same shape are
compared operation by operation.
-/

import Webfuse.Basis.Delimited

namespace Basis

variable {ε σ τ β γ : Type}

/-- A result with its state seen through `abs`. -/
def mapState (abs : σ → τ) : EStateM.Result ε σ β → EStateM.Result ε τ β
  | .ok b s => .ok b (abs s)
  | .error e s => .error e (abs s)

@[simp] theorem finalState_mapState (abs : σ → τ) (r : EStateM.Result ε σ β) :
    finalState (mapState abs r) = abs (finalState r) := by
  cases r <;> rfl

@[simp] theorem throws_mapState (abs : σ → τ) (r : EStateM.Result ε σ β) :
    Throws (mapState abs r) ↔ Throws r := by
  cases r <;> simp [Throws, mapState]

/-- From the states with the invariant `x` does what `y` does, and keeps it. -/
def Simulates (Inv : σ → Prop) (abs : σ → τ) (x : EStateM ε σ β) (y : EStateM ε τ β) : Prop :=
  ∀ s, Inv s → Inv (finalState (x s)) ∧ mapState abs (x s) = y (abs s)

namespace Simulates

variable {Inv : σ → Prop} {abs : σ → τ}

theorem pure (b : β) : Simulates Inv abs (Pure.pure b : EStateM ε σ β) (Pure.pure b) :=
  fun _ hs => ⟨hs, rfl⟩

/-- What is kept and done step by step is kept and done in sequence. -/
theorem bind {x : EStateM ε σ β} {y : EStateM ε τ β} {f : β → EStateM ε σ γ}
    {g : β → EStateM ε τ γ} (hx : Simulates Inv abs x y)
    (hf : ∀ b, Simulates Inv abs (f b) (g b)) : Simulates Inv abs (x >>= f) (y >>= g) := by
  intro s hs
  obtain ⟨hinv, heq⟩ := hx s hs
  cases h : x s with
  | ok b s' =>
      rw [h] at hinv heq
      rw [bind_of_ok h, bind_of_ok heq.symm]
      exact hf b s' hinv
  | error e s' =>
      rw [h] at hinv heq
      rw [bind_of_error h, bind_of_error heq.symm]
      exact ⟨hinv, rfl⟩

end Simulates

end Basis
