/-
# Refinement of a labelled system

What a component is for is said by a system that is free to choose its steps: an
`Lts` has a step relation, and what is seen of a step are its labels.  A machine
refines it when what is seen of every run of the machine could have been seen of
the system (`Refinement.run`).

It is proved by a relation between the states of the two: they start related, and
what is seen in one step of the machine is seen in a run of the system that leads
to related states.  A step of the machine in which nothing is seen may be any
number of such steps of the system, or none.
-/

import Webfuse.Basis.Machine

namespace Basis

variable {S E O A L : Type}

/-- A start, and the steps that can be taken, with what is seen of them. -/
structure Lts (A L : Type) where
  init : A
  Step : A → List L → A → Prop

namespace Lts

variable {T : Lts A L}

/-- From `a` the system can get to `b`, and `ls` is seen on the way. -/
inductive Run (T : Lts A L) (a : A) : List L → A → Prop
  | refl : Run T a [] a
  | tail {ls ls' : List L} {b c : A} (h : Run T a ls b) (hstep : T.Step b ls' c) :
      Run T a (ls ++ ls') c

theorem Run.single {a b : A} {ls : List L} (h : T.Step a ls b) : T.Run a ls b := .tail .refl h

theorem Run.trans {a b c : A} {ls ls' : List L} (h : T.Run a ls b) (h' : T.Run b ls' c) :
    T.Run a (ls ++ ls') c := by
  induction h' with
  | refl => rwa [List.append_nil]
  | tail _ hstep ih =>
      rw [← List.append_assoc]
      exact ih.tail hstep

/-- **Induction over the runs of a system.**  What holds at the start and is kept by
every step holds after every run, of what was seen and of the state. -/
theorem Run.invariant {P : List L → A → Prop} {a b : A} {ls : List L} (h : T.Run a ls b)
    (h₀ : P [] a) (hstep : ∀ ls b ls' c, P ls b → T.Step b ls' c → P (ls ++ ls') c) : P ls b := by
  induction h with
  | refl => exact h₀
  | tail _ h ih => exact hstep _ _ _ _ ih h

end Lts

/-- Where its steps meet `C`, the machine does what the system may do. -/
structure Refinement (M : Machine S E O) (T : Lts A L)
    (C : List (Entry S E O) → Entry S E O → Prop) (view : Entry S E O → List L)
    (R : S → A → Prop) : Prop where
  init : R M.init T.init
  step : ∀ h s e a, R s a → C h (M.entry s e) →
    ∃ b, T.Run a (view (M.entry s e)) b ∧ R (M.step s e).1 b

/-- **What is seen of a run of the machine can be seen of the system.** -/
theorem Refinement.run {M : Machine S E O} {T : Lts A L}
    {C : List (Entry S E O) → Entry S E O → Prop} {view : Entry S E O → List L}
    {R : S → A → Prop} (hR : Refinement M T C view R) {evs : List E} (hC : M.Admits C evs) :
    ∃ a, T.Run T.init ((M.trace evs).flatMap view) a ∧ R (M.state evs) a := by
  have hstart : ∃ a, T.Run T.init [] a ∧ R M.init a := ⟨T.init, .refl, hR.init⟩
  refine Machine.invariant (P := fun h s => ∃ a, T.Run T.init (h.flatMap view) a ∧ R s a)
    hstart ?_ evs hC
  rintro h s e ⟨a, hrun, ha⟩ he
  obtain ⟨b, hb, hrel⟩ := hR.step h s e a ha he
  refine ⟨b, ?_, hrel⟩
  rw [List.flatMap_append, List.flatMap_singleton]
  exact hrun.trans hb

end Basis
