/-
# Runs in fair rounds

A rule for showing that something happens in a run.  A state in which it is waited for
has a measure, and names the work that has to be done next; no step makes the measure
larger, and doing that work makes it smaller, or the wait is over (`Measured`).  A run
is cut in rounds, and what makes a round fair is up to the system.  If in a fair round
the work that has to be done is done, the wait is over after as many rounds as the
measure says (`Measured.happens`).
-/

import Webfuse.Basis.Machine

namespace Basis

variable {S E O K : Type} {M : Machine S E O}

/-- `P h s n k`: after what happened in `h` and in the state `s` the event is waited for,
with measure `n` and the work `k` to be done next. -/
structure Measured (M : Machine S E O) (C : List (Entry S E O) → Entry S E O → Prop)
    (Allowed : E → Prop) (Happens : Entry S E O → Prop) (Does : E → K → Prop)
    (P : List (Entry S E O) → S → ℕ → K → Prop) : Prop where
  pos : ∀ h s n k, P h s n k → 0 < n
  step : ∀ h s n k e, P h s n k → Allowed e → C h (M.entry s e) → Happens (M.entry s e) ∨
    ∃ n' k', P (h ++ [M.entry s e]) (M.step s e).1 n' k' ∧
      (n' < n ∨ n' = n ∧ k' = k ∧ ¬ Does e k)

/-- The rounds of a run meet `F`, each after what happened before it. -/
def Machine.RoundsFrom (M : Machine S E O) (F : List (Entry S E O) → S → List E → Prop) :
    List (Entry S E O) → S → List (List E) → Prop
  | _, _, [] => True
  | h, s, r :: rounds =>
      F h s r ∧ M.RoundsFrom F (h ++ M.traceFrom s r) (M.stateFrom s r) rounds

/-- Every event of a run has its step. -/
theorem Machine.map_event_traceFrom (M : Machine S E O) (s : S) (evs : List E) :
    (M.traceFrom s evs).map Entry.event = evs := by
  induction evs generalizing s with
  | nil => rfl
  | cons e evs ih => rw [traceFrom, List.map_cons, ih]; rfl

theorem Machine.eq_entry_of_mem {s : S} {evs : List E} {x : Entry S E O}
    (h : x ∈ M.traceFrom s evs) : x = M.entry x.pre x.event := by
  induction evs generalizing s with
  | nil => exact absurd h List.not_mem_nil
  | cons e evs ih =>
      rcases List.mem_cons.1 h with rfl | h
      · rfl
      · exact ih h

namespace Measured

variable {C : List (Entry S E O) → Entry S E O → Prop} {Allowed : E → Prop}
  {Happens : Entry S E O → Prop} {Does : E → K → Prop}
  {P : List (Entry S E O) → S → ℕ → K → Prop}

/-- The wait is over, or the measure is smaller, or nobody has done the work and it was
to be done all the time. -/
theorem round (hM : Measured M C Allowed Happens Does P) {h : List (Entry S E O)} {s : S} {n : ℕ}
    {k : K} {evs : List E} (hP : P h s n k) (hall : ∀ e ∈ evs, Allowed e)
    (hC : M.AdmitsFrom C h s evs) :
    (∃ x ∈ M.traceFrom s evs, Happens x) ∨
      ∃ n' k', P (h ++ M.traceFrom s evs) (M.stateFrom s evs) n' k' ∧
        (n' < n ∨ n' = n ∧ k' = k ∧
          ∀ x ∈ M.traceFrom s evs, ¬ Does x.event k ∧ ∃ h', P h' x.pre n k) := by
  induction evs generalizing h s n k with
  | nil =>
      refine .inr ⟨n, k, ?_, .inr ⟨rfl, rfl, nofun⟩⟩
      rwa [Machine.traceFrom, List.append_nil]
  | cons e evs ih =>
      obtain ⟨he, hC⟩ := hC
      have hrest : ∀ e ∈ evs, Allowed e := fun e' he' => hall e' (List.mem_cons_of_mem _ he')
      rcases hM.step h s n k e hP (hall e (List.mem_cons_self ..)) he with
        hdone | ⟨n₁, k₁, hP₁, hstep⟩
      · exact .inl ⟨_, List.mem_cons_self .., hdone⟩
      · rcases ih hP₁ hrest hC with ⟨x, hx, hdone⟩ | ⟨n₂, k₂, hP₂, hround⟩
        · exact .inl ⟨x, List.mem_cons_of_mem _ hx, hdone⟩
        · refine .inr ⟨n₂, k₂, ?_, ?_⟩
          · rwa [List.append_assoc, List.singleton_append] at hP₂
          · rcases hstep with hlt | ⟨rfl, rfl, hnot⟩
            · left
              rcases hround with hlt' | ⟨rfl, -, -⟩
              · exact hlt'.trans hlt
              · exact hlt
            · rcases hround with hlt' | ⟨rfl, rfl, hidle⟩
              · exact .inl hlt'
              · refine .inr ⟨rfl, rfl, ?_⟩
                intro x hx
                rcases List.mem_cons.1 hx with rfl | hx
                · exact ⟨hnot, h, hP⟩
                · exact hidle x hx

/-- **In a run of fair rounds, what is waited for happens.** -/
theorem happens (hM : Measured M C Allowed Happens Does P)
    {F : List (Entry S E O) → S → List E → Prop}
    (hall : ∀ h s evs, F h s evs → ∀ e ∈ evs, Allowed e)
    (hfair : ∀ h s n k evs, P h s n k → F h s evs →
      (∀ x ∈ M.traceFrom s evs, ∃ h', P h' x.pre n k) →
        ∃ x ∈ M.traceFrom s evs, Does x.event k)
    {h : List (Entry S E O)} {s : S} {n : ℕ} {k : K} {rounds : List (List E)} (hP : P h s n k)
    (hn : n ≤ rounds.length) (hC : M.AdmitsFrom C h s rounds.flatten)
    (hF : M.RoundsFrom F h s rounds) : ∃ x ∈ M.traceFrom s rounds.flatten, Happens x := by
  induction rounds generalizing h s n k with
  | nil => exact absurd (hM.pos h s n k hP) (Nat.not_lt.2 hn)
  | cons r rounds ih =>
      obtain ⟨hr, hF⟩ := hF
      rw [List.flatten_cons] at hC ⊢
      obtain ⟨hCr, hC⟩ := (Machine.admitsFrom_append _ _ _ _).1 hC
      rw [Machine.traceFrom_append]
      rcases hM.round hP (hall h s r hr) hCr with ⟨x, hx, hdone⟩ | ⟨n', k', hP', hround⟩
      · exact ⟨x, List.mem_append_left _ hx, hdone⟩
      · have hlt : n' < n := by
          rcases hround with hlt | ⟨-, -, hidle⟩
          · exact hlt
          · obtain ⟨x, hx, hdoes⟩ := hfair h s n k r hP hr fun x hx => (hidle x hx).2
            exact absurd hdoes (hidle x hx).1
        have hlen : n' ≤ rounds.length := by
          rw [List.length_cons] at hn
          omega
        obtain ⟨x, hx, hdone⟩ := ih hP' hlen hC hF
        exact ⟨x, List.mem_append_right _ hx, hdone⟩

end Measured

end Basis
