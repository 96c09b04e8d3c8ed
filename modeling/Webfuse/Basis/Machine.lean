/-
# Machines that take events and have effects

A `Machine` answers one event at a time: it changes its state and has a list
of effects.  A run is the list of its events; `Machine.state` is the state it
ends in and `Machine.trace` what happened, one `Entry` per event with the state
before it and the effects it had.

An environment is allowed only some events, and a condition may be asked of the
steps of a run.  Both are predicates of what happened so far and of the step to
be taken, and `Machine.Admits C evs` says that every step of the run meets `C`.
`Machine.invariant` is the induction over runs: what holds at the start and is
kept by every step that meets `C` holds after every run that `C` admits.
`Machine.marked_kept` compares a run with the run without some of its steps.

`collect` gathers the effects of a kind over a run, and `Occurs Ps l` says that
entries with the properties `Ps` occur in `l` in this order.
-/

import Mathlib.Algebra.Group.Nat.Defs
import Mathlib.Data.List.Induction
import Mathlib.Data.UInt
import Mathlib.Tactic.Common

namespace Basis

/-- A state, and an answer to every event in every state. -/
structure Machine (S E O : Type) where
  init : S
  step : S → E → S × List O

/-- One step of a run: the state before it, its event and its effects. -/
structure Entry (S E O : Type) where
  pre : S
  event : E
  effects : List O

variable {S E O : Type}

namespace Machine

variable (M : Machine S E O)

/-- The step the machine takes in state `s` at event `e`. -/
def entry (s : S) (e : E) : Entry S E O := ⟨s, e, (M.step s e).2⟩

/-- The state after the events `evs`, started in `s`. -/
def stateFrom (s : S) (evs : List E) : S := evs.foldl (fun s e => (M.step s e).1) s

/-- What happens at the events `evs`, started in `s`. -/
def traceFrom : S → List E → List (Entry S E O)
  | _, [] => []
  | s, e :: evs => M.entry s e :: traceFrom (M.step s e).1 evs

/-- The state after a run. -/
def state (evs : List E) : S := M.stateFrom M.init evs

/-- What happened in a run. -/
def trace (evs : List E) : List (Entry S E O) := M.traceFrom M.init evs

theorem state_append_singleton (evs : List E) (e : E) :
    M.state (evs ++ [e]) = (M.step (M.state evs) e).1 := by
  simp [state, stateFrom]

theorem traceFrom_append (s : S) (evs evs' : List E) :
    M.traceFrom s (evs ++ evs') = M.traceFrom s evs ++ M.traceFrom (M.stateFrom s evs) evs' := by
  induction evs generalizing s with
  | nil => rfl
  | cons e evs ih => simp [traceFrom, stateFrom, ih]

theorem trace_append_singleton (evs : List E) (e : E) :
    M.trace (evs ++ [e]) = M.trace evs ++ [M.entry (M.state evs) e] :=
  M.traceFrom_append M.init evs [e]

/-- Every step at the events `evs` meets `C`, after what happened in `h` and
from the state `s`. -/
def AdmitsFrom (C : List (Entry S E O) → Entry S E O → Prop) :
    List (Entry S E O) → S → List E → Prop
  | _, _, [] => True
  | h, s, e :: evs => C h (M.entry s e) ∧ AdmitsFrom C (h ++ [M.entry s e]) (M.step s e).1 evs

instance AdmitsFrom.decidable (C : List (Entry S E O) → Entry S E O → Prop)
    [∀ h x, Decidable (C h x)] : ∀ h s evs, Decidable (M.AdmitsFrom C h s evs)
  | _, _, [] => .isTrue trivial
  | h, s, e :: evs =>
      @instDecidableAnd _ _ _ (AdmitsFrom.decidable C (h ++ [M.entry s e]) (M.step s e).1 evs)

/-- Every step of the run meets `C`. -/
def Admits (C : List (Entry S E O) → Entry S E O → Prop) (evs : List E) : Prop :=
  M.AdmitsFrom C [] M.init evs

instance (C : List (Entry S E O) → Entry S E O → Prop) [∀ h x, Decidable (C h x)]
    (evs : List E) : Decidable (M.Admits C evs) :=
  AdmitsFrom.decidable M C [] M.init evs

variable {M} {C : List (Entry S E O) → Entry S E O → Prop}

theorem admitsFrom_append (h : List (Entry S E O)) (s : S) (evs evs' : List E) :
    M.AdmitsFrom C h s (evs ++ evs') ↔ M.AdmitsFrom C h s evs ∧
      M.AdmitsFrom C (h ++ M.traceFrom s evs) (M.stateFrom s evs) evs' := by
  induction evs generalizing h s with
  | nil => simp [AdmitsFrom, traceFrom, stateFrom]
  | cons e evs ih => simp [AdmitsFrom, traceFrom, stateFrom, ih, and_assoc]

/-- A run is admitted when what it is without its last step is, and that step
meets `C`. -/
theorem admits_append_singleton (evs : List E) (e : E) :
    M.Admits C (evs ++ [e]) ↔
      M.Admits C evs ∧ C (M.trace evs) (M.entry (M.state evs) e) := by
  simp [Admits, admitsFrom_append, AdmitsFrom, trace, state]

theorem Admits.of_prefix {evs evs' : List E} (h : M.Admits C evs) (hpre : evs' <+: evs) :
    M.Admits C evs' := by
  obtain ⟨rest, rfl⟩ := hpre
  exact ((admitsFrom_append _ _ _ _).1 h).1

/-- **Induction over the runs of a machine.**  What holds at the start and is
kept by every step that meets `C` holds after every run whose steps meet `C`. -/
theorem invariant {P : List (Entry S E O) → S → Prop} (h₀ : P [] M.init)
    (hstep : ∀ h s e, P h s → C h (M.entry s e) → P (h ++ [M.entry s e]) (M.step s e).1)
    (evs : List E) (hC : M.Admits C evs) : P (M.trace evs) (M.state evs) := by
  induction evs using List.reverseRecOn with
  | nil => exact h₀
  | append_singleton evs e ih =>
      obtain ⟨hC, he⟩ := (admits_append_singleton evs e).1 hC
      rw [trace_append_singleton, state_append_singleton]
      exact hstep _ _ _ (ih hC) he

/-- Every run meets a condition that every step meets. -/
theorem admits_of_forall (hC : ∀ h x, C h x) (evs : List E) : M.Admits C evs := by
  induction evs using List.reverseRecOn with
  | nil => trivial
  | append_singleton evs e ih => exact (admits_append_singleton evs e).2 ⟨ih, hC _ _⟩

/-- A run whose steps meet a condition meets a weaker one. -/
theorem Admits.mono {C' : List (Entry S E O) → Entry S E O → Prop} (hC : ∀ h x, C h x → C' h x)
    {evs : List E} (h : M.Admits C evs) : M.Admits C' evs := by
  induction evs using List.reverseRecOn with
  | nil => trivial
  | append_singleton evs e ih =>
      obtain ⟨hinit, hlast⟩ := (admits_append_singleton evs e).1 h
      exact (admits_append_singleton evs e).2 ⟨ih hinit, hC _ _ hlast⟩

/-! ### Inserted steps -/

variable (M) in
/-- The machine at events that are marked where they are inserted in a run. -/
def marked : Machine S (E × Bool) O := ⟨M.init, fun s e => M.step s e.1⟩

/-- The run without the inserted events. -/
def kept (evs : List (E × Bool)) : List E := (evs.filter fun e => !e.2).map Prod.fst

/-- What happened at the events that are not inserted. -/
def keptTrace (h : List (Entry S (E × Bool) O)) : List (Entry S E O) :=
  (h.filter fun x => !x.event.2).map fun x => ⟨x.pre, x.event.1, x.effects⟩

/-- **Steps that leave the state can be left out**: the run without them ends in the
same state, and the same happens in its steps. -/
theorem marked_kept {C : List (Entry S (E × Bool) O) → Entry S (E × Bool) O → Prop}
    (hC : ∀ h s e, C h (M.marked.entry s (e, true)) → (M.step s e).1 = s)
    {evs : List (E × Bool)} (h : M.marked.Admits C evs) :
    M.marked.state evs = M.state (kept evs) ∧
      keptTrace (M.marked.trace evs) = M.trace (kept evs) := by
  induction evs using List.reverseRecOn with
  | nil => exact ⟨rfl, rfl⟩
  | append_singleton evs e ih =>
      obtain ⟨h, he⟩ := (admits_append_singleton evs e).1 h
      obtain ⟨hstate, htrace⟩ := ih h
      obtain ⟨e, inserted⟩ := e
      rw [state_append_singleton, trace_append_singleton]
      cases inserted with
      | true =>
          have hkept : kept (evs ++ [(e, true)]) = kept evs := by simp [kept]
          have hlast : keptTrace (M.marked.trace evs ++ [M.marked.entry (M.marked.state evs)
              (e, true)]) = keptTrace (M.marked.trace evs) := by
            simp [keptTrace, entry]
          rw [hkept, hlast, ← hstate]
          exact ⟨hC _ _ _ he, htrace⟩
      | false =>
          have hkept : kept (evs ++ [(e, false)]) = kept evs ++ [e] := by simp [kept]
          have hlast : keptTrace (M.marked.trace evs ++ [M.marked.entry (M.marked.state evs)
              (e, false)]) =
                keptTrace (M.marked.trace evs) ++ [M.entry (M.marked.state evs) e] := by
            simp [keptTrace, entry, marked]
          rw [hkept, hlast, state_append_singleton, trace_append_singleton, htrace, hstate]
          exact ⟨rfl, rfl⟩

end Machine

/-- The effects of a kind, in the order they had. -/
def collect {β : Type} (f : O → Option β) (h : List (Entry S E O)) : List β :=
  h.flatMap fun x => x.effects.filterMap f

@[simp] theorem collect_append_singleton {β : Type} (f : O → Option β) (h : List (Entry S E O))
    (x : Entry S E O) : collect f (h ++ [x]) = collect f h ++ x.effects.filterMap f := by
  simp [collect]

variable {α : Type}

/-- An entry of a list that grew by `y` is `y`, after all of the list, or was in the
list before, after the same entries. -/
theorem split_append_singleton {l l₁ l₂ : List α} {x y : α} (h : l ++ [y] = l₁ ++ x :: l₂) :
    (l = l₁ ∧ y = x) ∨ ∃ l₂', l = l₁ ++ x :: l₂' := by
  rcases l₂.eq_nil_or_concat with rfl | ⟨l₂, z, rfl⟩
  · obtain ⟨hl, hx⟩ := List.append_inj' h rfl
    exact .inl ⟨hl, List.singleton_inj.1 hx⟩
  · rw [List.concat_eq_append, ← List.cons_append, ← List.append_assoc] at h
    exact .inr ⟨l₂, List.append_inj_left' h rfl⟩

/-- Entries with the properties `Ps` occur in the list, in this order. -/
def Occurs : List (α → Prop) → List α → Prop
  | [], _ => True
  | _ :: _, [] => False
  | P :: Ps, x :: l => (P x ∧ Occurs Ps l) ∨ Occurs (P :: Ps) l

/-- In a list that grew by `x`, either the properties occurred before or `x` is
the last of them. -/
theorem occurs_append_singleton (Ps : List (α → Prop)) (P : α → Prop) (l : List α) (x : α) :
    Occurs (Ps ++ [P]) (l ++ [x]) ↔ Occurs (Ps ++ [P]) l ∨ (Occurs Ps l ∧ P x) := by
  induction l generalizing Ps with
  | nil =>
      cases Ps with
      | nil => simp [Occurs]
      | cons Q Ps => cases Ps <;> simp [Occurs]
  | cons y l ih =>
      cases Ps with
      | nil =>
          have := ih []
          simp only [List.nil_append, Occurs, true_and] at this
          simp [Occurs, this, or_assoc]
      | cons Q Ps =>
          have h₁ := ih Ps
          have h₂ := ih (Q :: Ps)
          simp only [List.cons_append] at h₂
          simp only [List.cons_append, Occurs, h₁, h₂]
          rw [and_or_left, or_or_or_comm, or_and_right, and_assoc]

/-- The first of the properties occurs. -/
theorem Occurs.exists_first {P : α → Prop} {Ps : List (α → Prop)} {l : List α}
    (h : Occurs (P :: Ps) l) : ∃ x ∈ l, P x := by
  induction l with
  | nil => exact h.elim
  | cons x l ih =>
      rcases h with ⟨hx, -⟩ | h
      · exact ⟨x, List.mem_cons_self .., hx⟩
      · obtain ⟨y, hy, hP⟩ := ih h
        exact ⟨y, List.mem_cons_of_mem _ hy, hP⟩

end Basis
