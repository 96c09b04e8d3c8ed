/-
# Walks in a tree

A place in a tree is the list of names on the way to it from the root.  A walk goes up,
down by a name, or stays where it is; going up from the root stays at the root.

Wherever it starts, a walk first climbs a number of levels and then goes down by a list
of names (`net`), so it ends below its start or not for a reason that can be read off
the walk and the names it climbs past (`isPrefix_walk_iff`).
-/

import Mathlib.Data.List.Basic
import Mathlib.Data.List.Infix
import Mathlib.Tactic.Common

namespace Basis

variable {α : Type}

inductive Step (α : Type)
  | stay
  | up
  | down (name : α)
deriving DecidableEq, Repr

namespace Step

/-- One step from a place. -/
def go (place : List α) : Step α → List α
  | stay => place
  | up => place.dropLast
  | down name => place ++ [name]

/-- One more step behind a climb and the names that were gone down after it. -/
def after (climb : ℕ × List α) : Step α → ℕ × List α
  | stay => climb
  | up => if climb.2 = [] then (climb.1 + 1, []) else (climb.1, climb.2.dropLast)
  | down name => (climb.1, climb.2 ++ [name])

end Step

/-- The place a walk ends at. -/
def walk (place : List α) (steps : List (Step α)) : List α := steps.foldl Step.go place

/-- How many levels a walk climbs, and the names it goes down after that. -/
def net (steps : List (Step α)) : ℕ × List α := steps.foldl Step.after (0, [])

@[simp] theorem walk_nil (place : List α) : walk place [] = place := rfl

@[simp] theorem walk_cons (place : List α) (step : Step α) (steps : List (Step α)) :
    walk place (step :: steps) = walk (step.go place) steps := rfl

theorem walk_append (place : List α) (steps steps' : List (Step α)) :
    walk place (steps ++ steps') = walk (walk place steps) steps' := List.foldl_append

/-- One step behind a climb. -/
theorem Step.go_climb (place : List α) (climb : ℕ × List α) (step : Step α) :
    step.go (place.take (place.length - climb.1) ++ climb.2) =
      place.take (place.length - (step.after climb).1) ++ (step.after climb).2 := by
  obtain ⟨k, names⟩ := climb
  cases step with
  | stay => rfl
  | down name => exact List.append_assoc ..
  | up =>
      simp only [Step.go, Step.after]
      by_cases hnames : names = []
      · rw [if_pos hnames, hnames, List.append_nil, List.append_nil, List.dropLast_eq_take,
          List.take_take, List.length_take]
        congr 1
        omega
      · rw [if_neg hnames, List.dropLast_append_of_ne_nil hnames]

/-- **A walk climbs, and then goes down.** -/
theorem walk_eq (place : List α) (steps : List (Step α)) :
    walk place steps = place.take (place.length - (net steps).1) ++ (net steps).2 := by
  have hfold : ∀ climb : ℕ × List α,
      walk (place.take (place.length - climb.1) ++ climb.2) steps =
        place.take (place.length - (steps.foldl Step.after climb).1) ++
          (steps.foldl Step.after climb).2 := by
    induction steps with
    | nil => intro climb; rfl
    | cons step steps ih =>
        intro climb
        rw [walk_cons, Step.go_climb, ih]
        rfl
  have h := hfold (0, [])
  rwa [List.append_nil, Nat.sub_zero, List.take_length] at h

/-- A walk from a place ends below it when it goes down again by the names it climbed
past. -/
theorem isPrefix_walk_iff (place : List α) (steps : List (Step α)) :
    place <+: walk place steps ↔
      place.drop (place.length - (net steps).1) <+: (net steps).2 := by
  have h : place.take (place.length - (net steps).1) ++
      place.drop (place.length - (net steps).1) <+:
        place.take (place.length - (net steps).1) ++ (net steps).2 ↔ _ :=
    List.prefix_append_right_inj _
  rwa [List.take_append_drop, ← walk_eq] at h

end Basis
