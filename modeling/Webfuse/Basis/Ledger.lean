/-
# What is held

Actions take hold of resources, let go of them and use them.  `held m l` is what is held
after the actions `l`, when `m` was held before them; letting go of what is not held
changes nothing.  `Covered m l` says that every action uses what is held at its time
only, so nothing is used before it is taken or after it was let go.

Resources are counted: the same one may be taken again before it is let go.
-/

import Mathlib.Data.Multiset.AddSub

namespace Basis

variable {κ C : Type} [DecidableEq κ]

/-- What an action takes, lets go of and uses. -/
structure Ledger (κ C : Type) where
  takes : C → Option κ
  drops : C → Option κ
  uses : C → List κ

namespace Ledger

variable (L : Ledger κ C)

/-- What is held after an action. -/
def account (m : Multiset κ) (c : C) : Multiset κ :=
  match L.takes c, L.drops c with
  | some k, _ => k ::ₘ m
  | none, some k => m.erase k
  | none, none => m

/-- What is held after the actions. -/
def held (m : Multiset κ) (l : List C) : Multiset κ := l.foldl L.account m

/-- Every action uses what is held. -/
def Covered (m : Multiset κ) : List C → Prop
  | [] => True
  | c :: l => (∀ k ∈ L.uses c, k ∈ m) ∧ Covered (L.account m c) l

theorem held_append (m : Multiset κ) (l l' : List C) :
    L.held m (l ++ l') = L.held (L.held m l) l' :=
  List.foldl_append

theorem covered_append (m : Multiset κ) (l l' : List C) :
    L.Covered m (l ++ l') ↔ L.Covered m l ∧ L.Covered (L.held m l) l' := by
  induction l generalizing m with
  | nil => simp [Covered, held]
  | cons c l ih => simp [Covered, held, ih, and_assoc]

/-- An action that takes nothing and lets nothing go. -/
theorem account_of_none {m : Multiset κ} {c : C} (htakes : L.takes c = none)
    (hdrops : L.drops c = none) : L.account m c = m := by
  simp only [account, htakes, hdrops]

theorem account_take {m : Multiset κ} {c : C} {k : κ} (htakes : L.takes c = some k) :
    L.account m c = k ::ₘ m := by
  simp only [account, htakes]

theorem account_drop {m : Multiset κ} {c : C} {k : κ} (htakes : L.takes c = none)
    (hdrops : L.drops c = some k) : L.account m c = m.erase k := by
  simp only [account, htakes, hdrops]

end Ledger

end Basis
