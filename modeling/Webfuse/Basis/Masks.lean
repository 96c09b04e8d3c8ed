/-
# Masks

A table of pairs of masks translates sets of bits: every pair whose first mask is a part
of the set adds its second mask (`translate`).  Masks may overlap and contain each
other.

Translating there and back leaves the union of the masks that are parts of the set
(`inner`), when the bits of a mask are among those that stand for it and no other mask
has them by accident (`translate_back`).  The union of the masks inside a set is
an interior: it is a part of the set, and taking it again changes nothing.
-/

import Mathlib.Data.Set.Lattice
import Mathlib.Tactic.Common

namespace Basis

variable {ι : Type}

/-- What a table makes of a set. -/
def translate (table : Set (Set ι × Set ι)) (v : Set ι) : Set ι :=
  {i | ∃ p ∈ table, p.1 ⊆ v ∧ i ∈ p.2}

/-- The masks that are parts of a set, in one. -/
def inner (masks : Set (Set ι)) (v : Set ι) : Set ι := ⋃₀ {m ∈ masks | m ⊆ v}

variable {masks : Set (Set ι)} {v : Set ι}

theorem inner_subset : inner masks v ⊆ v := Set.sUnion_subset fun _ hm => hm.2

theorem subset_inner {m : Set ι} (hm : m ∈ masks) (h : m ⊆ v) : m ⊆ inner masks v :=
  Set.subset_sUnion_of_mem ⟨hm, h⟩

/-- A union of masks is left as it is. -/
theorem inner_sUnion {ms : Set (Set ι)} (h : ms ⊆ masks) : inner masks (⋃₀ ms) = ⋃₀ ms := by
  apply Set.Subset.antisymm inner_subset
  refine Set.sUnion_subset fun m hm => ?_
  exact subset_inner (h hm) (Set.subset_sUnion_of_mem hm)

theorem inner_inner : inner masks (inner masks v) = inner masks v :=
  inner_sUnion fun _ hm => hm.1

/-- **There and back.** -/
theorem translate_back {table : Set (Set ι × Set ι)} (hsub : ∀ p ∈ table, p.2 ⊆ p.1)
    (hown : ∀ p ∈ table, ∀ q ∈ table, p.2 ∩ q.1 ⊆ q.2) (v : Set ι) :
    translate table (translate (Prod.swap '' table) v) = inner (Prod.snd '' table) v := by
  apply Set.Subset.antisymm
  · rintro i ⟨p, hp, hpart, hi⟩
    -- a bit of the mask of `p` was added for some `q` inside the set, whose bit it then is
    obtain ⟨_, ⟨q, hq, rfl⟩, hqv, hiq⟩ := hpart (hsub p hp hi)
    have hmask : q.2 ∈ Prod.snd '' table := ⟨q, hq, rfl⟩
    exact subset_inner hmask hqv (hown p hp q hq ⟨hi, hiq⟩)
  · rintro i ⟨_, ⟨⟨p, hp, rfl⟩, hpv⟩, hi⟩
    refine ⟨p, hp, ?_, hi⟩
    exact fun j hj => ⟨p.swap, ⟨p, hp, rfl⟩, hpv, hj⟩

end Basis
