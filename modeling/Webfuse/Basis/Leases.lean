/-
# Things that are held

Things with keys, such as descriptors with what they were opened for, are held in several
places at once, and a key has one thing at a time.  `Leased key all known` says that of
all things that are held those are known: one that is forgotten is still held, but no
longer known (`Leased.sub`).  A new thing has a key that nothing has (`Leased.take`), and
what is dropped is what is known (`Leased.drop`).
-/

import Mathlib.Data.List.Nodup
import Mathlib.Data.List.Perm.Subperm
import Mathlib.Tactic.Common

namespace Basis

variable {α κ : Type} {key : α → κ} {all known : List α} {a b : α}

/-- The keys of `all` things are different, and those of `known` are among them. -/
structure Leased (key : α → κ) (all known : List α) : Prop where
  distinct : (all.map key).Nodup
  known : known.Subperm all

namespace Leased

theorem nil : Leased key ([] : List α) [] := ⟨List.nodup_nil, List.Subperm.refl _⟩

/-- Things are forgotten, or known elsewhere. -/
theorem sub (h : Leased key all known) {known' : List α} (hsub : known'.Subperm known) :
    Leased key all known' :=
  ⟨h.distinct, hsub.trans h.known⟩

/-- A thing with a key that nothing has. -/
theorem take (h : Leased key all known) (hnew : key a ∉ all.map key) :
    Leased key (a :: all) (a :: known) :=
  ⟨List.nodup_cons.2 ⟨hnew, h.distinct⟩, (List.subperm_cons a).2 h.known⟩

theorem mem (h : Leased key all known) (ha : a ∈ known) : a ∈ all := h.known.subset ha

/-- Things that are known are known once. -/
theorem nodup (h : Leased key all known) : known.Nodup := by
  obtain ⟨known', hperm, hsub⟩ := h.known
  exact hperm.nodup_iff.1 ((h.distinct.of_map key).sublist hsub)

/-- Things with the same key are the same. -/
theorem eq_of_key (h : Leased key all known) (ha : a ∈ all) (hb : b ∈ all)
    (hkey : key a = key b) : a = b :=
  List.inj_on_of_nodup_map h.distinct ha hb hkey

/-- What is dropped is no longer held. -/
theorem drop [BEq α] [LawfulBEq α] (h : Leased key all (a :: known)) :
    Leased key (all.erase a) known := by
  refine ⟨h.distinct.sublist (List.erase_sublist.map key), ?_⟩
  have hsub := h.known.erase a
  rwa [List.erase_cons_head] at hsub

end Leased

end Basis
