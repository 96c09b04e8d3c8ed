/-
# Flags there and back

Open flags and file modes are translated to the numbers of the protocol and back again.
The masks of the open flags overlap: `O_SYNC` contains `O_DSYNC`, `O_TMPFILE` contains
`O_DIRECTORY`, and `O_RDONLY` and `O_LARGEFILE` are zero, so `largefile` is always sent.
As sets of bits they are a table of masks, and what comes back of a word are the masks
it contains (`bits_toInt_fromInt`).
-/

import Webfuse.Basis.Masks
import Webfuse.Filesystem.Flags

namespace Webfuse

open Basis

/-- The bits that are set in a word. -/
def bits (v : Int32) : Set ℕ := {i | v.toBitVec.getLsbD i = true}

theorem bits_zero : bits 0 = ∅ := by
  ext i
  simp [bits]

theorem bits_or (a b : Int32) : bits (a ||| b) = bits a ∪ bits b := by
  ext i
  simp [bits]

theorem bits_and (a b : Int32) : bits (a &&& b) = bits a ∩ bits b := by
  ext i
  simp [bits]

theorem bits_injective : Function.Injective bits := by
  intro a b h
  apply Int32.toBitVec_inj.1
  apply BitVec.eq_of_getLsbD_eq
  intro i _
  exact Bool.eq_iff_iff.2 (Set.ext_iff.1 h i)

/-- The test of the source: a mask is a part of a word. -/
theorem bits_subset_iff (m v : Int32) : bits m ⊆ bits v ↔ m = v &&& m := by
  rw [← bits_injective.eq_iff, bits_and, eq_comm, Set.inter_eq_right]

/-- The loop of tests, for words and for sets. -/
theorem bits_foldl (test add : Int32 × Int32 → Int32) (v : Int32) (l : List (Int32 × Int32))
    (result : Int32) :
    bits (l.foldl (fun result f => if test f = v &&& test f then result ||| add f else result)
        result) =
      bits result ∪ {i | ∃ f ∈ l, bits (test f) ⊆ bits v ∧ i ∈ bits (add f)} := by
  induction l generalizing result with
  | nil => simp
  | cons f l ih =>
      rw [List.foldl_cons, ih]
      ext i
      by_cases hf : test f = v &&& test f
      · have hpart := (bits_subset_iff (test f) v).2 hf
        simp [if_pos hf, bits_or, hpart, or_assoc]
      · have hpart := mt (bits_subset_iff (test f) v).1 hf
        simp [if_neg hf, hpart]

/-- Constants that are joined. -/
theorem bits_foldl_or (l : List Int32) (result : Int32) :
    bits (l.foldl (· ||| ·) result) = bits result ∪ ⋃₀ (bits '' {c | c ∈ l}) := by
  induction l generalizing result with
  | nil => simp
  | cons c l ih =>
      rw [List.foldl_cons, ih, bits_or, Set.union_assoc]
      ext i
      simp

namespace OpenFlags

/-- The flags of the protocol and of the system, as sets of bits. -/
def masks : Set (Set ℕ × Set ℕ) := {p | ∃ f ∈ flags, p = (bits f.1, bits f.2)}

theorem bits_fromInt (v : Int32) :
    bits (fromInt v).value = translate (Prod.swap '' masks) (bits v) := by
  unfold fromInt
  rw [bits_foldl Prod.snd Prod.fst, bits_zero, Set.empty_union]
  ext i
  constructor
  · rintro ⟨f, hf, hpart, hi⟩
    exact ⟨(bits f.2, bits f.1), ⟨_, ⟨f, hf, rfl⟩, rfl⟩, hpart, hi⟩
  · rintro ⟨_, ⟨_, ⟨f, hf, rfl⟩, rfl⟩, hpart, hi⟩
    exact ⟨f, hf, hpart, hi⟩

theorem bits_toInt (flags : OpenFlags) : bits flags.toInt = translate masks (bits flags.value) := by
  unfold toInt
  rw [bits_foldl Prod.fst Prod.snd, bits_zero, Set.empty_union]
  ext i
  constructor
  · rintro ⟨f, hf, hpart, hi⟩
    exact ⟨(bits f.1, bits f.2), ⟨f, hf, rfl⟩, hpart, hi⟩
  · rintro ⟨_, ⟨f, hf, rfl⟩, hpart, hi⟩
    exact ⟨f, hf, hpart, hi⟩

/-- **What comes back of open flags** are the constants of the system they contain. -/
theorem bits_toInt_fromInt (v : Int32) :
    bits (fromInt v).toInt = inner (Prod.snd '' masks) (bits v) := by
  -- the table is checked entry by entry: deciding over all words would not end
  have hsub : flags.all fun f => f.2 = f.1 &&& f.2 := by decide
  have hown : flags.all fun f => flags.all fun g => f.2 &&& g.1 = g.2 &&& (f.2 &&& g.1) := by
    decide
  simp only [List.all_eq_true, decide_eq_true_eq] at hsub hown
  rw [bits_toInt, bits_fromInt]
  apply translate_back
  · rintro _ ⟨f, hf, rfl⟩
    exact (bits_subset_iff _ _).2 (hsub f hf)
  · rintro _ ⟨f, hf, rfl⟩ _ ⟨g, hg, rfl⟩
    have hpart := (bits_subset_iff _ _).2 (hown f hf g hg)
    rwa [bits_and] at hpart

end OpenFlags

/-- What is left of a mode is a part of it. -/
theorem and_fileModeBits (mode : UInt32) : mode &&& fileModeBits mode = fileModeBits mode := by
  have hpart : ∀ m, mode &&& (mode &&& m) = mode &&& m := by
    intro m
    rw [← UInt32.and_assoc, UInt32.and_self]
  rw [UInt32.and_comm, fileModeBits, or_and_mask, UInt32.and_comm _ mode, hpart]
  split_ifs
  · rw [UInt32.and_comm _ mode, hpart]
  · rw [UInt32.zero_and]

/-- **Flags lose nothing that is supported, and nothing is made up.**  Of open flags a
part comes back, all of them when they are made of the constants of the system, and
the same again when they are translated again.  Of a mode the permission and sticky bits
come back, and the file type if it is a known one; nothing else does. -/
theorem flags_there_and_back (v : Int32) (mode : UInt32) :
    ((OpenFlags.fromInt v).toInt = v &&& (OpenFlags.fromInt v).toInt ∧
      (∀ l : List Int32, (∀ c ∈ l, c ∈ OpenFlags.flags.map Prod.snd) →
        v = l.foldl (· ||| ·) 0 → (OpenFlags.fromInt v).toInt = v) ∧
      (OpenFlags.fromInt (OpenFlags.fromInt v).toInt).toInt = (OpenFlags.fromInt v).toInt) ∧
    (FileMode.fromMode mode).toMode = mode &&& (FileMode.fromMode mode).toMode ∧
      (FileMode.fromMode mode).toMode &&& 0o7777 = mode &&& 0o7777 ∧
      ((FileMode.fromMode mode).toMode &&& S_IFMT =
        if mode &&& S_IFMT ∈ FileMode.fileTypes.map Prod.snd then mode &&& S_IFMT else 0) ∧
      (FileMode.fromMode (FileMode.fromMode mode).toMode).toMode =
        (FileMode.fromMode mode).toMode := by
  refine ⟨⟨?_, ?_, ?_⟩, ?_, ?_, ?_, ?_⟩
  · apply (bits_subset_iff _ _).1
    rw [OpenFlags.bits_toInt_fromInt]
    exact inner_subset
  · intro l hl hv
    apply bits_injective
    rw [OpenFlags.bits_toInt_fromInt, hv, bits_foldl_or, bits_zero, Set.empty_union]
    apply inner_sUnion
    rintro _ ⟨c, hc, rfl⟩
    obtain ⟨f, hf, rfl⟩ := List.mem_map.1 (hl c hc)
    exact ⟨(bits f.1, bits f.2), ⟨f, hf, rfl⟩, rfl⟩
  · apply bits_injective
    simp only [OpenFlags.bits_toInt_fromInt, inner_inner]
  · rw [FileMode.toMode_fromMode]
    exact (and_fileModeBits mode).symm
  · rw [FileMode.toMode_fromMode, fileModeBits_permissions]
  · rw [FileMode.toMode_fromMode, fileModeBits_type]
  · rw [FileMode.toMode_fromMode, FileMode.toMode_fromMode, fileModeBits_fileModeBits]

/-- `O_RDWR | O_SYNC | O_TMPFILE`, in which two of the masks contain others. -/
theorem flags_there_and_back_sync :
    (OpenFlags.fromInt 0o24210002).toInt = 0o24210002 :=
  (flags_there_and_back 0o24210002 0).1.2.1 [0o2, 0o4010000, 0o20200000]
    (by simp [OpenFlags.flags]) rfl

end Webfuse
