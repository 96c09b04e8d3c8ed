/-
# Symbolic links

`symlink` and `readlink` of `provider_main.cpp`.  A target that starts with a slash is
meant from the base directory on: `symlink` puts the base path in front of it.
`readlink` returns the target as it is stored and takes nothing off again, so a link
reads back as it was written exactly when its target is relative
(`readlink_symlink_iff`).

What the system calls do with links is assumed as `symlink(2)` and `readlink(2)` say
(`PosixLinks`).
-/

import Webfuse.Provider.Paths

namespace Webfuse

open Basis

variable {σ : Type}

/-- What the system says of links.  A call that fails sets `errno`. -/
structure PosixLinks (sys : Sys σ) where
  /-- The target of the link that a path names, if it names one. -/
  linkAt : σ → Bytes → Option Bytes
  symlink_stores : ∀ {target path s}, (sys.symlink target path s).1 = 0 →
    linkAt (sys.symlink target path s).2 path = some target
  symlink_errno : ∀ {target path s}, (sys.symlink target path s).1 ≠ 0 →
    sys.errno (sys.symlink target path s).2 ≠ 0
  /-- As much of the target is copied to the buffer as there is room for, and the number of
  bytes is returned. -/
  readlink_copies : ∀ {path s target}, linkAt s path = some target →
    (sys.readlink path s).1.1.toInt = min target.length PATH_MAX ∧
      (sys.readlink path s).1.2.toList.take (min target.length PATH_MAX) = target.take PATH_MAX

/-- A text up to its first zero is not longer than its part without one. -/
theorem cStr_append_zero (text rest : Bytes) : cStr (text ++ 0 :: rest) = cStr text := by
  induction text with
  | nil => rfl
  | cons c text ih =>
      unfold cStr at ih ⊢
      rw [List.cons_append, List.takeWhile_cons, List.takeWhile_cons, ih]

theorem cStr_of_notMem {text : Bytes} (h : 0 ∉ text) : cStr text = text :=
  List.takeWhile_eq_self_iff.2 fun _ hc => decide_eq_true fun h0 => h (h0 ▸ hc)

/-- A string that was copied to the start of a buffer, and ended there with a zero. -/
theorem cStr_set_zero {buffer text : Bytes} (hlen : text.length < buffer.length)
    (htake : buffer.take text.length = text) : cStr (buffer.set text.length 0) = cStr text := by
  obtain ⟨c, rest, hrest⟩ : ∃ c rest, buffer.drop text.length = c :: rest :=
    List.exists_cons_of_length_pos (by rw [List.length_drop]; omega)
  have hbuffer : buffer = text ++ c :: rest := by
    rw [← hrest, ← List.take_append_drop text.length buffer, htake]
    simp
  rw [hbuffer, List.set_append_right _ _ le_rfl, Nat.sub_self, List.set_cons_zero,
    cStr_append_zero]

namespace ProviderMain

/-- What `readlink` returns of a stored target: a target that fills the buffer leaves the
output as it was. -/
theorem readlink_eq {sys : Sys σ} (posix : PosixLinks sys) {basePath path stored : Bytes} {s : σ}
    (h : posix.linkAt s (cStr (getFullPath basePath path)) = some stored) (out : Bytes) :
    readlink sys basePath path out s =
      .ok (0, if stored.length < PATH_MAX then cStr stored else out)
        (sys.readlink (cStr (getFullPath basePath path)) s).2 := by
  obtain ⟨hsize, hbuffer⟩ := posix.readlink_copies h
  have hcall : sysCall (sys.readlink (cStr (getFullPath basePath path))) s =
      .ok (sys.readlink (cStr (getFullPath basePath path)) s).1
        (sys.readlink (cStr (getFullPath basePath path)) s).2 := rfl
  unfold readlink
  rw [bind_of_ok hcall]
  generalize sys.readlink (cStr (getFullPath basePath path)) s = r at hsize hbuffer
  obtain ⟨⟨size, buffer⟩, s'⟩ := r
  have hresult : size.toInt32.toInt = min stored.length PATH_MAX := by
    rw [Int64.toInt_toInt32, hsize, Int.bmod_eq_of_le] <;> (unfold PATH_MAX; omega)
  have hpos : 0 ≤ size.toInt32 := by
    rw [Int32.le_iff_toInt_le, hresult]
    exact Int.natCast_nonneg _
  have hout : (if 0 ≤ size.toInt32 ∧ size.toInt32.toInt < PATH_MAX then
      cStr (buffer.toList.set size.toInt32.toInt.toNat 0) else out) =
        if stored.length < PATH_MAX then cStr stored else out := by
    rw [hresult]
    by_cases hlt : stored.length < PATH_MAX
    · rw [Nat.min_eq_left hlt.le] at hbuffer ⊢
      rw [List.take_of_length_le hlt.le] at hbuffer
      rw [if_pos ⟨hpos, Int.ofNat_lt.2 hlt⟩, if_pos hlt, Int.toNat_natCast]
      exact cStr_set_zero (by simpa using hlt) hbuffer
    · rw [Nat.min_eq_right (by omega), if_neg (fun hp => lt_irrefl _ hp.2), if_neg hlt]
  dsimp only
  rw [hout, if_pos hpos]
  rfl

/-- `symlink` stores a target without zeros as it is, or behind the base path. -/
theorem symlink_stores {sys : Sys σ} (posix : PosixLinks sys) {basePath target linkpath : Bytes}
    {s s' : σ} (h : symlink sys basePath target linkpath s = .ok 0 s') :
    posix.linkAt s' (cStr (getFullPath basePath linkpath)) =
      some (cStr (if target.head? = some 0x2f then getFullPath basePath target else target)) := by
  cases target with
  | nil => cases h
  | cons c target =>
      simp only [List.head?_cons, Option.some.injEq]
      unfold symlink at h
      dsimp only at h
      generalize cStr (if c = 0x2f then getFullPath basePath (c :: target) else c :: target) =
        fullTarget at h ⊢
      injection h with hstatus hstate
      rw [← hstate]
      apply posix.symlink_stores
      by_contra hfailed
      have herrno := posix.symlink_errno hfailed
      rw [if_neg hfailed] at hstatus
      have hzero := congrArg Neg.neg hstatus
      rw [Int32.neg_neg] at hzero
      exact herrno hzero

/-- **A link reads back as it was written exactly when its target is relative.** -/
theorem readlink_symlink_iff {sys : Sys σ} (posix : PosixLinks sys) (base : BasePath)
    {target linkpath : Bytes} (hne : target ≠ []) (hnul : 0 ∉ target)
    (hlen : target.length < PATH_MAX) {s s₁ s₂ : σ}
    (hsymlink : symlink sys base.bytes target linkpath s = .ok 0 s₁)
    (hkept : posix.linkAt s₂ (cStr (getFullPath base.bytes linkpath)) =
      posix.linkAt s₁ (cStr (getFullPath base.bytes linkpath))) :
    (∀ out, ∃ s₃, readlink sys base.bytes linkpath out s₂ = .ok (0, target) s₃) ↔
      target.head? ≠ some 0x2f := by
  have hstored := hkept.trans (symlink_stores posix hsymlink)
  have hread := readlink_eq posix hstored
  by_cases habsolute : target.head? = some 0x2f
  · rw [if_pos habsolute] at hread
    refine iff_of_false (fun h => ?_) (not_not.2 habsolute)
    -- what is read is longer than the target, or the output as it was
    obtain ⟨s₃, hs₃⟩ := h []
    rw [hread] at hs₃
    injection hs₃ with hs₃
    injection hs₃ with _ hs₃
    rw [getFullPath, base.cStr_append, cStr_of_notMem hnul, base.cStr_append,
      cStr_of_notMem hnul] at hs₃
    split_ifs at hs₃ with hfits
    · have hsame := congrArg List.length hs₃
      rw [List.length_append] at hsame
      exact base.bytes_ne_nil (List.length_eq_zero_iff.1 (by omega))
    · exact hne hs₃.symm
  · rw [if_neg habsolute, cStr_of_notMem hnul] at hread
    refine iff_of_true (fun out => ?_) habsolute
    have hout := hread out
    rw [if_pos hlen, cStr_of_notMem hnul] at hout
    exact ⟨_, hout⟩

end ProviderMain

/-! ### A system of links -/

/-- What `readlink` copies of a target. -/
def copied (target : Bytes) : Int64 × Vector UInt8 PATH_MAX :=
  (Int64.ofNat (min target.length PATH_MAX),
    ⟨((target ++ List.replicate PATH_MAX 0).take PATH_MAX).toArray, by simp⟩)

/-- A system in which there are links and nothing else. -/
def Sys.links : Sys (List (Bytes × Bytes)) :=
  { Sys.failing (List (Bytes × Bytes)) with
    symlink := fun target path s =>
      if s.lookup path = none then (0, (path, target) :: s) else (-1, s)
    readlink := fun path s =>
      ((s.lookup path).elim (-1, Vector.replicate PATH_MAX 0) copied, s) }

/-- The system keeps to what is said of links. -/
def Sys.linksPosix : PosixLinks Sys.links where
  linkAt s path := s.lookup path
  symlink_stores {target path s} h := by
    have hcall : Sys.links.symlink target path s =
        if s.lookup path = none then (0, (path, target) :: s) else (-1, s) := rfl
    rw [hcall] at h ⊢
    split_ifs at h ⊢
    · exact List.lookup_cons_self
    · cases h
  symlink_errno _ := by
    change EIO ≠ 0
    decide
  readlink_copies {path s target} h := by
    have hcall : Sys.links.readlink path s = (copied target, s) := by
      change ((s.lookup path).elim _ copied, s) = _
      rw [h]
      rfl
    rw [hcall]
    refine ⟨?_, ?_⟩
    · change (Int64.ofNat (min target.length PATH_MAX)).toInt = _
      rw [Int64.toInt_ofNat_of_lt]
      unfold PATH_MAX
      omega
    · change ((target ++ List.replicate PATH_MAX 0).take PATH_MAX).take _ = _
      rw [List.take_take, List.take_append_of_le_length (by omega)]
      exact List.take_eq_take_iff.2 (by omega)

namespace ProviderMain

theorem readlink_symlink_iff_relative :
    (∀ out, ∃ s, readlink Sys.links BasePath.b.bytes (ascii "/l") out
      [(ascii "/b/l", ascii "t")] = .ok (0, ascii "t") s) ↔ (ascii "t").head? ≠ some 0x2f :=
  readlink_symlink_iff Sys.linksPosix BasePath.b (by decide) (by decide) (by decide)
    (show symlink Sys.links BasePath.b.bytes (ascii "t") (ascii "/l") [] = .ok 0 _ from rfl) rfl

/-- A link to `/t` below `/b` reads back as a link to `/b/t`. -/
theorem absolute_target_changed :
    symlink Sys.links BasePath.b.bytes (ascii "/t") (ascii "/l") [] =
      .ok 0 [(ascii "/b/l", ascii "/b/t")] ∧
    readlink Sys.links BasePath.b.bytes (ascii "/l") [] [(ascii "/b/l", ascii "/b/t")] =
      .ok (0, ascii "/b/t") [(ascii "/b/l", ascii "/b/t")] ∧
    ascii "/b/t" ≠ ascii "/t" := by
  refine ⟨rfl, ?_, by decide⟩
  have hstored : Sys.linksPosix.linkAt [(ascii "/b/l", ascii "/b/t")]
      (cStr (getFullPath BasePath.b.bytes (ascii "/l"))) = some (ascii "/b/t") := rfl
  exact readlink_eq Sys.linksPosix hstored []

end ProviderMain

end Webfuse
