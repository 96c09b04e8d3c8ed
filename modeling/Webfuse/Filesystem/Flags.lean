/-
# Flags and results on the wire

`src/webfuse/filesystem/accessmode.cpp`, `filemode.cpp`, `openflags.cpp` and
`status.cpp`: the codecs between the constants of the operating system and
those of the protocol.  The system constants are those of x86-64 Linux, where
the two sides agree bit by bit (`O_LARGEFILE` is `0` there).

What the codecs keep is stated without them: `accessModeBits` and
`fileModeBits` say which bits of an argument reach the other side, and
`AccessMode.toInt_fromInt`, `FileMode.toMode_fromMode` and
`Status.toFusestatus_eq` prove that the codecs do just that.
-/

import Mathlib.Data.Fintype.Basic
import Mathlib.Data.Nat.Bitwise
import Mathlib.Data.UInt

namespace Webfuse

/-! ### `access_mode` -/

/-- `R_OK`, `W_OK`, `X_OK` of `unistd.h`. -/
def R_OK : Int32 := 4
def W_OK : Int32 := 2
def X_OK : Int32 := 1

/-- `class access_mode`, around the byte that is sent. -/
structure AccessMode where
  value : Int8
deriving DecidableEq, Repr

namespace AccessMode

def r_ok : Int8 := 4
def w_ok : Int8 := 2
def x_ok : Int8 := 1

/-- `access_mode::from_int`. -/
def fromInt (value : Int32) : AccessMode :=
  let result : Int8 := 0
  let result := if 0 ≠ value &&& R_OK then result ||| r_ok else result
  let result := if 0 ≠ value &&& W_OK then result ||| w_ok else result
  let result := if 0 ≠ value &&& X_OK then result ||| x_ok else result
  ⟨result⟩

/-- `access_mode::to_int`. -/
def toInt (mode : AccessMode) : Int32 :=
  let result : Int32 := 0
  let result := if 0 ≠ mode.value &&& r_ok then result ||| R_OK else result
  let result := if 0 ≠ mode.value &&& w_ok then result ||| W_OK else result
  let result := if 0 ≠ mode.value &&& x_ok then result ||| X_OK else result
  result

end AccessMode

/-- An access mode restricted to `R_OK`, `W_OK` and `X_OK`. -/
def accessModeBits (mode : Int32) : Int32 := mode &&& (R_OK ||| W_OK ||| X_OK)

/-- Three bits have eight values. -/
theorem exists_accessModeBits (mode : Int32) :
    ∃ k : Fin 8, accessModeBits mode = Int32.ofNat k := by
  refine ⟨⟨mode.toBitVec.toNat % 8, Nat.mod_lt _ (by decide)⟩, ?_⟩
  apply Int32.toBitVec_inj.1
  apply BitVec.eq_of_toNat_eq
  have h : (mode.toBitVec &&& 7#32).toNat = mode.toBitVec.toNat % 8 := by
    simpa using Nat.and_two_pow_sub_one_eq_mod mode.toBitVec.toNat 3
  have hlt : mode.toBitVec.toNat % 8 < 2 ^ 32 := by omega
  change (mode.toBitVec &&& 7#32).toNat = (BitVec.ofNat 32 (mode.toBitVec.toNat % 8)).toNat
  rw [h, BitVec.toNat_ofNat, Nat.mod_eq_of_lt hlt]

/-- The codec looks at no other bits. -/
theorem AccessMode.fromInt_accessModeBits (mode : Int32) :
    fromInt (accessModeBits mode) = fromInt mode := by
  simp only [fromInt, accessModeBits, Int32.and_assoc]
  rfl

/-- **An access mode arrives restricted to its three bits.** -/
theorem AccessMode.toInt_fromInt (mode : Int32) :
    (fromInt mode).toInt = accessModeBits mode := by
  have hdec : ∀ k : Fin 8, (fromInt (Int32.ofNat k)).toInt = Int32.ofNat k := by decide
  obtain ⟨k, hk⟩ := exists_accessModeBits mode
  rw [← fromInt_accessModeBits, hk, hdec]

/-! ### `filemode` -/

/-- The file types of `sys/stat.h`. -/
def S_IFMT : UInt32 := 0o170000
def S_IFREG : UInt32 := 0o100000
def S_IFDIR : UInt32 := 0o040000
def S_IFCHR : UInt32 := 0o020000
def S_IFBLK : UInt32 := 0o060000
def S_IFIFO : UInt32 := 0o010000
def S_IFLNK : UInt32 := 0o120000
def S_IFSOCK : UInt32 := 0o140000

/-- `class filemode`, around the word that is sent. -/
structure FileMode where
  value : UInt32
deriving DecidableEq, Repr

namespace FileMode

def filetype_mask : UInt32 := 0o170000
def reg : UInt32 := 0o100000
def dir : UInt32 := 0o040000
def chr : UInt32 := 0o020000
def blk : UInt32 := 0o060000
def fifo : UInt32 := 0o010000
def lnk : UInt32 := 0o120000
def sock : UInt32 := 0o140000

/-- The protocol's file types, each with that of the system, in the order in
which `from_mode` and `to_mode` test them. -/
def fileTypes : List (UInt32 × UInt32) :=
  [(reg, S_IFREG), (dir, S_IFDIR), (chr, S_IFCHR), (blk, S_IFBLK), (fifo, S_IFIFO),
    (lnk, S_IFLNK), (sock, S_IFSOCK)]

/-- `filemode::from_mode`: `S_ISREG` and its siblings compare the masked mode
with one file type each. -/
def fromMode (value : UInt32) : FileMode :=
  ⟨fileTypes.foldl (fun result t => if value &&& S_IFMT = t.2 then result ||| t.1 else result)
    (value &&& 0o7777)⟩

/-- `filemode::to_mode`, by `is_reg` and its siblings. -/
def toMode (mode : FileMode) : UInt32 :=
  fileTypes.foldl
    (fun result t => if t.1 = mode.value &&& filetype_mask then result ||| t.2 else result)
    (mode.value &&& 0o7777)

end FileMode

/-- A mode restricted to its permission and sticky bits and to its file type,
when that is one of the seven of the protocol. -/
def fileModeBits (mode : UInt32) : UInt32 :=
  (mode &&& 0o7777) |||
    if mode &&& S_IFMT ∈ FileMode.fileTypes.map Prod.snd then mode &&& S_IFMT else 0

/-- Masking distributes over joining. -/
theorem or_and_mask (a b m : UInt32) : (a ||| b) &&& m = (a &&& m) ||| (b &&& m) :=
  UInt32.toNat_inj.1 (by simpa using Nat.and_or_distrib_right a.toNat b.toNat m.toNat)

/-- Of some words those that are equal to a given one are joined: it, or none. -/
theorem foldl_or_eq (l : List UInt32) (m a : UInt32) :
    l.foldl (fun result x => if x = m then result ||| x else result) a =
      a ||| if m ∈ l then m else 0 := by
  induction l generalizing a with
  | nil => exact UInt32.or_zero.symm
  | cons x l ih =>
      rw [List.foldl_cons, ih]
      by_cases hx : x = m
      · subst hx
        by_cases hl : x ∈ l <;> simp [hl, UInt32.or_assoc]
      · have hne : m ≠ x := Ne.symm hx
        simp [hx, hne]

namespace FileMode

/-- The file types of the protocol are those of the system. -/
theorem fileTypes_eq : fileTypes = (fileTypes.map Prod.snd).map fun x => (x, x) := rfl

/-- A mode is written with exactly the bits of `fileModeBits`. -/
theorem fromMode_value (mode : UInt32) : (fromMode mode).value = fileModeBits mode := by
  have h := foldl_or_eq (fileTypes.map Prod.snd) (mode &&& S_IFMT) (mode &&& 0o7777)
  have hswap (x : UInt32) : mode &&& S_IFMT = x ↔ x = mode &&& S_IFMT := eq_comm
  rw [fromMode, fileTypes_eq, List.foldl_map]
  simp only [hswap]
  exact h

/-- A mode is read with exactly these bits, too. -/
theorem toMode_eq (mode : FileMode) : mode.toMode = fileModeBits mode.value := by
  have h := foldl_or_eq (fileTypes.map Prod.snd) (mode.value &&& S_IFMT) (mode.value &&& 0o7777)
  rw [toMode, fileTypes_eq, List.foldl_map]
  exact h

end FileMode

/-- The file type that is left of a mode. -/
theorem fileModeBits_type (mode : UInt32) :
    fileModeBits mode &&& S_IFMT =
      if mode &&& S_IFMT ∈ FileMode.fileTypes.map Prod.snd then mode &&& S_IFMT else 0 := by
  have hdisj : mode &&& 0o7777 &&& S_IFMT = 0 := by
    rw [UInt32.and_assoc, show (0o7777 : UInt32) &&& S_IFMT = 0 from rfl, UInt32.and_zero]
  rw [fileModeBits, or_and_mask, hdisj, UInt32.zero_or]
  split_ifs
  · rw [UInt32.and_assoc]
    rfl
  · rfl

/-- The permission and sticky bits are all left. -/
theorem fileModeBits_permissions (mode : UInt32) :
    fileModeBits mode &&& 0o7777 = mode &&& 0o7777 := by
  have hdisj : mode &&& S_IFMT &&& 0o7777 = 0 := by
    rw [UInt32.and_assoc, show S_IFMT &&& (0o7777 : UInt32) = 0 from rfl, UInt32.and_zero]
  rw [fileModeBits, or_and_mask, UInt32.and_assoc]
  split_ifs
  · rw [hdisj, UInt32.or_zero]
    rfl
  · rw [UInt32.zero_and, UInt32.or_zero]
    rfl

/-- What is left of a mode stays. -/
theorem fileModeBits_fileModeBits (mode : UInt32) :
    fileModeBits (fileModeBits mode) = fileModeBits mode := by
  have hnone : (0 : UInt32) ∉ FileMode.fileTypes.map Prod.snd := by decide
  rw [fileModeBits, fileModeBits_type, fileModeBits_permissions]
  by_cases hknown : mode &&& S_IFMT ∈ FileMode.fileTypes.map Prod.snd
  · rw [if_pos hknown, if_pos hknown, fileModeBits, if_pos hknown]
  · rw [if_neg hknown, if_neg hnone, fileModeBits, if_neg hknown]

/-- **A mode arrives restricted to its known bits.** -/
theorem FileMode.toMode_fromMode (mode : UInt32) : (fromMode mode).toMode = fileModeBits mode := by
  rw [toMode_eq, fromMode_value, fileModeBits_fileModeBits]

/-! ### `openflags` -/

/-- `class openflags`, around the word that is sent. -/
structure OpenFlags where
  value : Int32
deriving DecidableEq, Repr

/-- The open flags of the protocol, each with the `O_*` constant of `fcntl.h` it
stands for, in the order in which `from_int` and `to_int` test them: `rdonly`,
`wronly`, `rdwr`, `append`, `async`, `cloexec`, `creat`, `direct`, `directory`,
`dsync`, `excl`, `largefile`, `noatime`, `noctty`, `nofollow`, `nonblock`,
`ndelay`, `path`, `sync`, `tmpfile`, `trunc`. -/
def OpenFlags.flags : List (Int32 × Int32) :=
  [(0, 0), (0o1, 0o1), (0o2, 0o2),
    (0o2000, 0o2000), (0o20000, 0o20000), (0o2000000, 0o2000000), (0o100, 0o100),
    (0o40000, 0o40000), (0o200000, 0o200000), (0o10000, 0o10000), (0o200, 0o200),
    (0o100000, 0), (0o1000000, 0o1000000), (0o400, 0o400), (0o400000, 0o400000),
    (0o4000, 0o4000), (0o4000, 0o4000), (0o10000000, 0o10000000), (0o4010000, 0o4010000),
    (0o20200000, 0o20200000), (0o1000, 0o1000)]

/-- `openflags::from_int`. -/
def OpenFlags.fromInt (value : Int32) : OpenFlags :=
  ⟨flags.foldl (fun result f => if f.2 = value &&& f.2 then result ||| f.1 else result) 0⟩

/-- `openflags::to_int`. -/
def OpenFlags.toInt (f : OpenFlags) : Int32 :=
  flags.foldl (fun result g => if g.1 = f.value &&& g.1 then result ||| g.2 else result) 0

/-! ### `status` -/

/-- The error results of the protocol, each with the negated `errno` it stands
for, in the order of the `switch` of `to_fusestatus`: `E2BIG`, `EACCES`,
`EAGAIN`, `EBADF`, `EBUSY`, `EDESTADDRREQ`, `EDQUOT`, `EEXIST`, `EFAULT`,
`EFBIG`, `EINTR`, `EINVAL`, `EIO`, `EISDIR`, `ELOOP`, `EMFILE`, `EMLINK`,
`ENAMETOOLONG`, `ENFILE`, `ENODATA`, `ENODEV`, `ENOENT`, `ENOMEM`, `ENOSPC`,
`ENOSYS`, `ENOTDIR`, `ENOTEMPTY`, `ENOTSUP`, `ENXIO`, `EOVERFLOW`, `EPERM`,
`EPIPE`, `ERANGE`, `EROFS`, `ETXTBSY`, `EXDEV`. -/
def Status.errors : List (Int32 × Int32) :=
  [(-7, -7), (-13, -13), (-11, -11), (-9, -9), (-16, -16), (-89, -89), (-122, -122), (-17, -17),
    (-14, -14), (-27, -27), (-4, -4), (-22, -22), (-5, -5), (-21, -21), (-40, -40), (-24, -24),
    (-31, -31), (-36, -36), (-23, -23), (-61, -61), (-19, -19), (-2, -2), (-12, -12), (-28, -28),
    (-38, -38), (-20, -20), (-39, -39), (-95, -95), (-6, -6), (-75, -75), (-1, -1), (-32, -32),
    (-34, -34), (-30, -30), (-26, -26), (-18, -18)]

/-- `status::to_fusestatus`. -/
def Status.toFusestatus (value : Int32) : Int32 :=
  if 0 ≤ value then value else (Status.errors.lookup value).getD value

/-- A lookup in a table of pairs `(a, a)` finds its key. -/
theorem getD_lookup_of_diagonal {α : Type} [BEq α] [LawfulBEq α] (l : List (α × α))
    (h : ∀ p ∈ l, p.1 = p.2) (a : α) : (l.lookup a).getD a = a := by
  induction l with
  | nil => rfl
  | cons p l ih =>
      obtain ⟨k, v⟩ := p
      have hkv : k = v := h (k, v) (List.mem_cons_self ..)
      by_cases hk : a = k
      · rw [hk, List.lookup_cons_self, Option.getD_some, hkv]
      · have hne : (a == k) = false := by simpa using hk
        rw [List.lookup_cons, hne]
        exact ih fun q hq => h q (List.mem_cons_of_mem _ hq)

/-- **A result arrives as it was sent:** on Linux every error of the protocol is
its own negated `errno`. -/
@[simp] theorem Status.toFusestatus_eq (value : Int32) : toFusestatus value = value := by
  unfold toFusestatus
  split_ifs
  · rfl
  · exact getD_lookup_of_diagonal errors (by simp [errors]) value

end Webfuse
