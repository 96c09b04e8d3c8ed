/-
# Files of the provider

What POSIX says of the system calls of `webfuse_provider` on files: names and descriptors
stand for files, `pwrite` writes a part of its data at its position and returns how much,
and `pread` returns a part of what is at its position (`Sys.StoresFiles`).  What the
operations do to the files follows (`opens`, `reads`, `writes`, `releases`): `read` opens
the file by its path and leaves no descriptor behind, `write` and `release` take the
descriptor of the handle.

`Sys.memory` is such a system, with one file.
-/

import Webfuse.Basis.Splice
import Webfuse.Filesystem.Translation
import Webfuse.Message.Codec
import Webfuse.Provider.Main
import Webfuse.Service.Counts

namespace Webfuse

open Basis Service

variable {σ ι : Type}

/-! ### Handles -/

/-- A descriptor is the low half of its handle. -/
theorem fdOf_low32 (handle : UInt64) : fdOf (low32 handle) = fdOf handle := by
  unfold fdOf low32
  rw [UInt32.toUInt32_toUInt64]

theorem fdOf_toUInt64 (fd : Int32) : fdOf fd.toInt64.toUInt64 = fd := by
  have h : fd.toInt64.toUInt64.toUInt32.toInt32 = fd.toInt64.toInt32 := by
    apply Int32.toBitVec_inj.1
    change BitVec.setWidth 32 fd.toInt64.toBitVec = BitVec.signExtend 32 fd.toInt64.toBitVec
    exact (BitVec.signExtend_eq_setWidth_of_le _ (by decide)).symm
  unfold fdOf
  rw [h, Int32.toInt32_toInt64]

/-- What arrives of a handle is valid, also of `invalid_handle`. -/
theorem low32_ne_invalidHandle (handle : UInt64) : low32 handle ≠ invalidHandle := by
  intro h
  have heq := congrArg UInt64.toNat h
  have hlt := handle.toUInt32.toNat_lt
  rw [low32, UInt32.toNat_toUInt64] at heq
  rw [heq] at hlt
  exact absurd hlt (by decide)

/-! ### Files of a system -/

/-- The files of a system: those that paths name, those that descriptors are open on, and
what is in them. -/
structure FileView (σ ι : Type) where
  named : σ → Bytes → Option ι
  opened : σ → Int32 → Option ι
  content : σ → ι → Bytes

/-- Open flags without `O_CREAT`, `O_TRUNC`, `O_APPEND` and `O_TMPFILE`. -/
def AtPositions (flags : Int32) : Prop :=
  flags &&& (0o100 ||| 0o1000 ||| 0o2000 ||| 0o20000000) = 0

instance (flags : Int32) : Decidable (AtPositions flags) :=
  inferInstanceAs (Decidable (_ = _))

/-- What the system calls on files do, by POSIX.  A call that fails sets `errno`, and none
sets it to zero. -/
structure Sys.StoresFiles [DecidableEq ι] (sys : Sys σ) (f : FileView σ ι) : Prop where
  open_same : ∀ path flags s, AtPositions flags →
    f.named (sys.open path flags s).2 = f.named s ∧
      f.content (sys.open path flags s).2 = f.content s
  open_fd : ∀ path flags s, AtPositions flags → 0 ≤ (sys.open path flags s).1 →
    f.opened s (sys.open path flags s).1 = none ∧
      (f.named s path).isSome ∧
      f.opened (sys.open path flags s).2 =
        Function.update (f.opened s) (sys.open path flags s).1 (f.named s path)
  open_failed : ∀ path flags s, AtPositions flags → (sys.open path flags s).1 < 0 →
    f.opened (sys.open path flags s).2 = f.opened s ∧ 0 < sys.errno (sys.open path flags s).2
  close : ∀ fd s, f.named (sys.close fd s).2 = f.named s ∧
    f.content (sys.close fd s).2 = f.content s ∧
    f.opened (sys.close fd s).2 = Function.update (f.opened s) fd none ∧
    (0 < sys.errno s → 0 < sys.errno (sys.close fd s).2)
  pread_same : ∀ fd {size : ℕ} (buffer : Vector UInt8 size) offset s,
    f.named (sys.pread fd buffer offset s).2 = f.named s ∧
      f.content (sys.pread fd buffer offset s).2 = f.content s ∧
      f.opened (sys.pread fd buffer offset s).2 = f.opened s
  pread_failed : ∀ fd {size : ℕ} (buffer : Vector UInt8 size) offset s,
    (sys.pread fd buffer offset s).1.1 < 0 →
      (sys.pread fd buffer offset s).1.1 = -1 ∧ 0 < sys.errno (sys.pread fd buffer offset s).2
  pread : ∀ fd i {size : ℕ} (buffer : Vector UInt8 size) offset s, f.opened s fd = some i →
    0 ≤ (sys.pread fd buffer offset s).1.1 →
    let there := (f.content s i).drop offset.toInt.toNat
    let count := (sys.pread fd buffer offset s).1.1.toInt.toNat
    count ≤ size ∧ count ≤ there.length ∧
      (sys.pread fd buffer offset s).1.2.toList.take count = there.take count ∧
      (count = 0 → size = 0 ∨ there = [])
  pwrite_same : ∀ fd data offset s,
    f.named (sys.pwrite fd data offset s).2 = f.named s ∧
      f.opened (sys.pwrite fd data offset s).2 = f.opened s
  pwrite : ∀ fd i data offset s, f.opened s fd = some i → 0 ≤ (sys.pwrite fd data offset s).1 →
    let count := (sys.pwrite fd data offset s).1.toInt.toNat
    count ≤ data.length ∧ f.content (sys.pwrite fd data offset s).2 =
      (Write.mk i offset.toInt.toNat (data.take count)).apply 0 (f.content s)
  pwrite_failed : ∀ fd i data offset s, f.opened s fd = some i →
    (sys.pwrite fd data offset s).1 < 0 →
    (sys.pwrite fd data offset s).1 = -1 ∧ f.content (sys.pwrite fd data offset s).2 = f.content s ∧
      0 < sys.errno (sys.pwrite fd data offset s).2

/-- What arrives of such flags are such flags. -/
theorem AtPositions.openFlagBits {flags : Int32} (h : AtPositions flags) :
    AtPositions (openFlagBits flags) := by
  apply bits_injective
  have hsub : bits (Webfuse.openFlagBits flags) ⊆ bits flags := by
    unfold Webfuse.openFlagBits
    rw [OpenFlags.bits_toInt_fromInt]
    exact inner_subset
  have hnone : bits flags ∩ bits (0o100 ||| 0o1000 ||| 0o2000 ||| 0o20000000) = ∅ := by
    rw [← bits_and, h, bits_zero]
  rw [bits_and, bits_zero]
  exact Set.subset_eq_empty (Set.inter_subset_inter_left _ hsub) hnone

/-! ### Counts -/

/-- A count that fits is returned as it is. -/
theorem toInt_toInt32_of_lt {n : Int64} (h₀ : 0 ≤ n) (h : n.toInt < 2 ^ 31) :
    n.toInt32.toInt = n.toInt := by
  have hpos : 0 ≤ n.toInt := Int64.le_iff_toInt_le.1 h₀
  rw [Int64.toInt_toInt32]
  exact Int.bmod_eq_of_le (by omega) (by omega)

theorem neg_errno_lt {e : Int32} (h : 0 < e) : -e < 0 := by
  have hpos : 0 < e.toInt := Int32.lt_iff_toInt_lt.1 h
  have hlt := e.toInt_lt
  rw [Int32.lt_iff_toInt_lt, Int32.toInt_neg, Int.bmod_eq_of_le (by omega) (by omega)]
  exact Int.neg_neg_of_pos hpos

/-- A count of at most as many bytes as fit is returned as it is. -/
theorem toInt32_of_le {n : Int64} (h₀ : 0 ≤ n) {k : ℕ} (h : n.toInt.toNat ≤ k) (hk : k < 2 ^ 31) :
    0 ≤ n.toInt32 ∧ n.toInt32.toInt = n.toInt := by
  have hpos : 0 ≤ n.toInt := Int64.le_iff_toInt_le.1 h₀
  have hsame := toInt_toInt32_of_lt h₀ (by omega)
  refine ⟨?_, hsame⟩
  rw [Int32.le_iff_toInt_le, hsame]
  exact hpos

/-! ### What the operations do -/

/-- Opening a file returns a descriptor that was not open, for what the name stands for, or
fails. -/
def FileView.Opens (f : FileView σ ι) (name : Bytes) (r : Int32 × UInt64)
    (s s' : σ) : Prop :=
  f.named s' = f.named s ∧ f.content s' = f.content s ∧
    ((r.1 = 0 ∧ f.opened s (fdOf r.2) = none ∧ (f.named s name).isSome ∧
        f.opened s' = Function.update (f.opened s) (fdOf r.2) (f.named s name)) ∨
      (r.1 < 0 ∧ f.opened s' = f.opened s))

/-- A part of a file that is there: it has at most `size` bytes, and none only where there
is nothing or nothing is asked for. -/
def PartOf (there : Bytes) (size count : ℕ) (data : Bytes) : Prop :=
  count ≤ size ∧ count ≤ there.length ∧ data.take count = there.take count ∧
    (count = 0 → size = 0 ∨ there = [])

section Operations

/-- The path that the provider hands to the system. -/
def systemPath (basePath path : Bytes) : Bytes := cStr (ProviderMain.getFullPath basePath path)

/-- Where `open` and `create` end. -/
theorem ProviderMain.opened_eq (sys : Sys σ) (x : StateM σ Int32) (handle : UInt64) (s : σ) :
    opened sys x handle s =
      .ok (if 0 ≤ (x s).1 then 0 else -sys.errno (x s).2,
        if 0 ≤ (x s).1 then (x s).1.toInt64.toUInt64 else handle) (x s).2 := by
  by_cases hfd : 0 ≤ (x s).1
  · simp [opened, sysCall, status, bind, EStateM.bind, pure, EStateM.pure, hfd]
  · simp [opened, sysCall, status, bind, EStateM.bind, pure, EStateM.pure, hfd]

/-- `read` with a valid handle opens the file by its path. -/
theorem ProviderMain.read_of_valid (sys : Sys σ) (basePath path : Bytes) {size : ℕ}
    (buffer : Vector UInt8 size) (offset : UInt64) {handle : UInt64}
    (hhandle : handle ≠ invalidHandle) (s : σ) :
    let r := sys.open (systemPath basePath path) O_RDONLY s
    let c := sys.pread r.1 buffer offset.toInt64 r.2
    let s' := (sys.close r.1 c.2).2
    ProviderMain.read sys basePath path buffer offset handle s =
      if 0 ≤ r.1 then
        .ok (if 0 ≤ c.1.1.toInt32 then c.1.1.toInt32 else -sys.errno s', c.1.2) s'
      else .ok (-sys.errno r.2, buffer) r.2 := by
  intro r c s'
  unfold ProviderMain.read
  rw [if_pos hhandle]
  by_cases hfd : 0 ≤ r.1
  · rw [if_pos hfd]
    refine (bind_of_ok (show sysCall _ s = .ok r.1 r.2 from rfl) _).trans ?_
    rw [if_pos hfd]
    rfl
  · rw [if_neg hfd]
    refine (bind_of_ok (show sysCall _ s = .ok r.1 r.2 from rfl) _).trans ?_
    rw [if_neg hfd]
    rfl

/-- `write` with a valid handle writes to the descriptor. -/
theorem ProviderMain.write_of_valid (sys : Sys σ) (basePath path buffer : Bytes) (offset : UInt64)
    {handle : UInt64} (hhandle : handle ≠ invalidHandle) (s : σ) :
    let c := sys.pwrite (fdOf handle) buffer offset.toInt64 s
    ProviderMain.write sys basePath path buffer offset handle s =
      .ok (if 0 ≤ c.1.toInt32 then c.1.toInt32 else -sys.errno c.2) c.2 := by
  unfold ProviderMain.write
  rw [if_neg hhandle]
  rfl

variable [DecidableEq ι] {sys : Sys σ} {f : FileView σ ι}

namespace Sys.StoresFiles

/-- The provider opens the file by its path, reads and closes it: no descriptor is left
behind. -/
theorem read_by_path (hsys : sys.StoresFiles f) {path : Bytes} {s : σ} {i : ι}
    (hi : f.named s path = some i) {size : ℕ} (hsize : size < 2 ^ 31)
    (buffer : Vector UInt8 size) (offset : Int64) (hfd : 0 ≤ (sys.open path O_RDONLY s).1) :
    let r := sys.open path O_RDONLY s
    let c := sys.pread r.1 buffer offset r.2
    let s' := (sys.close r.1 c.2).2
    (f.named s' = f.named s ∧ f.content s' = f.content s ∧ f.opened s' = f.opened s) ∧
      (0 ≤ c.1.1.toInt32 → PartOf ((f.content s i).drop offset.toInt.toNat) size
        c.1.1.toInt32.toInt.toNat c.1.2.toList) ∧
      (¬ 0 ≤ c.1.1.toInt32 → 0 < sys.errno s') := by
  intro r c s'
  obtain ⟨hnamed, hcontent⟩ := hsys.open_same path O_RDONLY s (by decide)
  obtain ⟨hfresh, -, hopened⟩ := hsys.open_fd path O_RDONLY s (by decide) hfd
  obtain ⟨hnamed', hcontent', hopened'⟩ := hsys.pread_same r.1 buffer offset r.2
  obtain ⟨hnamed'', hcontent'', hopened'', herrno⟩ := hsys.close r.1 c.2
  have hthere : f.opened r.2 r.1 = some i := by
    rw [hopened, Function.update_self, hi]
  refine ⟨⟨hnamed''.trans (hnamed'.trans hnamed), hcontent''.trans (hcontent'.trans hcontent), ?_⟩,
    ?_, ?_⟩
  · rw [hopened'', hopened', hopened, Function.update_idem, ← hfresh, Function.update_eq_self]
  · intro hpos
    have hcount : 0 ≤ c.1.1 := by
      by_contra hneg
      rw [(hsys.pread_failed r.1 buffer offset r.2 (Int64.not_le.1 hneg)).1] at hpos
      exact absurd hpos (by decide)
    have hpart := hsys.pread r.1 i buffer offset r.2 hthere hcount
    rw [hcontent] at hpart
    rw [(toInt32_of_le hcount hpart.1 hsize).2]
    exact hpart
  · intro hneg
    refine herrno ?_
    by_cases hcount : 0 ≤ c.1.1
    · obtain ⟨hle, -⟩ := hsys.pread r.1 i buffer offset r.2 hthere hcount
      exact absurd (toInt32_of_le hcount hle hsize).1 hneg
    · exact (hsys.pread_failed r.1 buffer offset r.2 (Int64.not_le.1 hcount)).2

/-- `open` opens a file. -/
theorem opens (hsys : sys.StoresFiles f) (basePath path : Bytes) {flags : Int32}
    (hflags : AtPositions flags) (handle : UInt64) (s : σ) :
    ∃ r s', ProviderMain.open sys basePath path flags handle s = .ok r s' ∧
      f.Opens (systemPath basePath path) r s s' := by
  obtain ⟨hnamed, hcontent⟩ := hsys.open_same (systemPath basePath path) flags s hflags
  refine ⟨_, _, ProviderMain.opened_eq sys _ handle s, hnamed, hcontent, ?_⟩
  by_cases hfd : 0 ≤ (sys.open (systemPath basePath path) flags s).1
  · left
    change 0 ≤ (sys.open (cStr (ProviderMain.getFullPath basePath path)) flags s).1 at hfd
    rw [if_pos hfd, if_pos hfd, fdOf_toUInt64]
    exact ⟨rfl, hsys.open_fd _ flags s hflags hfd⟩
  · obtain ⟨hopened, herrno⟩ := hsys.open_failed _ flags s hflags (Int32.not_le.1 hfd)
    right
    change ¬ 0 ≤ (sys.open (cStr (ProviderMain.getFullPath basePath path)) flags s).1 at hfd
    rw [if_neg hfd]
    exact ⟨neg_errno_lt herrno, hopened⟩

/-- `read` returns a part of what is at its position in the file that the path names, and
leaves everything as it is. -/
theorem reads (hsys : sys.StoresFiles f) (basePath path : Bytes) {size : ℕ}
    (hsize : size < 2 ^ 31) (buffer : Vector UInt8 size) (offset : UInt64) {handle : UInt64}
    (hhandle : handle ≠ invalidHandle) (s : σ) :
    ∃ r s', ProviderMain.read sys basePath path buffer offset handle s = .ok r s' ∧
      f.named s' = f.named s ∧ f.content s' = f.content s ∧ f.opened s' = f.opened s ∧
      (0 ≤ r.1 → ∃ i, f.named s (systemPath basePath path) = some i ∧
        PartOf ((f.content s i).drop offset.toInt64.toInt.toNat) size r.1.toInt.toNat
          r.2.toList) := by
  have hread := ProviderMain.read_of_valid sys basePath path buffer offset hhandle s
  by_cases hfd : 0 ≤ (sys.open (systemPath basePath path) O_RDONLY s).1
  · obtain ⟨-, hsome, -⟩ := hsys.open_fd _ O_RDONLY s (by decide) hfd
    obtain ⟨i, hi⟩ := Option.isSome_iff_exists.1 hsome
    obtain ⟨⟨hnamed, hcontent, hopened⟩, hpart, herrno⟩ :=
      hsys.read_by_path hi hsize buffer offset.toInt64 hfd
    refine ⟨_, _, hread.trans (if_pos hfd), hnamed, hcontent, hopened, ?_⟩
    dsimp only
    split_ifs with hpos
    · exact fun _ => ⟨i, hi, hpart hpos⟩
    · exact fun h => absurd h (Int32.not_le.2 (neg_errno_lt (herrno hpos)))
  · obtain ⟨hnamed, hcontent⟩ := hsys.open_same (systemPath basePath path) O_RDONLY s (by decide)
    obtain ⟨hopened, herrno⟩ := hsys.open_failed (systemPath basePath path) O_RDONLY s (by decide)
      (Int32.not_le.1 hfd)
    exact ⟨_, _, hread.trans (if_neg hfd), hnamed, hcontent, hopened,
      fun h => absurd h (Int32.not_le.2 (neg_errno_lt herrno))⟩

/-- `write` writes the part of the data that it returns to the file of the descriptor. -/
theorem writes (hsys : sys.StoresFiles f) (basePath path : Bytes) {buffer : Bytes}
    (hbuffer : buffer.length < 2 ^ 31) (offset : UInt64) {handle : UInt64}
    (hhandle : handle ≠ invalidHandle) {s : σ} {i : ι}
    (hopened : f.opened s (fdOf handle) = some i) :
    ∃ n s', ProviderMain.write sys basePath path buffer offset handle s = .ok n s' ∧
      f.named s' = f.named s ∧ f.opened s' = f.opened s ∧
      f.content s' = replay 0 (f.content s)
        (if 0 ≤ n then [⟨i, offset.toInt64.toInt.toNat, buffer.take n.toInt.toNat⟩] else []) := by
  obtain ⟨hnamed', hopened'⟩ := hsys.pwrite_same (fdOf handle) buffer offset.toInt64 s
  refine ⟨_, _, ProviderMain.write_of_valid sys basePath path buffer offset hhandle s, hnamed',
    hopened', ?_⟩
  by_cases hcount : 0 ≤ (sys.pwrite (fdOf handle) buffer offset.toInt64 s).1
  · obtain ⟨hle, hcontent⟩ := hsys.pwrite (fdOf handle) i buffer offset.toInt64 s hopened hcount
    obtain ⟨hpos, hsame⟩ := toInt32_of_le hcount hle hbuffer
    rw [if_pos hpos, if_pos hpos, hsame]
    exact hcontent
  · obtain ⟨hfailed, hcontent, herrno⟩ := hsys.pwrite_failed (fdOf handle) i buffer offset.toInt64 s
      hopened (Int64.not_le.1 hcount)
    have hneg : ¬ 0 ≤ (-1 : Int64).toInt32 := by decide
    rw [hfailed, if_neg hneg, if_neg (Int32.not_le.2 (neg_errno_lt herrno))]
    exact hcontent

/-- `release` closes the descriptor. -/
theorem releases (hsys : sys.StoresFiles f) (path : Bytes) {handle : UInt64}
    (hhandle : handle ≠ invalidHandle) (s : σ) :
    ∃ n s', ProviderMain.release sys path handle s = .ok n s' ∧ f.named s' = f.named s ∧
      f.content s' = f.content s ∧
      f.opened s' = Function.update (f.opened s) (fdOf handle) none := by
  obtain ⟨hnamed, hcontent, hopened, -⟩ := hsys.close (fdOf handle) s
  unfold ProviderMain.release
  rw [if_pos hhandle]
  exact ⟨_, _, rfl, hnamed, hcontent, hopened⟩

end Sys.StoresFiles

end Operations

/-! ### A system with one file -/

/-- The content of the file and the descriptors that are open on it. -/
structure Memory where
  data : Bytes
  fds : List Int32

namespace Memory

/-- `"/b/a"`. -/
def path : Bytes := [0x2f, 0x62, 0x2f, 0x61]

variable (m : Memory)

def takeFd (fd : Int32) : Memory := { m with fds := fd :: m.fds }

/-- There are two descriptors. -/
def onOpen (name : Bytes) : Int32 × Memory :=
  if name = path then
    if 3 ∉ m.fds then (3, m.takeFd 3)
    else if 4 ∉ m.fds then (4, m.takeFd 4)
    else (-1, m)
  else (-1, m)

/-- At most 4096 bytes at once. -/
def onPread (fd : Int32) {size : ℕ} (buffer : Vector UInt8 size) (offset : Int64) :
    Int64 × Vector UInt8 size :=
  if fd ∈ m.fds then
    let bytes := (m.data.drop offset.toInt.toNat).take (min size 4096)
    (Int64.ofNat bytes.length, overwrite buffer bytes)
  else (-1, buffer)

def onPwrite (fd : Int32) (buffer : Bytes) (offset : Int64) : Int64 × Memory :=
  if fd ∈ m.fds then
    let bytes := buffer.take 4096
    (Int64.ofNat bytes.length, { m with data := splice 0 m.data offset.toInt.toNat bytes })
  else (-1, m)

end Memory

/-- The system; other calls fail. -/
def Sys.memory : Sys Memory :=
  { Sys.failing Memory with
    «open» := fun name _ m => m.onOpen name
    close := fun fd m => (0, { m with fds := m.fds.filter (· ≠ fd) })
    pread := fun fd _ buffer offset m => (m.onPread fd buffer offset, m)
    pwrite := fun fd buffer offset m => m.onPwrite fd buffer offset }

def Memory.view : FileView Memory Unit where
  named _ name := if name = path then some () else none
  opened m fd := if fd ∈ m.fds then some () else none
  content m _ := m.data

/-- A count of at most 4096 bytes. -/
theorem Memory.toInt_ofNat {n : ℕ} (h : n ≤ 4096) : (Int64.ofNat n).toInt = n := by
  have hsize : (Int64.size : ℤ) = 2 ^ 64 := rfl
  rw [Int64.toInt_ofNat']
  exact Int.bmod_eq_of_le (by omega) (by omega)

theorem Memory.ofNat_nonneg {n : ℕ} (h : n ≤ 4096) : 0 ≤ Int64.ofNat n := by
  rw [Int64.le_iff_toInt_le, toInt_ofNat h]
  exact Int.natCast_nonneg n

theorem Memory.onOpen_cases (m : Memory) (name : Bytes) :
    (∃ fd, 0 ≤ fd ∧ fd ∉ m.fds ∧ name = path ∧ m.onOpen name = (fd, m.takeFd fd)) ∨
      m.onOpen name = (-1, m) := by
  unfold onOpen
  split_ifs with hname h₃ h₄
  · exact .inr rfl
  · exact .inl ⟨4, by decide, h₄, hname, rfl⟩
  · exact .inl ⟨3, by decide, h₃, hname, rfl⟩
  · exact .inr rfl

theorem Memory.mem_of_opened {m : Memory} {fd : Int32} {i : Unit} (h : view.opened m fd = some i) :
    fd ∈ m.fds := by
  by_contra hfd
  have hnone : view.opened m fd = none := if_neg hfd
  cases hnone.symm.trans h

/-- What `pread` returns is a part of what is there. -/
theorem Memory.onPread_part {m : Memory} {fd : Int32} (hfd : fd ∈ m.fds) {size : ℕ}
    (buffer : Vector UInt8 size) (offset : Int64) :
    PartOf (m.data.drop offset.toInt.toNat) size (m.onPread fd buffer offset).1.toInt.toNat
      (m.onPread fd buffer offset).2.toList := by
  unfold onPread
  rw [if_pos hfd]
  generalize m.data.drop offset.toInt.toNat = there
  have hlen : (there.take (min size 4096)).length = min (min size 4096) there.length :=
    List.length_take
  dsimp only
  rw [toInt_ofNat (by omega), Int.toNat_natCast]
  refine ⟨by omega, by omega, ?_, fun hzero => ?_⟩
  · rw [overwrite_take buffer (by omega) le_rfl, List.take_length, hlen, List.take_eq_take_iff]
    omega
  · by_cases hsize : size = 0
    · exact .inl hsize
    · exact .inr (List.eq_nil_of_length_eq_zero (by omega))

theorem Sys.memory_storesFiles : Sys.memory.StoresFiles Memory.view where
  open_same name flags m _ := by
    obtain ⟨fd, -, -, -, hopen⟩ | hopen := m.onOpen_cases name
    · change _ = _ ∧ (fun _ : Unit => (m.onOpen name).2.data) = _
      rw [hopen]
      exact ⟨rfl, rfl⟩
    · change _ = _ ∧ (fun _ : Unit => (m.onOpen name).2.data) = _
      rw [hopen]
      exact ⟨rfl, rfl⟩
  open_fd name flags m _ hpos := by
    change 0 ≤ (m.onOpen name).1 at hpos
    change Memory.view.opened m (m.onOpen name).1 = none ∧ _ ∧
      Memory.view.opened (m.onOpen name).2 = Function.update _ (m.onOpen name).1 _
    obtain ⟨fd, -, hfd, hname, hopen⟩ | hopen := m.onOpen_cases name
    · rw [hopen]
      refine ⟨if_neg hfd, by simp [Memory.view, hname], ?_⟩
      funext k
      by_cases hk : k = fd
      · subst hk
        simp [Memory.view, Memory.takeFd, hname]
      · simp [Memory.view, Memory.takeFd, hk]
    · rw [hopen] at hpos
      exact absurd hpos (show ¬ (0 : Int32) ≤ -1 by decide)
  open_failed name flags m _ hneg := by
    change (m.onOpen name).1 < 0 at hneg
    change Memory.view.opened (m.onOpen name).2 = _ ∧ _
    obtain ⟨fd, hpos, -, -, hopen⟩ | hopen := m.onOpen_cases name
    · rw [hopen] at hneg
      exact absurd hneg (Int32.not_lt.2 hpos)
    · rw [hopen]
      exact ⟨rfl, show 0 < EIO by decide⟩
  close fd m := by
    refine ⟨rfl, rfl, ?_, fun h => h⟩
    funext k
    by_cases hk : k = fd
    · subst hk
      simp [Memory.view, Sys.memory]
    · simp [Memory.view, Sys.memory, hk]
  pread_same fd _ buffer offset m := ⟨rfl, rfl, rfl⟩
  pread_failed fd _ buffer offset m hneg := by
    change (m.onPread fd buffer offset).1 < 0 at hneg
    refine ⟨?_, show 0 < EIO by decide⟩
    change (m.onPread fd buffer offset).1 = -1
    unfold Memory.onPread at hneg ⊢
    split_ifs at hneg ⊢ with hfd
    · exact absurd hneg (Int64.not_lt.2 (Memory.ofNat_nonneg (by simp)))
    · rfl
  pread fd _ _ buffer offset m hopened _ := Memory.onPread_part (Memory.mem_of_opened hopened) _ _
  pwrite_same fd buffer offset m := by
    change Memory.view.named (m.onPwrite fd buffer offset).2 = _ ∧
      Memory.view.opened (m.onPwrite fd buffer offset).2 = _
    unfold Memory.onPwrite
    split_ifs
    · exact ⟨rfl, rfl⟩
    · exact ⟨rfl, rfl⟩
  pwrite fd _ buffer offset m hopened _ := by
    have hfd := Memory.mem_of_opened hopened
    change (m.onPwrite fd buffer offset).1.toInt.toNat ≤ buffer.length ∧
      Memory.view.content (m.onPwrite fd buffer offset).2 = Write.apply 0 _ ⟨_, _, buffer.take
        (m.onPwrite fd buffer offset).1.toInt.toNat⟩
    have hlen : (buffer.take 4096).length = min 4096 buffer.length := List.length_take
    have hwrite : m.onPwrite fd buffer offset = (Int64.ofNat (buffer.take 4096).length,
        { m with data := splice 0 m.data offset.toInt.toNat (buffer.take 4096) }) := if_pos hfd
    rw [hwrite]
    dsimp only
    rw [Memory.toInt_ofNat (by omega), Int.toNat_natCast]
    refine ⟨by omega, ?_⟩
    have hdata : buffer.take (min 4096 buffer.length) = buffer.take 4096 := by
      rw [List.take_eq_take_iff]
      omega
    rw [hlen, hdata]
    refine funext fun i => ?_
    rw [Write.apply, Function.update_apply, if_pos (Subsingleton.elim i _)]
    rfl
  pwrite_failed fd _ buffer offset m hopened hneg := by
    have hfd := Memory.mem_of_opened hopened
    change (m.onPwrite fd buffer offset).1 < 0 at hneg
    unfold Memory.onPwrite at hneg
    rw [if_pos hfd] at hneg
    exact absurd hneg (Int64.not_lt.2 (Memory.ofNat_nonneg (by simp)))

end Webfuse
