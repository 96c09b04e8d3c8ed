/-
# What is written is read

Files of a mounted `webfuse_provider` directory, from `fs_write` and `fs_read` down to
`pwrite` and `pread`.  A session opens existing files, reads and writes them at positions
and releases them.  What POSIX says of the system calls is `Sys.StoresFiles`: names and
descriptors stand for files, `pwrite` writes a part of its data at its position and
returns how much, `pread` returns a part of what is at its position.

Through the callbacks of FUSE, both codecs and the provider the same is true of the whole
(`session_content`): every read returns what is at its position after the writes that were
acknowledged before it, as far as they were acknowledged, in their order.  The provider
reads a file by its path and writes it by its descriptor; that both mean the same file is
the invariant.

Offsets are below `2^32`, as the readers drop the high half of a 64-bit value.
-/

import Webfuse.Basis.Splice
import Webfuse.Filesystem.Translation
import Webfuse.Fuse.Descriptors
import Webfuse.Message.Blocks
import Webfuse.Service.Counts

namespace Webfuse

open Basis Service

variable {σ ι : Type}

/-! ### Sessions -/

/-- The state of the provider, and the files that are open, each with its path. -/
structure Session (σ : Type) where
  state : σ
  files : List (Bytes × FuseFileInfo)

/-- A call of FUSE on a path, or on one of the open files.  libfuse passes the path of an
open file. -/
inductive FileEvent
  | open (path : Bytes) (flags : Int32) (id : UInt32)
  | read (file : ℕ) (size : UInt64) (buffer : Vector UInt8 size.toNat) (rawOffset : Int64)
      (id : UInt32)
  | write (file : ℕ) (buffer : Bytes) (rawOffset : Int64) (id : UInt32)
  | release (file : ℕ) (id : UInt32)

/-- What the caller gets of a read or a write. -/
inductive FileEffect
  | read (path : Bytes) (rawOffset : Int64) (result : Int32) (buffer : Bytes)
  | written (path buffer : Bytes) (rawOffset : Int64) (result : Int32)

namespace Session

variable (p : Provider σ) (m : Session σ)

/-- `fs_open` over a connection. -/
def onOpen (path : Bytes) (flags : Int32) (id : UInt32) : Session σ × List FileEffect :=
  match fsOpen (filesystem (loopback p id)) path ⟨flags, 0⟩ m.state with
  | .ok (result, info) s =>
      (⟨s, if result = 0 then m.files ++ [(path, info)] else m.files⟩, [])
  | .error _ s => ({ m with state := s }, [])

/-- `fs_read` of an open file. -/
def onRead (file : Bytes × FuseFileInfo) {size : ℕ} (buffer : Vector UInt8 size)
    (rawOffset : Int64) (id : UInt32) : Session σ × List FileEffect :=
  match fsRead (filesystem (loopback p id)) file.1 buffer rawOffset (some file.2) m.state with
  | .ok (result, buffer) s =>
      ({ m with state := s }, [.read file.1 rawOffset result buffer.toList])
  | .error _ s => ({ m with state := s }, [])

/-- `fs_write` to an open file. -/
def onWrite (file : Bytes × FuseFileInfo) (buffer : Bytes) (rawOffset : Int64) (id : UInt32) :
    Session σ × List FileEffect :=
  match fsWrite (filesystem (loopback p id)) file.1 buffer rawOffset (some file.2) m.state with
  | .ok result s => ({ m with state := s }, [.written file.1 buffer rawOffset result])
  | .error _ s => ({ m with state := s }, [])

/-- `fs_release` of an open file. -/
def onRelease (file : Bytes × FuseFileInfo) (i : ℕ) (id : UInt32) :
    Session σ × List FileEffect :=
  match fsRelease (filesystem (loopback p id)) file.1 (some file.2) m.state with
  | .ok _ s => (⟨s, m.files.eraseIdx i⟩, [])
  | .error _ s => (⟨s, m.files.eraseIdx i⟩, [])

/-- A call; one on a file that is not open cannot happen and changes nothing. -/
def step : FileEvent → Session σ × List FileEffect
  | .open path flags id => m.onOpen p path flags id
  | .read i _ buffer rawOffset id =>
      match m.files[i]? with
      | some file => m.onRead p file buffer rawOffset id
      | none => (m, [])
  | .write i buffer rawOffset id =>
      match m.files[i]? with
      | some file => m.onWrite p file buffer rawOffset id
      | none => (m, [])
  | .release i id =>
      match m.files[i]? with
      | some file => m.onRelease p file i id
      | none => (m, [])

end Session

/-- A session over a mount. -/
def session (p : Provider σ) (s : σ) : Machine (Session σ) FileEvent FileEffect where
  init := ⟨s, []⟩
  step m e := m.step p e

/-- A step of a session. -/
abbrev SessionEntry (σ : Type) := Entry (Session σ) FileEvent FileEffect

/-- Paths that fit in a message, existing files, and positions and counts that fit in 32
bits. -/
def SessionContract (_ : List (SessionEntry σ)) (x : SessionEntry σ) : Prop :=
  match x.event with
  | .open path flags _ => path.length < 2 ^ 32 ∧ AtPositions flags
  | .read _ size _ rawOffset _ =>
      size.toNat < 2 ^ 31 ∧ 0 ≤ rawOffset.toInt ∧ rawOffset.toInt < 2 ^ 32
  | .write _ buffer rawOffset _ =>
      buffer.length < 2 ^ 31 ∧ 0 ≤ rawOffset.toInt ∧ rawOffset.toInt < 2 ^ 32
  | .release _ _ => True

/-! ### Calls -/

/-- A call of the provider's filesystem that returns is returned from. -/
theorem exec_loopback_of_ok (p : Provider σ) (id : UInt32) {call : FsCall}
    (hcall : call ≠ .getCredentials) (out : call.Out) {s s' : σ} {r : Int32 × call.decoded.Out}
    (h : call.decoded.exec p.fs (p.given s call.decoded) s = .ok r s') :
    call.exec (filesystem (loopback p id)) out s = .ok (call.received p r out) s' := by
  obtain ⟨r', s'', hexec, hremote⟩ | ⟨e, s'', hexec, -⟩ := exec_loopback_cases p id hcall out s
  · injection h.symm.trans hexec with hr hs
    rw [hremote, hr, hs]
  · cases h.symm.trans hexec

/-- What a method without output parameters returns. -/
theorem ok_of_plain {x : Fs σ Int32} {s s' : σ} {result : Int32}
    (h : plain x s = .ok (result, ()) s') : x s = .ok result s' := by
  obtain ⟨r, hx, hr⟩ := bind_pure_ok h
  exact hx.trans (congrArg (EStateM.Result.ok · s') (Prod.mk.inj hr).1.symm)

section Counts

/-- An offset below `2^32` arrives as it is. -/
theorem low32_offset {rawOffset : Int64} (h₀ : 0 ≤ rawOffset.toInt) (h : rawOffset.toInt < 2 ^ 32) :
    (low32 rawOffset.toUInt64).toInt64 = rawOffset := by
  apply Int64.toInt_inj.1
  rw [toInt_low32, Int.emod_eq_of_lt h₀ h]

/-- What `fs_read` returns of a count of the provider. -/
theorem dataRead_of_le (p : Provider σ) (path : Bytes) (offset handle : UInt64) {n size : ℕ}
    {result : Int32} (data : Vector UInt8 n) (out : Vector UInt8 size)
    (hn : result.toInt.toNat ≤ n) (hsize : result.toInt.toNat ≤ size) :
    ∃ buffer : Vector UInt8 size, dataRead p path offset handle result data out = (result, buffer) ∧
      buffer.toList.take result.toInt.toNat = data.toList.take result.toInt.toNat := by
  have hlen : (data.toList.take result.toInt.toNat).length = result.toInt.toNat := by
    rw [List.length_take, Vector.length_toList]
    omega
  have hsmall : result.toInt.toNat < 2 ^ 32 := by
    have hlt := result.toInt_lt
    omega
  unfold dataRead
  rw [p.bytesFrom_eq data hn, clip_of_lt (by omega)]
  dsimp only
  rw [hlen, if_pos hsize]
  split_ifs with hpos
  · refine ⟨_, rfl, ?_⟩
    rw [overwrite_take out (by omega) (by omega), List.take_take, Nat.min_self]
  · have hzero : result.toInt.toNat = 0 := by
      rw [Int32.lt_iff_toInt_lt] at hpos
      exact Int.toNat_of_nonpos (by simpa using hpos)
    exact ⟨out, rfl, by rw [hzero]; rfl⟩

theorem dataRead_of_neg (p : Provider σ) (path : Bytes) (offset handle : UInt64) {n size : ℕ}
    {result : Int32} (hresult : result < 0) (data : Vector UInt8 n) (out : Vector UInt8 size) :
    dataRead p path offset handle result data out = (result, out) := by
  unfold dataRead
  exact if_neg (Int32.not_lt.2 (Int32.le_of_lt hresult))

end Counts

/-- The provider's filesystem, as a mount sees it. -/
abbrev mounted (sys : Sys σ) (basePath token : Bytes) (uninitialized : σ → Stat)
    (beyond : ℕ → UInt8) (id : UInt32) : FilesystemI σ :=
  filesystem (loopback (ProviderMain.provider sys basePath token uninitialized beyond) id)

section Remote

variable [DecidableEq ι] {sys : Sys σ} {f : FileView σ ι} (basePath token : Bytes)
  (uninitialized : σ → Stat) (beyond : ℕ → UInt8)

/-- `open` over a connection. -/
theorem mounted_opens (hsys : sys.StoresFiles f) (id : UInt32) {path : Bytes}
    (hpath : path.length < 2 ^ 32) {flags : Int32} (hflags : AtPositions flags) (fh : UInt64)
    (s : σ) :
    ∃ r s', (mounted sys basePath token uninitialized beyond id).open path flags fh s = .ok r s' ∧
      f.Opens (systemPath basePath path) r s s' := by
  have hcall : FsCall.open path flags ≠ .getCredentials := by simp
  obtain ⟨r, s', hopen, hnamed, hcontent, hr⟩ :=
    hsys.opens basePath (clip path) hflags.openFlagBits (-1) s
  have hremote := exec_loopback_of_ok
    (ProviderMain.provider sys basePath token uninitialized beyond) id hcall fh hopen
  rw [clip_of_lt hpath] at hr
  refine ⟨_, s', hremote, hnamed, hcontent, ?_⟩
  change (r.1 = 0 ∧ f.opened s (fdOf (if 0 = r.1 then low32 r.2 else fh)) = none ∧ _ ∧ f.opened s' =
    Function.update (f.opened s) (fdOf (if 0 = r.1 then low32 r.2 else fh)) _) ∨ _
  refine hr.imp_left fun hok => ?_
  rw [if_pos hok.1.symm, fdOf_low32]
  exact hok

/-- `read` over a connection. -/
theorem mounted_reads (hsys : sys.StoresFiles f) (id : UInt32) {path : Bytes}
    (hpath : path.length < 2 ^ 32) {size : UInt64} (hsize : size.toNat < 2 ^ 31)
    (buffer : Vector UInt8 size.toNat) {rawOffset : Int64} (h₀ : 0 ≤ rawOffset.toInt)
    (hoffset : rawOffset.toInt < 2 ^ 32) (handle : UInt64) (s : σ) :
    ∃ r s', (mounted sys basePath token uninitialized beyond id).read path buffer
        rawOffset.toUInt64 handle s = .ok r s' ∧
      f.named s' = f.named s ∧ f.content s' = f.content s ∧ f.opened s' = f.opened s ∧
      (0 ≤ r.1 → ∃ i, f.named s (systemPath basePath path) = some i ∧
        PartOf ((f.content s i).drop rawOffset.toInt.toNat) size.toNat r.1.toInt.toNat
          r.2.toList) := by
  have hcall : FsCall.read path size rawOffset.toUInt64 handle ≠ .getCredentials := by simp
  have hlow : (low32 size).toNat = size.toNat :=
    congrArg UInt64.toNat ((low32_eq_iff size).2 (hsize.trans (by decide)))
  obtain ⟨r, s', hread, hnamed, hcontent, hopened, hr⟩ :=
    hsys.reads basePath (clip path) (hlow.trans_lt hsize) (Vector.replicate (low32 size).toNat 0)
      (low32 rawOffset.toUInt64) (low32_ne_invalidHandle handle) s
  have hremote := exec_loopback_of_ok
    (ProviderMain.provider sys basePath token uninitialized beyond) id hcall buffer hread
  rw [clip_of_lt hpath, low32_offset h₀ hoffset] at hr
  refine ⟨_, s', hremote, hnamed, hcontent, hopened, fun hpos => ?_⟩
  change 0 ≤ (dataRead _ path rawOffset.toUInt64 handle r.1 r.2 buffer).1 at hpos
  change ∃ i, _ ∧ PartOf _ _ (dataRead _ path rawOffset.toUInt64 handle r.1 r.2
    buffer).1.toInt.toNat (dataRead _ path rawOffset.toUInt64 handle r.1 r.2 buffer).2.toList
  by_cases hresult : 0 ≤ r.1
  · obtain ⟨i, hi, hle, hlen, htake, hnone⟩ := hr hresult
    obtain ⟨buffer', hdata, hbuffer⟩ := dataRead_of_le
      (ProviderMain.provider sys basePath token uninitialized beyond) path rawOffset.toUInt64
      handle r.2 buffer hle (hle.trans_eq hlow)
    rw [hdata]
    exact ⟨i, hi, hle.trans_eq hlow, hlen, hbuffer.trans htake,
      fun hzero => (hnone hzero).imp_left hlow.symm.trans⟩
  · rw [dataRead_of_neg _ _ _ _ (Int32.not_le.1 hresult)] at hpos
    exact absurd hpos hresult

/-- `write` over a connection. -/
theorem mounted_writes (hsys : sys.StoresFiles f) (id : UInt32) (path : Bytes) {buffer : Bytes}
    (hbuffer : buffer.length < 2 ^ 31) {rawOffset : Int64} (h₀ : 0 ≤ rawOffset.toInt)
    (hoffset : rawOffset.toInt < 2 ^ 32) {handle : UInt64} {s : σ} {i : ι}
    (hopened : f.opened s (fdOf handle) = some i) :
    ∃ n s', (mounted sys basePath token uninitialized beyond id).write path buffer
        rawOffset.toUInt64 handle s = .ok n s' ∧
      f.named s' = f.named s ∧ f.opened s' = f.opened s ∧
      f.content s' = replay 0 (f.content s)
        (if 0 ≤ n then [⟨i, rawOffset.toInt.toNat, buffer.take n.toInt.toNat⟩] else []) := by
  have hcall : FsCall.write path buffer rawOffset.toUInt64 handle ≠ .getCredentials := by simp
  have hclip : clip buffer = buffer := clip_of_lt (hbuffer.trans (by decide))
  obtain ⟨n, s', hwrite, hnamed, hopened', hcontent⟩ := hsys.writes basePath (clip path) hbuffer
    (low32 rawOffset.toUInt64) (low32_ne_invalidHandle handle)
    ((congrArg (f.opened s) (fdOf_low32 handle)).trans hopened)
  rw [low32_offset h₀ hoffset] at hcontent
  rw [← hclip] at hwrite
  exact ⟨n, s', ok_of_plain (exec_loopback_of_ok
    (ProviderMain.provider sys basePath token uninitialized beyond) id hcall ()
    (bind_pure_of_ok hwrite fun result => (result, ()))), hnamed, hopened', hcontent⟩

/-- `release` over a connection. -/
theorem mounted_releases (hsys : sys.StoresFiles f) (id : UInt32) (path : Bytes) (handle : UInt64)
    (s : σ) :
    ∃ n s', (mounted sys basePath token uninitialized beyond id).release path handle s = .ok n s' ∧
      f.named s' = f.named s ∧ f.content s' = f.content s ∧
      f.opened s' = Function.update (f.opened s) (fdOf handle) none := by
  have hcall : FsCall.release path handle ≠ .getCredentials := by simp
  obtain ⟨n, s', hrelease, hnamed, hcontent, hopened⟩ :=
    hsys.releases (clip path) (low32_ne_invalidHandle handle) s
  rw [fdOf_low32] at hopened
  exact ⟨n, s', ok_of_plain (exec_loopback_of_ok
    (ProviderMain.provider sys basePath token uninitialized beyond) id hcall ()
    (bind_pure_of_ok hrelease fun result => (result, ()))), hnamed, hcontent, hopened⟩

end Remote

/-! ### Steps -/

/-- A write that was acknowledged, as far as it was. -/
def FileEffect.write? (f : FileView σ ι) (basePath : Bytes) (s : σ) :
    FileEffect → Option (Write ι UInt8)
  | written path buffer rawOffset result =>
      if 0 ≤ result then
        (f.named s (systemPath basePath path)).map fun i =>
          ⟨i, rawOffset.toInt.toNat, buffer.take result.toInt.toNat⟩
      else none
  | read .. => none

/-- The writes that were acknowledged, in their order. -/
def acknowledged (f : FileView σ ι) (basePath : Bytes) (s : σ) (h : List (SessionEntry σ)) :
    List (Write ι UInt8) :=
  collect (FileEffect.write? f basePath s) h

section Step

variable [DecidableEq ι] (f : FileView σ ι) (basePath : Bytes) (s : σ)

/-- A read that succeeds returns what is there, and nothing only where there is nothing or
nothing is asked for. -/
def FileEffect.Shows (content : ι → Bytes) : FileEffect → Prop
  | .read path rawOffset result buffer =>
      0 ≤ result → ∃ i, f.named s (systemPath basePath path) = some i ∧
        let there := (content i).drop rawOffset.toInt.toNat
        let count := result.toInt.toNat
        count ≤ buffer.length ∧ count ≤ there.length ∧ buffer.take count = there.take count ∧
          (count = 0 → buffer = [] ∨ there = [])
  | .written .. => True

/-- The system after the writes of a session that started in the state `s`.  The
descriptors of the open files are open on what their paths name, one for each. -/
structure Stored (log : List (Write ι UInt8)) (m : Session σ) : Prop where
  named : f.named m.state = f.named s
  content : f.content m.state = replay 0 (f.content s) log
  length : ∀ x ∈ m.files, x.1.length < 2 ^ 32
  opened : ∀ x ∈ m.files, ∃ i, f.named s (systemPath basePath x.1) = some i ∧
    f.opened m.state (fdOf x.2.fh) = some i
  distinct : (m.files.map fun x => fdOf x.2.fh).Nodup

variable {f basePath s} {sys : Sys σ} (token : Bytes) (uninitialized : σ → Stat)
  (beyond : ℕ → UInt8) {log : List (Write ι UInt8)} {m : Session σ}

/-- The state changes, but no file and no descriptor of an open one. -/
theorem Stored.of_same (hS : Stored f basePath s log m) {s' : σ}
    (hnamed : f.named s' = f.named m.state) (hcontent : f.content s' = f.content m.state)
    (hopened : f.opened s' = f.opened m.state) :
    Stored f basePath s log { m with state := s' } where
  named := hnamed.trans hS.named
  content := hcontent.trans hS.content
  length := hS.length
  opened := by
    rw [hopened]
    exact hS.opened
  distinct := hS.distinct

/-- A descriptor that was not open is open on what the path of a new file names. -/
theorem Stored.add (hS : Stored f basePath s log m) {s' : σ}
    (hnamed : f.named s' = f.named m.state) (hcontent : f.content s' = f.content m.state)
    {path : Bytes} (hpath : path.length < 2 ^ 32)
    (hsome : (f.named m.state (systemPath basePath path)).isSome) {fd : Int32}
    (hfresh : f.opened m.state fd = none)
    (hopened : f.opened s' = Function.update (f.opened m.state) fd
      (f.named m.state (systemPath basePath path)))
    {info : FuseFileInfo} (hinfo : fdOf info.fh = fd) :
    Stored f basePath s log ⟨s', m.files ++ [(path, info)]⟩ := by
  subst hinfo
  have hne : ∀ x ∈ m.files, fdOf x.2.fh ≠ fdOf info.fh := by
    intro x hx hsame
    obtain ⟨i, -, hi⟩ := hS.opened x hx
    rw [hsame, hfresh] at hi
    cases hi
  refine ⟨hnamed.trans hS.named, hcontent.trans hS.content, ?_, ?_, ?_⟩
  · intro x hx
    rcases List.mem_append.1 hx with hx | hx
    · exact hS.length x hx
    · obtain rfl := List.mem_singleton.1 hx
      exact hpath
  · intro x hx
    rw [hopened]
    rcases List.mem_append.1 hx with hx | hx
    · rw [Function.update_of_ne (hne x hx)]
      exact hS.opened x hx
    · obtain rfl := List.mem_singleton.1 hx
      obtain ⟨i, hi⟩ := Option.isSome_iff_exists.1 hsome
      refine ⟨i, hS.named ▸ hi, ?_⟩
      rw [Function.update_self, hi]
  · rw [List.map_append, List.map_singleton]
    refine List.nodup_append.2 ⟨hS.distinct, List.nodup_singleton _, ?_⟩
    intro fd hfd fd' hfd'
    obtain ⟨x, hx, rfl⟩ := List.mem_map.1 hfd
    obtain rfl := List.mem_singleton.1 hfd'
    exact hne x hx

/-- A file is opened, or is not. -/
theorem Stored.onOpen (hsys : sys.StoresFiles f) (hS : Stored f basePath s log m) {path : Bytes}
    (hpath : path.length < 2 ^ 32) {flags : Int32} (hflags : AtPositions flags) (id : UInt32) :
    let r := m.onOpen (ProviderMain.provider sys basePath token uninitialized beyond) path flags id
    r.2 = [] ∧ Stored f basePath s log r.1 := by
  obtain ⟨r, s', hopen, hnamed, hcontent, hr⟩ :=
    mounted_opens basePath token uninitialized beyond hsys id hpath hflags 0 m.state
  have hfs := bind_pure_of_ok hopen fun r => (r.1, ({ flags := flags, fh := r.2 } : FuseFileInfo))
  unfold Session.onOpen fsOpen
  dsimp only at hfs ⊢
  rw [hfs]
  refine ⟨rfl, ?_⟩
  dsimp only
  obtain ⟨hzero, hfresh, hsome, hopened⟩ | ⟨hneg, hopened⟩ := hr
  · rw [if_pos hzero]
    exact hS.add hnamed hcontent hpath hsome hfresh hopened rfl
  · rw [if_neg (Int32.ne_of_lt hneg)]
    exact hS.of_same hnamed hcontent hopened

/-- The descriptor of an open file is closed with the file. -/
theorem Stored.onRelease (hsys : sys.StoresFiles f) (hS : Stored f basePath s log m) {i : ℕ}
    {file : Bytes × FuseFileInfo} (hi : m.files[i]? = some file) (id : UInt32) :
    let r := m.onRelease (ProviderMain.provider sys basePath token uninitialized beyond) file i id
    r.2 = [] ∧ Stored f basePath s log r.1 := by
  obtain ⟨n, s', hrelease, hnamed, hcontent, hopened⟩ :=
    mounted_releases basePath token uninitialized beyond hsys id file.1 file.2.fh m.state
  unfold Session.onRelease fsRelease
  dsimp only [fsGetHandle]
  rw [hrelease]
  refine ⟨rfl, ?_⟩
  obtain ⟨hlt, rfl⟩ := List.getElem?_eq_some_iff.1 hi
  have hperm := (List.getElem_cons_eraseIdx_perm hlt).map fun x => fdOf x.2.fh
  have hnodup := hperm.nodup_iff.2 hS.distinct
  rw [List.map_cons] at hnodup
  obtain ⟨hother, hrest⟩ := List.nodup_cons.1 hnodup
  refine ⟨hnamed.trans hS.named, hcontent.trans hS.content,
    fun x hx => hS.length x (List.mem_of_mem_eraseIdx hx), ?_, hrest⟩
  intro x hx
  have hne : fdOf x.2.fh ≠ fdOf m.files[i].2.fh :=
    fun hsame => hother (hsame ▸ List.mem_map_of_mem hx)
  dsimp only
  rw [hopened, Function.update_of_ne hne]
  exact hS.opened x (List.mem_of_mem_eraseIdx hx)

/-- A write is acknowledged as far as it was made. -/
theorem Stored.onWrite (hsys : sys.StoresFiles f) (hS : Stored f basePath s log m)
    {file : Bytes × FuseFileInfo} (hfile : file ∈ m.files) {buffer : Bytes}
    (hbuffer : buffer.length < 2 ^ 31) {rawOffset : Int64} (h₀ : 0 ≤ rawOffset.toInt)
    (hoffset : rawOffset.toInt < 2 ^ 32) (id : UInt32) :
    let r := m.onWrite (ProviderMain.provider sys basePath token uninitialized beyond) file buffer
      rawOffset id
    ∃ result, r.2 = [.written file.1 buffer rawOffset result] ∧
      Stored f basePath s (log ++ r.2.filterMap (FileEffect.write? f basePath s)) r.1 := by
  obtain ⟨i, hi, hopened⟩ := hS.opened file hfile
  obtain ⟨n, s', hwrite, hnamed', hopened', hcontent⟩ := mounted_writes basePath token
    uninitialized beyond hsys id file.1 hbuffer h₀ hoffset hopened
  unfold Session.onWrite fsWrite
  dsimp only [fsGetHandle]
  rw [hwrite]
  have hlog : [FileEffect.written file.1 buffer rawOffset n].filterMap
      (FileEffect.write? f basePath s) =
        if 0 ≤ n then [⟨i, rawOffset.toInt.toNat, buffer.take n.toInt.toNat⟩] else [] := by
    split_ifs with hpos
    · simp [FileEffect.write?, hpos, hi]
    · simp [FileEffect.write?, hpos]
  refine ⟨n, rfl, ?_⟩
  dsimp only
  rw [hlog]
  refine ⟨hnamed'.trans hS.named, ?_, hS.length, ?_, hS.distinct⟩
  · rw [replay_append, ← hS.content]
    exact hcontent
  · rw [hopened']
    exact hS.opened

/-- A read of an open file. -/
theorem Stored.onRead (hsys : sys.StoresFiles f) (hS : Stored f basePath s log m)
    {file : Bytes × FuseFileInfo} (hfile : file ∈ m.files) {size : UInt64}
    (hsize : size.toNat < 2 ^ 31) (buffer : Vector UInt8 size.toNat) {rawOffset : Int64}
    (h₀ : 0 ≤ rawOffset.toInt) (hoffset : rawOffset.toInt < 2 ^ 32) (id : UInt32) :
    let r := m.onRead (ProviderMain.provider sys basePath token uninitialized beyond) file buffer
      rawOffset id
    ∃ result buffer', r.2 = [.read file.1 rawOffset result buffer'] ∧
      (FileEffect.read file.1 rawOffset result buffer').Shows f basePath s (f.content m.state) ∧
      Stored f basePath s log r.1 := by
  obtain ⟨r, s', hread, hnamed, hcontent, hopened, hr⟩ := mounted_reads basePath token
    uninitialized beyond hsys id (hS.length file hfile) hsize buffer h₀ hoffset file.2.fh m.state
  unfold Session.onRead fsRead
  dsimp only [fsGetHandle]
  rw [hread]
  refine ⟨r.1, r.2.toList, rfl, fun hpos => ?_, hS.of_same hnamed hcontent hopened⟩
  obtain ⟨i, hi, hle, hlen, htake, hnone⟩ := hr hpos
  refine ⟨i, hS.named ▸ hi, ?_, hlen, htake, fun hzero => (hnone hzero).imp_left fun h => ?_⟩
  · rw [Vector.length_toList]
    exact hle
  · exact List.eq_nil_of_length_eq_zero (r.2.length_toList.trans h)

/-- **What a step shows and what it leaves.** -/
theorem Stored.step (hsys : sys.StoresFiles f) (hS : Stored f basePath s log m) (e : FileEvent)
    {h : List (SessionEntry σ)}
    (hC : SessionContract h ⟨m, e,
      (m.step (ProviderMain.provider sys basePath token uninitialized beyond) e).2⟩) :
    let r := m.step (ProviderMain.provider sys basePath token uninitialized beyond) e
    (∀ o ∈ r.2, o.Shows f basePath s (replay 0 (f.content s) log)) ∧
      Stored f basePath s (log ++ r.2.filterMap (FileEffect.write? f basePath s)) r.1 := by
  have hquiet {r : Session σ × List FileEffect} (hr : r.2 = []) (hS : Stored f basePath s log r.1) :
      (∀ o ∈ r.2, o.Shows f basePath s (replay 0 (f.content s) log)) ∧
        Stored f basePath s (log ++ r.2.filterMap (FileEffect.write? f basePath s)) r.1 := by
    rw [hr, List.filterMap_nil, List.append_nil]
    exact ⟨fun o ho => absurd ho List.not_mem_nil, hS⟩
  cases e with
  | «open» path flags id =>
      obtain ⟨hnone, hS'⟩ := hS.onOpen token uninitialized beyond hsys hC.1 hC.2 id
      exact hquiet hnone hS'
  | read i size buffer rawOffset id =>
      dsimp only [Session.step]
      cases hi : m.files[i]? with
      | none => exact hquiet rfl hS
      | some file =>
          obtain ⟨result, buffer', heffects, hshows, hS'⟩ := hS.onRead token uninitialized beyond
            hsys (List.mem_of_getElem? hi) hC.1 buffer hC.2.1 hC.2.2 id
          rw [hS.content] at hshows
          dsimp only
          rw [heffects]
          refine ⟨fun o ho => List.mem_singleton.1 ho ▸ hshows, ?_⟩
          rw [List.filterMap_cons_none rfl, List.filterMap_nil, List.append_nil]
          exact hS'
  | write i buffer rawOffset id =>
      dsimp only [Session.step]
      cases hi : m.files[i]? with
      | none => exact hquiet rfl hS
      | some file =>
          obtain ⟨result, heffects, hS'⟩ := hS.onWrite token uninitialized beyond hsys
            (List.mem_of_getElem? hi) hC.1 hC.2.1 hC.2.2 id
          refine ⟨fun o ho => ?_, hS'⟩
          dsimp only at ho
          rw [heffects, List.mem_singleton] at ho
          exact ho ▸ trivial
  | release i id =>
      dsimp only [Session.step]
      cases hi : m.files[i]? with
      | none => exact hquiet rfl hS
      | some file =>
          obtain ⟨hnone, hS'⟩ := hS.onRelease token uninitialized beyond hsys hi id
          exact hquiet hnone hS'

end Step

/-! ### Runs -/

section Run

variable [DecidableEq ι] {sys : Sys σ} {f : FileView σ ι}

/-- What every step shows, and the files after a run. -/
theorem session_stored (hsys : sys.StoresFiles f) (basePath token : Bytes)
    (uninitialized : σ → Stat) (beyond : ℕ → UInt8) (s : σ) {evs : List FileEvent}
    (hC : (session (ProviderMain.provider sys basePath token uninitialized beyond) s).Admits
      SessionContract evs) :
    let h := (session (ProviderMain.provider sys basePath token uninitialized beyond) s).trace evs
    (∀ h₁ x h₂, h = h₁ ++ x :: h₂ → ∀ o ∈ x.effects,
        o.Shows f basePath s (replay 0 (f.content s) (acknowledged f basePath s h₁))) ∧
      Stored f basePath s (acknowledged f basePath s h)
        ((session (ProviderMain.provider sys basePath token uninitialized beyond) s).state
          evs) := by
  refine Machine.invariant (M := session
    (ProviderMain.provider sys basePath token uninitialized beyond) s)
    (P := fun h m => (∀ h₁ x h₂, h = h₁ ++ x :: h₂ → ∀ o ∈ x.effects,
        o.Shows f basePath s (replay 0 (f.content s) (acknowledged f basePath s h₁))) ∧
      Stored f basePath s (acknowledged f basePath s h) m) ⟨?_, ?_⟩ ?_ evs hC
  · intro h₁ x h₂ h
    exact absurd h.symm (by simp)
  · exact ⟨rfl, rfl, fun x hx => absurd hx List.not_mem_nil,
      fun x hx => absurd hx List.not_mem_nil, List.nodup_nil⟩
  · rintro h m e ⟨hshown, hS⟩ he
    obtain ⟨hshows, hS'⟩ := hS.step token uninitialized beyond hsys e he
    refine ⟨?_, ?_⟩
    · intro h₁ x h₂ hsplit
      rcases split_append_singleton hsplit with ⟨rfl, rfl⟩ | ⟨h₂', hold⟩
      · exact hshows
      · exact hshown h₁ x h₂' hold
    · rw [acknowledged, collect_append_singleton]
      exact hS'

/-- **Files of a mount are what was written to them.**  In every session, a read that
succeeds returns a part of what is at its position after the writes that were acknowledged
before it, each as far as it was, in their order; it returns nothing only at the end of
the file.  What is in the files at the end are these writes and no others. -/
theorem session_content (hsys : sys.StoresFiles f) (basePath token : Bytes)
    (uninitialized : σ → Stat) (beyond : ℕ → UInt8) (s : σ) {evs : List FileEvent}
    (hC : (session (ProviderMain.provider sys basePath token uninitialized beyond) s).Admits
      SessionContract evs) :
    let M := session (ProviderMain.provider sys basePath token uninitialized beyond) s
    (∀ h₁ x h₂, M.trace evs = h₁ ++ x :: h₂ → ∀ o ∈ x.effects,
        o.Shows f basePath s (replay 0 (f.content s) (acknowledged f basePath s h₁))) ∧
      f.content (M.state evs).state =
        replay 0 (f.content s) (acknowledged f basePath s (M.trace evs)) := by
  obtain ⟨hshows, hS⟩ := session_stored hsys basePath token uninitialized beyond s hC
  exact ⟨hshows, hS.content⟩

/-- What was written last to a file at a position is read there, as far as both go. -/
theorem session_reads_back (hsys : sys.StoresFiles f) (basePath token : Bytes)
    (uninitialized : σ → Stat) (beyond : ℕ → UInt8) (s : σ) {evs : List FileEvent}
    (hC : (session (ProviderMain.provider sys basePath token uninitialized beyond) s).Admits
      SessionContract evs)
    {h₁ h₂ h₃ : List (SessionEntry σ)} {x y : SessionEntry σ}
    (hsplit : (session (ProviderMain.provider sys basePath token uninitialized beyond) s).trace
      evs = (h₁ ++ x :: h₂) ++ y :: h₃)
    {w : Write ι UInt8} (hw : x.effects.filterMap (FileEffect.write? f basePath s) = [w])
    (hlast : ∀ w' ∈ acknowledged f basePath s h₂, w'.key ≠ w.key)
    {path buffer : Bytes} {rawOffset : Int64} {result : Int32}
    (hread : FileEffect.read path rawOffset result buffer ∈ y.effects) (hresult : 0 ≤ result)
    (hpath : f.named s (systemPath basePath path) = some w.key)
    (hpos : rawOffset.toInt.toNat = w.pos) {n : ℕ} (hn : n ≤ result.toInt.toNat)
    (hdata : n ≤ w.data.length) : buffer.take n = w.data.take n := by
  obtain ⟨hshows, -⟩ := session_stored hsys basePath token uninitialized beyond s hC
  obtain ⟨i, hi, -, -, htake, -⟩ := hshows _ _ _ hsplit _ hread hresult
  obtain rfl : w.key = i := Option.some.inj (hpath.symm.trans hi)
  have hlog : acknowledged f basePath s (h₁ ++ x :: h₂) =
      acknowledged f basePath s h₁ ++ w :: acknowledged f basePath s h₂ := by
    simp [acknowledged, collect, hw]
  calc buffer.take n
      = (buffer.take result.toInt.toNat).take n := by rw [List.take_take, Nat.min_eq_left hn]
    _ = ((replay 0 (f.content s) (acknowledged f basePath s (h₁ ++ x :: h₂)) w.key).drop
          rawOffset.toInt.toNat).take n := by
      rw [htake, List.take_take, Nat.min_eq_left hn]
    _ = w.data.take n := by
      rw [hlog, hpos]
      exact take_drop_replay 0 (f.content s) _ hlast hdata

end Run

/-! ### A system with one file -/

/-- The file is written behind its first byte, and read. -/
def memoryRun : List FileEvent :=
  [.open [0x2f, 0x61] 2 1, .write 0 [0x68, 0x69] 1 2, .read 0 4 (Vector.replicate 4 0) 0 3,
    .release 0 4]

/-- The session on the file, which has one byte. -/
def memorySession : Machine (Session Memory) FileEvent FileEffect :=
  session (ProviderMain.provider Sys.memory [0x2f, 0x62] [] (fun _ => default) fun _ => 0)
    ⟨[0x78], []⟩

/-- The file is read after it was opened and written. -/
def memoryRead : SessionEntry Memory :=
  memorySession.entry (memorySession.state (memoryRun.take 2))
    (.read 0 4 (Vector.replicate 4 0) 0 3)

theorem session_content_memory :
    (FileEffect.read [0x2f, 0x61] 0 3 [0x78, 0x68, 0x69, 0]).Shows Memory.view [0x2f, 0x62]
        ⟨[0x78], []⟩ (replay 0 (fun _ => [0x78]) [⟨(), 1, [0x68, 0x69]⟩]) ∧
      Memory.view.content (memorySession.state memoryRun).state =
        replay 0 (fun _ => [0x78]) [⟨(), 1, [0x68, 0x69]⟩] := by
  have hC : memorySession.Admits SessionContract memoryRun := by
    refine ⟨⟨?_, ?_⟩, ⟨?_, ?_, ?_⟩, ⟨?_, ?_, ?_⟩, trivial, trivial⟩ <;> decide
  obtain ⟨hshows, hcontent⟩ := session_content Sys.memory_storesFiles [0x2f, 0x62] []
    (fun _ => default) (fun _ => 0) ⟨[0x78], []⟩ hC
  have hsplit : memorySession.trace memoryRun =
      memorySession.trace (memoryRun.take 2) ++ memoryRead :: _ :=
    memorySession.traceFrom_append _ (memoryRun.take 2) (memoryRun.drop 2)
  have hread : memoryRead.effects = [.read [0x2f, 0x61] 0 3 [0x78, 0x68, 0x69, 0]] := rfl
  have hwritten : acknowledged Memory.view [0x2f, 0x62] ⟨[0x78], []⟩
      (memorySession.trace (memoryRun.take 2)) = [⟨(), 1, [0x68, 0x69]⟩] := rfl
  have hall : acknowledged Memory.view [0x2f, 0x62] ⟨[0x78], []⟩
      (memorySession.trace memoryRun) = [⟨(), 1, [0x68, 0x69]⟩] := rfl
  have hshown := hshows _ _ _ hsplit _ (hread ▸ List.mem_singleton_self _)
  rw [hwritten] at hshown
  exact ⟨hshown, hcontent.trans (congrArg _ hall)⟩

end Webfuse
