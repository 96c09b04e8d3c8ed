/-
# Handle or path

Six operations of `provider_main.cpp` are given a path and a handle, and decide for
themselves which of the two they act on.  A handle that is valid is the descriptor to
act on; without one, four of them act on the file that the path names, and `fsync` and
`release` do nothing.

The calls that are made say what an operation acts on.  Five of the operations keep to
the rule, and `read` has its test the other way round (`dispatched_iff`).
-/

import Mathlib.Tactic.FinCases
import Webfuse.Provider.Calls

namespace Webfuse

open Basis

variable {σ : Type}

/-- Something is done, all of it on the descriptor. -/
def ActsOnDescriptor (fd : Int32) (calls : List SysCall) : Prop :=
  calls ≠ [] ∧ ∀ c ∈ calls, c.descriptors = [fd] ∧ c.paths = []

/-- Something is done on the file a path names: by one call that is given the path, or on
the descriptor of opening it, where that succeeds. -/
def ActsOnPath (path : Bytes) (calls : List SysCall) : Prop :=
  (∃ c, calls = [c] ∧ c.descriptors = [] ∧ c.paths = [path]) ∨
    ∃ flags fd rest, calls = .open path flags fd :: rest ∧
      ∀ c ∈ rest, 0 ≤ fd ∧ c.descriptors = [fd] ∧ c.paths = []

/-- What the calls of an operation with a handle have to act on. -/
def Dispatched (basePath : Bytes) (call : FsCall) (calls : List SysCall) : Prop :=
  match call with
  | .truncate path _ handle | .utimens path _ _ handle | .read path _ _ handle
  | .write path _ _ handle =>
      (handle ≠ invalidHandle → ActsOnDescriptor (fdOf handle) calls) ∧
        (handle = invalidHandle →
          ActsOnPath (cStr (ProviderMain.getFullPath basePath path)) calls)
  | .fsync _ _ handle | .release _ handle =>
      (handle ≠ invalidHandle → ActsOnDescriptor (fdOf handle) calls) ∧
        (handle = invalidHandle → ∀ c ∈ calls, c.descriptors = [])
  | _ => True

/-- One call on the descriptor. -/
theorem ActsOnDescriptor.one {fd : Int32} {c : SysCall} (hfd : c.descriptors = [fd])
    (hpaths : c.paths = []) : ActsOnDescriptor fd [c] := by
  refine ⟨by simp, fun c' hc' => ?_⟩
  rw [List.mem_singleton] at hc'
  rw [hc']
  exact ⟨hfd, hpaths⟩

/-- The base path is absolute, and so is every path behind it. -/
theorem BasePath.head_append (base : BasePath) (path : Bytes) :
    (cStr (ProviderMain.getFullPath base.bytes path)).head? = some 0x2f := by
  rw [ProviderMain.getFullPath, base.cStr_append]
  cases hbase : base.names with
  | nil => simp [bytes, hbase, ascii]
  | cons name names => simp [bytes, hbase, joined]

namespace ProviderMain

variable (sys : Sys σ) (basePath token path : Bytes) (s : σ)

/-- The operations that make one call and answer with its status. -/
theorem sysCalls_statusOf {call : FsCall} {x : StateM (σ × List SysCall) Int32}
    (h : call.run (filesystem sys.recorded basePath token) = discard (statusOf sys.recorded x)) :
    sysCalls sys basePath token call s = (x (s, [])).2.2 := by
  unfold sysCalls
  rw [h]
  rfl

theorem sysCalls_truncate (size handle : UInt64) :
    sysCalls sys basePath token (.truncate path size handle) s =
      if handle = invalidHandle then [.truncate (cStr (getFullPath basePath path)) size.toInt64]
      else [.ftruncate (fdOf handle) size.toInt64] := by
  rw [sysCalls_statusOf sys basePath token s rfl]
  split_ifs <;> rfl

theorem sysCalls_fsync (isDatasync : Bool) (handle : UInt64) :
    sysCalls sys basePath token (.fsync path isDatasync handle) s =
      if handle = invalidHandle then []
      else if !isDatasync then [.fsync (fdOf handle)] else [.fdatasync (fdOf handle)] := by
  rw [sysCalls_statusOf sys basePath token s rfl]
  by_cases hhandle : handle = invalidHandle
  · rw [if_neg (not_not.2 hhandle), if_pos hhandle]
    rfl
  · rw [if_pos hhandle, if_neg hhandle]
    split_ifs <;> rfl

theorem sysCalls_utimens (tv₀ tv₁ : Timespec) (handle : UInt64) :
    sysCalls sys basePath token (.utimens path tv₀ tv₁ handle) s =
      if handle = invalidHandle then
        [.utimensat (-1) (cStr (getFullPath basePath path)) tv₀ tv₁ 0]
      else [.futimens (fdOf handle) tv₀ tv₁] := by
  rw [sysCalls_statusOf sys basePath token s rfl]
  split_ifs <;> rfl

theorem sysCalls_release (handle : UInt64) :
    sysCalls sys basePath token (.release path handle) s =
      if handle = invalidHandle then [] else [.close (fdOf handle)] := by
  rw [sysCalls_statusOf sys basePath token s rfl]
  by_cases hhandle : handle = invalidHandle
  · rw [if_neg (not_not.2 hhandle), if_pos hhandle]
    rfl
  · rw [if_pos hhandle, if_neg hhandle]
    rfl

theorem finalState_discard {α : Type} (x : Fs σ α) (s : σ) :
    finalState (discard x s) = finalState (x s) := by
  change finalState (EStateM.map _ x s) = _
  unfold EStateM.map
  cases x s <;> rfl

theorem finalState_sysCall_bind {α β : Type} (x : StateM σ α) (f : α → Fs σ β) (s : σ) :
    finalState ((sysCall x >>= f) s) = finalState (f (x s).1 (x s).2) := rfl

/-- Opening a file, and calling something on the descriptor if there is one. -/
theorem sysCalls_opened {α : Type} (flags : Int32) {f g : Int32 → Fs (σ × List SysCall) α}
    {c : Int32 → List SysCall}
    (hf : ∀ fd t, (finalState (f fd t)).2 = t.2 ++ c fd)
    (hg : ∀ fd t, (finalState (g fd t)).2 = t.2) :
    (finalState ((sysCall (sys.recorded.open path flags) >>= fun fd =>
        if 0 ≤ fd then f fd else g fd) (s, []))).2 =
      .open path flags (sys.open path flags s).1 ::
        if 0 ≤ (sys.open path flags s).1 then c (sys.open path flags s).1 else [] := by
  rw [finalState_sysCall_bind]
  by_cases hopen : 0 ≤ (sys.recorded.open path flags (s, [])).1
  · rw [if_pos hopen, hf]
    exact congrArg (SysCall.open _ _ _ :: ·) (if_pos hopen).symm
  · rw [if_neg hopen, hg]
    exact congrArg (SysCall.open _ _ _ :: ·) (if_neg hopen).symm

theorem sysCalls_read (bufferSize offset handle : UInt64) :
    sysCalls sys basePath token (.read path bufferSize offset handle) s =
      if handle = invalidHandle then
        [.pread (fdOf handle) bufferSize.toNat offset.toInt64]
      else
        let fd := (sys.open (cStr (getFullPath basePath path)) O_RDONLY s).1
        .open (cStr (getFullPath basePath path)) O_RDONLY fd ::
          if 0 ≤ fd then [.pread fd bufferSize.toNat offset.toInt64, .close fd] else [] := by
  unfold sysCalls
  change (finalState (discard (read sys.recorded basePath path _ offset handle) (s, []))).2 = _
  rw [finalState_discard]
  unfold read
  by_cases hhandle : handle = invalidHandle
  · rw [if_neg (not_not.2 hhandle), if_pos hhandle, finalState_sysCall_bind]
    rfl
  · rw [if_pos hhandle, if_neg hhandle]
    refine sysCalls_opened sys _ s O_RDONLY
      (c := fun fd => [.pread fd bufferSize.toNat offset.toInt64, .close fd])
      (fun fd t => ?_) (fun fd t => rfl)
    exact List.append_assoc ..

theorem sysCalls_write (buffer : Bytes) (offset handle : UInt64) :
    sysCalls sys basePath token (.write path buffer offset handle) s =
      if handle = invalidHandle then
        let fd := (sys.open (cStr (getFullPath basePath path)) O_WRONLY s).1
        .open (cStr (getFullPath basePath path)) O_WRONLY fd ::
          if 0 ≤ fd then [.pwrite fd buffer offset.toInt64, .close fd] else []
      else [.pwrite (fdOf handle) buffer offset.toInt64] := by
  unfold sysCalls
  change (finalState (discard (write sys.recorded basePath path buffer offset handle)
    (s, []))).2 = _
  rw [finalState_discard]
  unfold write
  by_cases hhandle : handle = invalidHandle
  · rw [if_pos hhandle, if_pos hhandle]
    refine sysCalls_opened sys _ s O_WRONLY
      (c := fun fd => [.pwrite fd buffer offset.toInt64, .close fd])
      (fun fd t => ?_) (fun fd t => rfl)
    exact List.append_assoc ..
  · rw [if_neg hhandle, if_neg hhandle, finalState_sysCall_bind]
    rfl

end ProviderMain

/-- Opening a file and acting on what was opened, if it was, is acting on its path. -/
theorem ActsOnPath.opened {path : Bytes} {flags fd : Int32} {rest : List SysCall}
    (h : ∀ c ∈ rest, c.descriptors = [fd] ∧ c.paths = []) :
    ActsOnPath path (.open path flags fd :: if 0 ≤ fd then rest else []) := by
  refine .inr ⟨flags, fd, _, rfl, ?_⟩
  split_ifs with hopen
  · exact fun c hc => ⟨hopen, h c hc⟩
  · exact fun c hc => absurd hc List.not_mem_nil

/-- The two branches of the test for a handle, each with its own condition. -/
theorem handle_or_path {P Q : List SysCall → Prop} {handle : UInt64}
    {onPath onHandle : List SysCall} (hhandle : P onHandle) (hpath : Q onPath) :
    (handle ≠ invalidHandle → P (if handle = invalidHandle then onPath else onHandle)) ∧
      (handle = invalidHandle → Q (if handle = invalidHandle then onPath else onHandle)) := by
  refine ⟨fun hvalid => ?_, fun hinvalid => ?_⟩
  · rwa [if_neg hvalid]
  · rwa [if_pos hinvalid]

/-- `read` takes an invalid handle for a descriptor, and does not look at a valid one. -/
theorem not_dispatched_read (sys : Sys σ) (basePath token path : Bytes)
    (bufferSize offset handle : UInt64) (s : σ) :
    ¬ Dispatched basePath (.read path bufferSize offset handle)
      (ProviderMain.sysCalls sys basePath token (.read path bufferSize offset handle) s) := by
  unfold Dispatched
  rw [ProviderMain.sysCalls_read]
  rintro ⟨hvalid, hinvalid⟩
  by_cases hhandle : handle = invalidHandle
  · have hpath := hinvalid hhandle
    rw [if_pos hhandle] at hpath
    rcases hpath with ⟨c, hc, hdescriptors, -⟩ | ⟨flags, fd, rest, hopen, -⟩
    · cases hc
      cases hdescriptors
    · cases hopen
  · have hdescriptor := hvalid hhandle
    rw [if_neg hhandle] at hdescriptor
    have hopen := (hdescriptor.2 _ (List.mem_cons_self ..)).1
    cases hopen

/-- **Every operation but `read` acts on the handle or on the path as it is to.** -/
theorem dispatched_iff (sys : Sys σ) (base : BasePath) (token : Bytes) (call : FsCall) (s : σ) :
    Dispatched base.bytes call (ProviderMain.sysCalls sys base.bytes token call s) ↔
      call.requestType ≠ .read := by
  cases call with
  | truncate path size handle =>
      refine iff_of_true ?_ nofun
      unfold Dispatched
      rw [ProviderMain.sysCalls_truncate]
      exact handle_or_path (.one rfl rfl) (.inl ⟨_, rfl, rfl, rfl⟩)
  | utimens path tv₀ tv₁ handle =>
      refine iff_of_true ?_ nofun
      unfold Dispatched
      rw [ProviderMain.sysCalls_utimens]
      exact handle_or_path (.one rfl rfl) (.inl ⟨_, rfl, if_pos (base.head_append path), rfl⟩)
  | write path buffer offset handle =>
      refine iff_of_true ?_ nofun
      unfold Dispatched
      rw [ProviderMain.sysCalls_write]
      refine handle_or_path (.one rfl rfl) (.opened fun c hc => ?_)
      fin_cases hc <;> exact ⟨rfl, rfl⟩
  | fsync path isDatasync handle =>
      refine iff_of_true ?_ nofun
      unfold Dispatched
      rw [ProviderMain.sysCalls_fsync]
      apply handle_or_path (Q := fun calls => ∀ c ∈ calls, c.descriptors = [])
      · cases isDatasync <;> exact .one rfl rfl
      · exact fun c hc => absurd hc List.not_mem_nil
  | release path handle =>
      refine iff_of_true ?_ nofun
      unfold Dispatched
      rw [ProviderMain.sysCalls_release]
      apply handle_or_path (Q := fun calls => ∀ c ∈ calls, c.descriptors = [])
      · exact .one rfl rfl
      · exact fun c hc => absurd hc List.not_mem_nil
  | read path bufferSize offset handle =>
      exact iff_of_false (not_dispatched_read sys base.bytes token path bufferSize offset handle s)
        (not_not.2 rfl)
  | _ => exact iff_of_true trivial nofun

/-- A system in which every file can be opened. -/
def Sys.opening : Sys Unit := { Sys.failing Unit with «open» := fun _ _ => pure 7 }

/-- With handle 3 the file is opened anew; without a handle, descriptor -1 is read. -/
theorem read_swapped :
    ProviderMain.sysCalls Sys.opening BasePath.b.bytes [] (.read (ascii "/a") 4 0 3) () =
      [.open (ascii "/b/a") O_RDONLY 7, .pread 7 4 0, .close 7] ∧
    ProviderMain.sysCalls Sys.opening BasePath.b.bytes [] (.read (ascii "/a") 4 0 invalidHandle)
      () = [.pread (-1) 4 0] ∧
    ¬ Dispatched BasePath.b.bytes (.read (ascii "/a") 4 0 3)
      (ProviderMain.sysCalls Sys.opening BasePath.b.bytes [] (.read (ascii "/a") 4 0 3) ()) ∧
    ¬ Dispatched BasePath.b.bytes (.read (ascii "/a") 4 0 invalidHandle)
      (ProviderMain.sysCalls Sys.opening BasePath.b.bytes []
        (.read (ascii "/a") 4 0 invalidHandle) ()) :=
  ⟨rfl, rfl, not_dispatched_read _ _ _ _ _ _ _ _, not_dispatched_read _ _ _ _ _ _ _ _⟩

end Webfuse
