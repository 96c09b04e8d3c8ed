/-
# Descriptors of open files

The descriptors of `webfuse_provider` from end to end.  A file that is opened in the
mounted filesystem is opened by the provider, and its descriptor comes back as the
handle of the open file, through both codecs, into `fuse_file_info`.  Later operations
on the file take it the other way, and the last one, `release`, closes it.

`mount` runs any operations on any number of open files, one at a time.  In every run
the provider has the descriptors of the open files and no others: none is left behind,
none is closed twice and none is used when it is closed (`descriptors_accounted`).

An operation without an open file does not reach its file: of the handle
`(uint64_t) -1` the low half arrives, which is valid and stands for descriptor -1.
-/

import Webfuse.Basis.Ledger
import Webfuse.Fuse.Operations
import Webfuse.Provider.Containment
import Webfuse.Provider.Dispatch
import Webfuse.Provider.Files
import Webfuse.Wire.Remote

namespace Webfuse

open Basis Service

variable {σ τ : Type}

/-- The state of the provider, and the files that are open in the mounted filesystem. -/
structure Mount (σ : Type) where
  state : σ
  files : List FuseFileInfo

/-- An operation, on one of the open files or on none, with the id of its request. -/
structure FuseEvent where
  call : FuseCall
  file : Option ℕ
  id : UInt32

/-- The files that are open after an operation: one more when a file was opened, one less
when it was released. -/
def FuseCall.filesAfter (files : List FuseFileInfo) (file : Option ℕ) (result : Int32)
    (info : Option FuseFileInfo) : FuseCall → List FuseFileInfo
  | «open» .. => if 0 = result then files ++ info.toList else files
  | create .. => if 0 = result then files ++ info.toList else files
  | release _ =>
      match file with
      | some i => files.eraseIdx i
      | none => files
  | _ => files

/-- `webfuse_provider` behind the service, with the system calls it makes as effects.  An
operation on a file that is not open cannot happen and changes nothing. -/
def Mount.step (p : Provider (σ × List SysCall)) (m : Mount σ) (e : FuseEvent) :
    Mount σ × List SysCall :=
  match e.file.map (m.files[·]?) with
  | some none => (m, [])
  | some (some info) => run (some info)
  | none => run none
where
  run (info : Option FuseFileInfo) : Mount σ × List SysCall :=
    match e.call.run (filesystem (loopback p e.id)) info (m.state, []) with
    | .ok (result, info) (s, calls) => (⟨s, e.call.filesAfter m.files e.file result info⟩, calls)
    | .error _ (s, calls) => ({ m with state := s }, calls)

/-- A mount of the directory `basePath`. -/
def mount (sys : Sys σ) (basePath token : Bytes) (uninitialized : σ → Stat) (beyond : ℕ → UInt8)
    (s : σ) : Machine (Mount σ) FuseEvent SysCall where
  init := ⟨s, []⟩
  step := Mount.step (ProviderMain.provider sys.recorded basePath token
    (fun s => uninitialized s.1) beyond)

/-- Descriptors are taken by `open` and `creat` and let go by `close`; negative ones are
none. -/
def descriptorLedger : Ledger Int32 SysCall where
  takes
    | .open _ _ fd => if 0 ≤ fd then some fd else none
    | .creat _ _ fd => if 0 ≤ fd then some fd else none
    | _ => none
  drops
    | .close fd => some fd
    | _ => none
  uses c := c.descriptors.filter (0 ≤ ·)

/-- The descriptors of open files. -/
def descriptorsOf (files : List FuseFileInfo) : Multiset Int32 := files.map fun f => fdOf f.fh

/-- After a call that failed `errno` says why. -/
structure Sys.SetsErrno (sys : Sys σ) : Prop where
  «open» : ∀ path flags s, (sys.open path flags s).1 < 0 →
    sys.errno (sys.open path flags s).2 ≠ 0
  creat : ∀ path mode s, (sys.creat path mode s).1 < 0 →
    sys.errno (sys.creat path mode s).2 ≠ 0

/-! ### One operation -/

/-- The calls of an operation take the descriptors of the open files to those of the files
that are open after it, and use that of the file of the operation only. -/
structure Accounts (files : List FuseFileInfo) (info : Option FuseFileInfo)
    (calls : List SysCall) (files' : List FuseFileInfo) : Prop where
  held : descriptorLedger.held (descriptorsOf files) calls = descriptorsOf files'
  covered : descriptorLedger.Covered (descriptorsOf files) calls
  own : ∀ c ∈ calls, ∀ fd ∈ descriptorLedger.uses c,
    (∃ f, info = some f ∧ fdOf f.fh = fd) ∨ ∃ c' ∈ calls, descriptorLedger.takes c' = some fd
  valid : ∀ f ∈ files', 0 ≤ fdOf f.fh

/-- A call that is on paths alone. -/
def Idle (c : SysCall) : Prop :=
  descriptorLedger.takes c = none ∧ descriptorLedger.drops c = none ∧ descriptorLedger.uses c = []

section Accounts

variable {files : List FuseFileInfo} {info : Option FuseFileInfo}

theorem Accounts.of_idle (hvalid : ∀ f ∈ files, 0 ≤ fdOf f.fh) {calls : List SysCall}
    (h : ∀ c ∈ calls, Idle c) : Accounts files info calls files := by
  have hboth (m : Multiset Int32) :
      descriptorLedger.held m calls = m ∧ descriptorLedger.Covered m calls := by
    induction calls generalizing m with
    | nil => exact ⟨rfl, trivial⟩
    | cons c calls ih =>
        obtain ⟨htakes, hdrops, huses⟩ := h c (List.mem_cons_self ..)
        have hsame := descriptorLedger.account_of_none (m := m) htakes hdrops
        obtain ⟨hheld, hcovered⟩ := ih (fun c' hc' => h c' (List.mem_cons_of_mem _ hc')) m
        refine ⟨?_, ?_, ?_⟩
        · rw [Ledger.held, List.foldl_cons, hsame]
          exact hheld
        · rw [huses]
          exact fun k hk => absurd hk List.not_mem_nil
        · rwa [hsame]
  refine ⟨(hboth _).1, (hboth _).2, ?_, hvalid⟩
  intro c hc fd hfd
  rw [(h c hc).2.2] at hfd
  exact absurd hfd List.not_mem_nil

/-- The descriptor of a handle is that of the file, or negative. -/
theorem mem_descriptorsOf (hinfo : ∀ f, info = some f → f ∈ files) {fd : Int32} (hfd : 0 ≤ fd)
    (heq : fdOf (fsGetHandle info) = fd) :
    fd ∈ descriptorsOf files ∧ ∃ f, info = some f ∧ fdOf f.fh = fd := by
  cases info with
  | none =>
      subst heq
      exact absurd hfd (by decide)
  | some f => exact ⟨Multiset.mem_coe.2 (List.mem_map.2 ⟨f, hinfo f rfl, heq⟩), f, rfl, heq⟩

/-- One call on the descriptor of the file. -/
theorem Accounts.of_use (hvalid : ∀ f ∈ files, 0 ≤ fdOf f.fh)
    (hinfo : ∀ f, info = some f → f ∈ files)
    {c : SysCall} (htakes : descriptorLedger.takes c = none)
    (hdrops : descriptorLedger.drops c = none)
    (hc : c.descriptors = [fdOf (fsGetHandle info)]) : Accounts files info [c] files := by
  have huses : ∀ fd ∈ descriptorLedger.uses c, 0 ≤ fd ∧ fdOf (fsGetHandle info) = fd := by
    intro fd hfd
    obtain ⟨hmem, hpos⟩ := List.mem_filter.1 hfd
    rw [hc, List.mem_singleton] at hmem
    exact ⟨by simpa using hpos, hmem.symm⟩
  have hsame := descriptorLedger.account_of_none (m := descriptorsOf files) htakes hdrops
  refine ⟨hsame, ⟨?_, trivial⟩, ?_, hvalid⟩
  · intro fd hfd
    obtain ⟨hpos, heq⟩ := huses fd hfd
    exact (mem_descriptorsOf hinfo hpos heq).1
  · intro c' hc' fd hfd
    obtain rfl := List.mem_singleton.1 hc'
    obtain ⟨hpos, heq⟩ := huses fd hfd
    exact .inl (mem_descriptorsOf hinfo hpos heq).2

/-- A file is opened for one call, and closed. -/
theorem Accounts.of_temporary (hvalid : ∀ f ∈ files, 0 ≤ fdOf f.fh) {c : SysCall} {fd : Int32}
    (htakes : descriptorLedger.takes c = none) (hdrops : descriptorLedger.drops c = none)
    (hc : c.descriptors = [fd]) (path : Bytes) (flags : Int32) :
    Accounts files info (.open path flags fd :: if 0 ≤ fd then [c, .close fd] else []) files := by
  split_ifs with hfd
  · have htake : descriptorLedger.takes (.open path flags fd) = some fd := if_pos hfd
    have huses (c' : SysCall) (hc' : c'.descriptors = [fd]) :
        descriptorLedger.uses c' = [fd] := by
      simp [descriptorLedger, hc', hfd]
    have hopen := descriptorLedger.account_take (m := descriptorsOf files) htake
    have hsame := descriptorLedger.account_of_none (m := fd ::ₘ descriptorsOf files) htakes hdrops
    have hclose : descriptorLedger.account (fd ::ₘ descriptorsOf files) (.close fd) =
        descriptorsOf files := by
      rw [descriptorLedger.account_drop rfl rfl, Multiset.erase_cons_head]
    refine ⟨?_, ⟨?_, ?_, ?_, trivial⟩, ?_, hvalid⟩
    · simp only [Ledger.held, List.foldl_cons, List.foldl_nil, hopen, hsame, hclose]
    · exact fun k hk => absurd hk List.not_mem_nil
    · rw [huses c hc, hopen]
      simp
    · rw [huses (.close fd) rfl, hopen, hsame]
      simp
    · intro c' hc' k hk
      refine .inr ⟨_, List.mem_cons_self .., ?_⟩
      rcases List.mem_cons.1 hc' with rfl | hc'
      · exact absurd hk List.not_mem_nil
      · have hfds : descriptorLedger.uses c' = [fd] := by
          rcases List.mem_cons.1 hc' with rfl | hc'
          · exact huses c' hc
          · obtain rfl := List.mem_singleton.1 hc'
            exact huses (.close fd) rfl
        rw [hfds, List.mem_singleton] at hk
        rw [hk]
        exact htake
  · refine .of_idle hvalid ?_
    intro c' hc'
    obtain rfl := List.mem_singleton.1 hc'
    exact ⟨if_neg hfd, rfl, rfl⟩

/-- A file is opened, or is not. -/
theorem Accounts.of_open (hvalid : ∀ f ∈ files, 0 ≤ fdOf f.fh) {c : SysCall} {fd : Int32}
    (htakes : descriptorLedger.takes c = if 0 ≤ fd then some fd else none)
    (hdrops : descriptorLedger.drops c = none) (huses : descriptorLedger.uses c = [])
    {f : FuseFileInfo} (hf : 0 ≤ fd → fdOf f.fh = fd) :
    Accounts files info [c] (if 0 ≤ fd then files ++ [f] else files) := by
  split_ifs with hfd
  · rw [if_pos hfd] at htakes
    refine ⟨?_, ⟨?_, trivial⟩, ?_, ?_⟩
    · have hopen := descriptorLedger.account_take (m := descriptorsOf files) htakes
      rw [Ledger.held, List.foldl_cons, List.foldl_nil, hopen, descriptorsOf, descriptorsOf,
        List.map_append, List.map_singleton, hf hfd]
      exact Multiset.coe_eq_coe.2 (List.perm_append_singleton _ _).symm
    · rw [huses]
      exact fun k hk => absurd hk List.not_mem_nil
    · intro c' hc' k hk
      obtain rfl := List.mem_singleton.1 hc'
      rw [huses] at hk
      exact absurd hk List.not_mem_nil
    · intro f' hf'
      rcases List.mem_append.1 hf' with hf' | hf'
      · exact hvalid f' hf'
      · obtain rfl := List.mem_singleton.1 hf'
        rwa [hf hfd]
  · rw [if_neg hfd] at htakes
    refine .of_idle hvalid ?_
    intro c' hc'
    obtain rfl := List.mem_singleton.1 hc'
    exact ⟨htakes, hdrops, huses⟩

/-- The descriptor of an open file is closed with the file. -/
theorem Accounts.of_release (hvalid : ∀ f ∈ files, 0 ≤ fdOf f.fh) {i : ℕ} {f : FuseFileInfo}
    (hi : files[i]? = some f) :
    Accounts files (some f) [.close (fdOf f.fh)] (files.eraseIdx i) := by
  have hf : f ∈ files := List.mem_of_getElem? hi
  have huses : descriptorLedger.uses (.close (fdOf f.fh)) = [fdOf f.fh] := by
    simp [descriptorLedger, SysCall.descriptors, hvalid f hf]
  have hperm : descriptorsOf files = fdOf f.fh ::ₘ descriptorsOf (files.eraseIdx i) := by
    obtain ⟨hlt, rfl⟩ := List.getElem?_eq_some_iff.1 hi
    have hcons := (List.getElem_cons_eraseIdx_perm hlt).map fun f => fdOf f.fh
    exact Multiset.coe_eq_coe.2 hcons.symm
  refine ⟨?_, ⟨?_, trivial⟩, ?_, ?_⟩
  · rw [Ledger.held, List.foldl_cons, List.foldl_nil, descriptorLedger.account_drop rfl rfl, hperm,
      Multiset.erase_cons_head]
  · rw [huses, hperm]
    simp
  · intro c hc fd hfd
    obtain rfl := List.mem_singleton.1 hc
    rw [huses, List.mem_singleton] at hfd
    exact .inl ⟨f, rfl, hfd.symm⟩
  · exact fun f' hf' => hvalid f' (List.mem_of_mem_eraseIdx hf')

/-- Without an open file descriptor -1 is closed, which is none. -/
theorem Accounts.of_release_none (hvalid : ∀ f ∈ files, 0 ≤ fdOf f.fh) :
    Accounts files none [.close (-1)] files := by
  have hnot : (-1 : Int32) ∉ descriptorsOf files := by
    intro hmem
    obtain ⟨f, hf, heq⟩ := List.mem_map.1 (Multiset.mem_coe.1 hmem)
    have hpos := hvalid f hf
    rw [heq] at hpos
    exact absurd hpos (by decide)
  have huses : descriptorLedger.uses (.close (-1)) = [] := by decide
  refine ⟨?_, ⟨?_, trivial⟩, ?_, hvalid⟩
  · rw [Ledger.held, List.foldl_cons, List.foldl_nil, descriptorLedger.account_drop rfl rfl,
      Multiset.erase_of_notMem hnot]
  · rw [huses]
    exact fun k hk => absurd hk List.not_mem_nil
  · intro c hc fd hfd
    obtain rfl := List.mem_singleton.1 hc
    rw [huses] at hfd
    exact absurd hfd List.not_mem_nil

end Accounts

/-! ### Operations of the provider -/

section Provider

variable (sys : Sys σ) (basePath token : Bytes) (uninitialized : σ → Stat) (beyond : ℕ → UInt8)

/-- The provider whose system calls are noted. -/
def ProviderMain.noting : Provider (σ × List SysCall) :=
  provider sys.recorded basePath token (fun s => uninitialized s.1) beyond

/-- A call of the filesystem makes its system calls. -/
theorem ProviderMain.exec_sysCalls {call : FsCall} (hcall : call ≠ .getCredentials) (s : σ) :
    (finalState (call.exec (noting sys basePath token uninitialized beyond).fs
      ((noting sys basePath token uninitialized beyond).given (s, []) call) (s, []))).2 =
        sysCalls sys basePath token call s := by
  rw [Provider.finalState_exec _ hcall]
  cases call <;> rfl

/-- The operations that are given no handle and open nothing. -/
def FsCall.OnPaths : FsCall → Prop
  | truncate .. | fsync .. | utimens .. | «open» .. | create .. | release .. | read .. | write ..
  | getCredentials => False
  | _ => True

theorem ProviderMain.idle_sysCalls {call : FsCall} (hcall : call.OnPaths) (s : σ) :
    ∀ c ∈ sysCalls sys basePath token call s, Idle c := by
  have hone {c : SysCall} (hc : sysCalls sys basePath token call s = [c]) (h : Idle c) :
      ∀ c ∈ sysCalls sys basePath token call s, Idle c := by
    intro c' hc'
    rw [hc, List.mem_singleton] at hc'
    rwa [hc']
  cases call with
  | access path mode => exact hone rfl ⟨rfl, rfl, rfl⟩
  | getattr path => exact hone rfl ⟨rfl, rfl, rfl⟩
  | readlink path => exact hone rfl ⟨rfl, rfl, rfl⟩
  | symlink target linkpath =>
      cases target with
      | nil => exact fun c hc => absurd hc List.not_mem_nil
      | cons b target => exact hone rfl ⟨rfl, rfl, rfl⟩
  | link oldPath newPath => exact hone rfl ⟨rfl, rfl, rfl⟩
  | rename oldPath newPath flags =>
      refine hone rfl ⟨rfl, rfl, ?_⟩
      simp only [descriptorLedger, SysCall.descriptors]
      split_ifs <;> rfl
  | chmod path mode => exact hone rfl ⟨rfl, rfl, rfl⟩
  | chown path uid gid => exact hone rfl ⟨rfl, rfl, rfl⟩
  | mknod path mode rdev => exact hone rfl ⟨rfl, rfl, rfl⟩
  | unlink path => exact hone rfl ⟨rfl, rfl, rfl⟩
  | mkdir path mode => exact hone rfl ⟨rfl, rfl, rfl⟩
  | readdir path => exact hone (sysCalls_readdir ..) ⟨rfl, rfl, rfl⟩
  | rmdir path => exact hone rfl ⟨rfl, rfl, rfl⟩
  | statfs path => exact hone rfl ⟨rfl, rfl, rfl⟩
  | truncate path size handle => exact hcall.elim
  | fsync path isDatasync handle => exact hcall.elim
  | utimens path tv₀ tv₁ handle => exact hcall.elim
  | «open» path flags => exact hcall.elim
  | create path mode => exact hcall.elim
  | release path handle => exact hcall.elim
  | read path bufferSize offset handle => exact hcall.elim
  | write path buffer offset handle => exact hcall.elim
  | getCredentials => exact hcall.elim

/-- What an operation leaves, and the system calls it made. -/
theorem Mount.run_of_ok {p : Provider (σ × List SysCall)} {m : Mount σ} {e : FuseEvent}
    {info info' : Option FuseFileInfo} {result : Int32} {t : σ × List SysCall}
    (h : e.call.run (filesystem (loopback p e.id)) info (m.state, []) = .ok (result, info') t) :
    step.run p m e info = (⟨t.1, e.call.filesAfter m.files e.file result info'⟩, t.2) := by
  unfold step.run
  rw [h]

/-- A step makes the system calls of the call that arrives. -/
theorem Mount.run_eq (m : Mount σ) (e : FuseEvent) (info : Option FuseFileInfo) :
    ∃ s result info',
      step.run (ProviderMain.noting sys basePath token uninitialized beyond) m e info =
        (⟨s, e.call.filesAfter m.files e.file result info'⟩,
          ProviderMain.sysCalls sys basePath token (e.call.fsCall info).decoded m.state) := by
  have hcalls := ProviderMain.exec_sysCalls sys basePath token uninitialized beyond
    (FsCall.decoded_ne (e.call.fsCall_ne info)) m.state
  obtain ⟨r, t, hexec, hrun⟩ | ⟨x, t, result, info', hexec, hrun⟩ :=
    e.call.run_loopback_cases (ProviderMain.noting sys basePath token uninitialized beyond) e.id
      info (m.state, [])
  · rw [hexec] at hcalls
    rw [← hcalls]
    exact ⟨_, _, _, run_of_ok hrun⟩
  · rw [hexec] at hcalls
    rw [← hcalls]
    exact ⟨_, _, _, run_of_ok hrun⟩

/-- A file is opened when there is a descriptor for it, and its handle is the
descriptor. -/
theorem Mount.run_opened {m : Mount σ} {e : FuseEvent} {info : Option FuseFileInfo}
    {x : StateM (σ × List SysCall) Int32} {r : Int32 × UInt64} {t : σ × List SysCall}
    {flags : Int32} (hopened : ProviderMain.opened sys.recorded x (-1) (m.state, []) = .ok r t)
    (hrun : e.call.run (filesystem (loopback
        (ProviderMain.noting sys basePath token uninitialized beyond) e.id)) info (m.state, []) =
      .ok (r.1, some ⟨flags, if 0 = r.1 then low32 r.2 else 0⟩) t)
    (herrno : (x (m.state, [])).1 < 0 → sys.errno (x (m.state, [])).2.1 ≠ 0)
    (hfiles : ∀ result info', e.call.filesAfter m.files e.file result info' =
      if 0 = result then m.files ++ info'.toList else m.files) :
    ∃ f : FuseFileInfo, (0 ≤ (x (m.state, [])).1 → fdOf f.fh = (x (m.state, [])).1) ∧
      (step.run (ProviderMain.noting sys basePath token uninitialized beyond) m e info).1.files =
        if 0 ≤ (x (m.state, [])).1 then m.files ++ [f] else m.files := by
  rw [ProviderMain.opened_eq] at hopened
  injection hopened with hr ht
  rw [run_of_ok hrun]
  dsimp only
  rw [hfiles]
  refine ⟨⟨flags, if 0 = r.1 then low32 r.2 else 0⟩, ?_, ?_⟩
  · intro hfd
    rw [if_pos hfd, if_pos hfd] at hr
    rw [← hr, if_pos rfl, fdOf_low32, fdOf_toUInt64]
  · by_cases hfd : 0 ≤ (x (m.state, [])).1
    · rw [if_pos hfd, if_pos hfd] at hr
      rw [← hr, if_pos hfd, if_pos rfl]
      rfl
    · rw [if_neg hfd, if_neg hfd] at hr
      have hne : 0 ≠ -sys.errno (x (m.state, [])).2.1 :=
        (Int32.neg_ne_zero.2 (herrno (Int32.not_le.1 hfd))).symm
      rw [← hr, if_neg hfd]
      exact if_neg hne

/-- **One operation.** -/
theorem Mount.run_accounts (herrno : sys.SetsErrno) {m : Mount σ} {e : FuseEvent}
    (hvalid : ∀ f ∈ m.files, 0 ≤ fdOf f.fh) {info : Option FuseFileInfo}
    (hinfo : e.file.bind (m.files[·]?) = info) :
    Accounts m.files info
      (step.run (ProviderMain.noting sys basePath token uninitialized beyond) m e info).2
      (step.run (ProviderMain.noting sys basePath token uninitialized beyond) m e
        info).1.files := by
  obtain ⟨call, file, id⟩ := e
  obtain ⟨s', result, info', heq⟩ :=
    run_eq sys basePath token uninitialized beyond m ⟨call, file, id⟩ info
  have hmem : ∀ f, info = some f → f ∈ m.files := by
    rintro f rfl
    obtain ⟨i, -, hi⟩ := Option.bind_eq_some_iff.1 hinfo
    exact List.mem_of_getElem? hi
  have hcalls {calls : List SysCall} {files : List FuseFileInfo}
      (hcalls : ProviderMain.sysCalls sys basePath token (call.fsCall info).decoded m.state = calls)
      (hfiles : call.filesAfter m.files file result info' = files)
      (h : Accounts m.files info calls files) :
      Accounts m.files info
        (step.run (ProviderMain.noting sys basePath token uninitialized beyond) m
          ⟨call, file, id⟩ info).2
        (step.run (ProviderMain.noting sys basePath token uninitialized beyond) m
          ⟨call, file, id⟩ info).1.files := by
    rw [heq]
    dsimp only
    rwa [hcalls, hfiles]
  have hidle (hcall : (call.fsCall info).decoded.OnPaths)
      (hfiles : call.filesAfter m.files file result info' = m.files) :=
    hcalls rfl hfiles (.of_idle hvalid
      (ProviderMain.idle_sysCalls sys basePath token hcall m.state))
  have hfd : fdOf (low32 (fsGetHandle info)) = fdOf (fsGetHandle info) := fdOf_low32 _
  have hne : low32 (fsGetHandle info) ≠ invalidHandle := low32_ne_invalidHandle _
  cases call with
  | truncate path size =>
      refine hcalls ((ProviderMain.sysCalls_truncate ..).trans (if_neg hne)) rfl ?_
      exact .of_use hvalid hmem rfl rfl (congrArg (fun fd => [fd]) hfd)
  | utimens path tv₀ tv₁ =>
      refine hcalls ((ProviderMain.sysCalls_utimens ..).trans (if_neg hne)) rfl ?_
      exact .of_use hvalid hmem rfl rfl (congrArg (fun fd => [fd]) hfd)
  | write path buffer rawOffset =>
      refine hcalls ((ProviderMain.sysCalls_write ..).trans (if_neg hne)) rfl ?_
      exact .of_use hvalid hmem rfl rfl (congrArg (fun fd => [fd]) hfd)
  | fsync path isdatasync =>
      have hsync := (ProviderMain.sysCalls_fsync sys basePath token (clip path) m.state
        (isdatasync ≠ 0) (low32 (fsGetHandle info))).trans (if_neg hne)
      by_cases hdata : isdatasync = 0
      · refine hcalls (hsync.trans (if_pos (by simp [hdata]))) rfl ?_
        exact .of_use hvalid hmem rfl rfl (congrArg (fun fd => [fd]) hfd)
      · refine hcalls (hsync.trans (if_neg (by simp [hdata]))) rfl ?_
        exact .of_use hvalid hmem rfl rfl (congrArg (fun fd => [fd]) hfd)
  | read path size rawOffset =>
      refine hcalls ((ProviderMain.sysCalls_read ..).trans (if_neg hne)) rfl ?_
      exact .of_temporary hvalid rfl rfl rfl _ _
  | release path =>
      have hclose := (ProviderMain.sysCalls_release sys basePath token (clip path) m.state
        (low32 (fsGetHandle info))).trans (if_neg hne)
      rw [hfd] at hclose
      cases info with
      | none =>
          refine hcalls hclose ?_ (.of_release_none hvalid)
          cases file with
          | none => rfl
          | some i => exact List.eraseIdx_of_length_le (List.getElem?_eq_none_iff.1 hinfo)
      | some f =>
          obtain ⟨i, rfl, hi⟩ := Option.bind_eq_some_iff.1 hinfo
          exact hcalls hclose rfl (.of_release hvalid hi)
  | «open» path flags =>
      have hmade : (step.run (ProviderMain.noting sys basePath token uninitialized beyond) m
          ⟨.open path flags, file, id⟩ info).2 = [.open _ _ _] :=
        congrArg Prod.snd heq
      obtain ⟨r, t, hexec, hrun⟩ | ⟨x, t, _, _, hexec, -⟩ :=
        FuseCall.run_loopback_cases (ProviderMain.noting sys basePath token uninitialized beyond) id
          info (.open path flags) (m.state, [])
      · obtain ⟨f, hf, hfiles⟩ := run_opened sys basePath token uninitialized beyond
          (e := ⟨.open path flags, file, id⟩) hexec hrun (herrno.open _ _ _) fun _ _ => rfl
        rw [hfiles, hmade]
        exact .of_open hvalid rfl rfl rfl hf
      · cases (ProviderMain.opened_eq ..).symm.trans hexec
  | create path mode flags =>
      have hmade : (step.run (ProviderMain.noting sys basePath token uninitialized beyond) m
          ⟨.create path mode flags, file, id⟩ info).2 = [.creat _ _ _] :=
        congrArg Prod.snd heq
      obtain ⟨r, t, hexec, hrun⟩ | ⟨x, t, _, _, hexec, -⟩ :=
        FuseCall.run_loopback_cases (ProviderMain.noting sys basePath token uninitialized beyond) id
          info (.create path mode flags) (m.state, [])
      · obtain ⟨f, hf, hfiles⟩ := run_opened sys basePath token uninitialized beyond
          (e := ⟨.create path mode flags, file, id⟩) hexec hrun (herrno.creat _ _ _) fun _ _ => rfl
        rw [hfiles, hmade]
        exact .of_open hvalid rfl rfl rfl hf
      · cases (ProviderMain.opened_eq ..).symm.trans hexec
  | access path mode => exact hidle trivial rfl
  | getattr path => exact hidle trivial rfl
  | readlink path size => exact hidle trivial rfl
  | symlink target linkpath => exact hidle trivial rfl
  | link oldPath newPath => exact hidle trivial rfl
  | rename fromPath toPath flags => exact hidle trivial rfl
  | chmod path mode => exact hidle trivial rfl
  | chown path uid gid => exact hidle trivial rfl
  | mknod path mode rawRdev => exact hidle trivial rfl
  | unlink path => exact hidle trivial rfl
  | mkdir path mode => exact hidle trivial rfl
  | readdir path => exact hidle trivial rfl
  | rmdir path => exact hidle trivial rfl
  | statfs path => exact hidle trivial rfl

theorem Mount.step_accounts (herrno : sys.SetsErrno) {m : Mount σ}
    (hvalid : ∀ f ∈ m.files, 0 ≤ fdOf f.fh) (e : FuseEvent) :
    Accounts m.files (e.file.bind (m.files[·]?))
      (m.step (ProviderMain.noting sys basePath token uninitialized beyond) e).2
      (m.step (ProviderMain.noting sys basePath token uninitialized beyond) e).1.files := by
  obtain ⟨call, file, id⟩ := e
  cases file with
  | none => exact run_accounts sys basePath token uninitialized beyond herrno hvalid rfl
  | some i =>
      cases hi : m.files[i]? with
      | none =>
          have hstep : m.step (ProviderMain.noting sys basePath token uninitialized beyond)
              ⟨call, some i, id⟩ = (m, []) := by
            simp only [step, Option.map_some, hi]
          rw [hstep]
          exact .of_idle hvalid fun c hc => absurd hc List.not_mem_nil
      | some f =>
          have hstep : m.step (ProviderMain.noting sys basePath token uninitialized beyond)
              ⟨call, some i, id⟩ =
                step.run (ProviderMain.noting sys basePath token uninitialized beyond) m
                  ⟨call, some i, id⟩ (some f) := by
            simp only [step, Option.map_some, hi]
          have hinfo : (some i).bind (m.files[·]?) = some f := hi
          rw [hstep, hinfo]
          exact run_accounts sys basePath token uninitialized beyond herrno hvalid hinfo

end Provider

/-! ### Runs -/

/-- The system calls of a step use the descriptor of the file that the operation is on, or
one that they opened themselves. -/
def UsesOwn (x : Entry (Mount σ) FuseEvent SysCall) : Prop :=
  ∀ c ∈ x.effects, ∀ fd ∈ descriptorLedger.uses c,
    (∃ f, x.event.file.bind (x.pre.files[·]?) = some f ∧ fdOf f.fh = fd) ∨
      ∃ c' ∈ x.effects, descriptorLedger.takes c' = some fd

/-- **Every descriptor is accounted for.**  Whatever operations are made on whatever files,
the descriptors that the provider holds are those of the files that are open, no system
call uses one that is not held, and none uses that of another file. -/
theorem descriptors_accounted (sys : Sys σ) (herrno : sys.SetsErrno) (basePath token : Bytes)
    (uninitialized : σ → Stat) (beyond : ℕ → UInt8) (s : σ) (evs : List FuseEvent) :
    descriptorLedger.held 0 (((mount sys basePath token uninitialized beyond s).trace evs).flatMap
        Entry.effects) =
      descriptorsOf ((mount sys basePath token uninitialized beyond s).state evs).files ∧
    descriptorLedger.Covered 0 (((mount sys basePath token uninitialized beyond s).trace
      evs).flatMap Entry.effects) ∧
    ∀ x ∈ (mount sys basePath token uninitialized beyond s).trace evs, UsesOwn x := by
  have hall := Machine.invariant (M := mount sys basePath token uninitialized beyond s)
    (C := fun _ _ => True)
    (P := fun h m => (descriptorLedger.held 0 (h.flatMap Entry.effects) = descriptorsOf m.files ∧
      descriptorLedger.Covered 0 (h.flatMap Entry.effects) ∧ ∀ x ∈ h, UsesOwn x) ∧
        ∀ f ∈ m.files, 0 ≤ fdOf f.fh)
    ⟨⟨rfl, trivial, fun x hx => absurd hx List.not_mem_nil⟩,
      fun f hf => absurd hf List.not_mem_nil⟩ ?_ evs
        (Machine.admits_of_forall (fun _ _ => trivial) evs)
  · exact hall.1
  · rintro h m e ⟨⟨hheld, hcovered, hown⟩, hvalid⟩ -
    have ha := Mount.step_accounts sys basePath token uninitialized beyond herrno hvalid e
    have heffects : (h ++ [(mount sys basePath token uninitialized beyond s).entry m e]).flatMap
        Entry.effects = h.flatMap Entry.effects ++
          (m.step (ProviderMain.noting sys basePath token uninitialized beyond) e).2 := by
      rw [List.flatMap_append, List.flatMap_singleton]
      rfl
    refine ⟨⟨?_, ?_, ?_⟩, ha.valid⟩
    · rw [heffects, Ledger.held_append, hheld]
      exact ha.held
    · rw [heffects, Ledger.covered_append, hheld]
      exact ⟨hcovered, ha.covered⟩
    · intro x hx
      rcases List.mem_append.1 hx with hx | hx
      · exact hown x hx
      · obtain rfl := List.mem_singleton.1 hx
        exact ha.own

/-- A file is opened, written, read and released, and is truncated by its path after
that. -/
def fileSession : List FuseEvent :=
  [⟨.open (ascii "/a") 1, none, 1⟩, ⟨.write (ascii "/a") [0x78] 0, some 0, 2⟩,
    ⟨.read (ascii "/a") 4 0, some 0, 3⟩, ⟨.release (ascii "/a"), some 0, 4⟩,
    ⟨.truncate (ascii "/a") 0, none, 5⟩]

theorem descriptors_accounted_session :
    descriptorLedger.held 0 (((mount Sys.opening (ascii "/b") [] (fun _ => default) (fun _ => 0)
        ()).trace fileSession).flatMap Entry.effects) = 0 ∧
    ((mount Sys.opening (ascii "/b") [] (fun _ => default) (fun _ => 0) ()).trace
        fileSession).flatMap Entry.effects =
      [.open (ascii "/b/a") 1 7, .pwrite 7 [0x78] 0, .open (ascii "/b/a") 0 7, .pread 7 4 0,
        .close 7, .close 7, .ftruncate (-1) 0] := by
  have herrno : Sys.opening.SetsErrno := by
    refine ⟨fun path flags s h => absurd h ?_, fun path mode s _ => ?_⟩
    · show ¬ (7 : Int32) < 0
      decide
    · show EIO ≠ 0
      decide
  refine ⟨(descriptors_accounted Sys.opening herrno (ascii "/b") [] (fun _ => default) (fun _ => 0)
    () fileSession).1, ?_⟩
  decide

end Webfuse
