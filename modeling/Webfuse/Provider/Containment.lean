/-
# Only the base directory

`webfuse_provider` exposes a local directory.  The paths of a request are not looked
at: the base path is put in front of them, and the system resolves what it is given.
`exposes_only_base_iff` says of every message when all the paths that are passed to the
system on it are in the base directory: when the paths of the request that its operation
uses climb past no names but those they go down by again (`BasePath.Keeps`).

Which paths an operation uses depends on the handle for four of them, and the target of
a new link is used as the path that the link will stand for.
-/

import Webfuse.Client.Answered
import Webfuse.Provider.Dispatch

namespace Webfuse

open Basis

variable {σ : Type}

/-- All paths that are passed to the system name the base directory or something below
it. -/
def OnlyBase (base : BasePath) (calls : List SysCall) : Prop :=
  ∀ c ∈ calls, ∀ path ∈ c.paths, base.Inside path

/-- What the target of a link stands for, as a path behind the base path: a relative
target starts from the directory of the link. -/
def linkTarget (target linkpath : Bytes) : Bytes :=
  if target.head? = some 0x2f then target
  else if 0x2f ∈ linkpath then dirOf linkpath ++ target
  else ascii "/../" ++ target

/-- The paths of a request that its operation uses, up to their first zero. -/
def FsCall.usedPaths : FsCall → List Bytes
  | access path _ => [cStr path]
  | getattr path => [cStr path]
  | readlink path => [cStr path]
  | symlink target linkpath =>
      if target = [] then [] else [cStr linkpath, linkTarget (cStr target) (cStr linkpath)]
  | link oldPath newPath => [cStr oldPath, cStr newPath]
  | rename oldPath newPath _ => [cStr oldPath, cStr newPath]
  | chmod path _ => [cStr path]
  | chown path _ _ => [cStr path]
  | truncate path _ handle => if handle = invalidHandle then [cStr path] else []
  | fsync _ _ _ => []
  | utimens path _ _ handle => if handle = invalidHandle then [cStr path] else []
  | «open» path _ => [cStr path]
  | mknod path _ _ => [cStr path]
  | create path _ => [cStr path]
  | release _ _ => []
  | unlink path => [cStr path]
  | read path _ _ handle => if handle = invalidHandle then [] else [cStr path]
  | write path _ _ handle => if handle = invalidHandle then [cStr path] else []
  | mkdir path _ => [cStr path]
  | readdir path => [cStr path]
  | rmdir path => [cStr path]
  | statfs path => [cStr path]
  | getCredentials => []

/-- Calls whose paths are those of a request, behind the base path. -/
theorem onlyBase_iff {base : BasePath} {calls : List SysCall} (given : List Bytes)
    (h : calls.flatMap SysCall.paths =
      given.map fun path => cStr (ProviderMain.getFullPath base.bytes path)) :
    OnlyBase base calls ↔ ∀ path ∈ given.map cStr, base.Keeps path := by
  have hall : OnlyBase base calls ↔ ∀ path ∈ calls.flatMap SysCall.paths, base.Inside path := by
    unfold OnlyBase
    simp only [List.mem_flatMap, forall_exists_index, and_imp]
    exact ⟨fun h path c hc hpath => h c hc path hpath, fun h c hc path hpath => h path c hc hpath⟩
  rw [hall, h, List.forall_mem_map, List.forall_mem_map]
  refine forall₂_congr fun path _ => ?_
  rw [ProviderMain.getFullPath, base.cStr_append, base.inside_iff]

/-! ### The target of a link -/

theorem dirOf_append (path : Bytes) {name : Bytes} (h : 0x2f ∉ name) :
    dirOf (path ++ 0x2f :: name) = path ++ [0x2f] := by
  unfold dirOf
  have hname : ∀ c ∈ name.reverse, decide (c ≠ 0x2f) = true := by
    intro c hc
    exact decide_eq_true fun heq => h (heq ▸ List.mem_reverse.1 hc)
  rw [List.reverse_append, List.reverse_cons, List.append_assoc, List.singleton_append,
    List.dropWhile_append_of_pos hname, List.dropWhile_cons_of_neg (by simp), List.reverse_cons,
    List.reverse_reverse]

/-- A path with a slash is its directory and a name. -/
theorem exists_dirOf {path : Bytes} (h : 0x2f ∈ path) :
    ∃ front name, path = front ++ 0x2f :: name ∧ 0x2f ∉ name := by
  obtain ⟨name, front, hsplit, hname⟩ := List.eq_append_cons_of_mem (List.mem_reverse.2 h)
  refine ⟨front.reverse, name.reverse, ?_, by simpa using hname⟩
  have hpath := congrArg List.reverse hsplit
  rw [List.reverse_reverse] at hpath
  rw [hpath]
  simp

/-- `/../` goes up. -/
theorem walk_dotdot (place : List Bytes) (path : Bytes) :
    walk place (stepsOf (ascii "/../" ++ path)) = walk place.dropLast (stepsOf path) := by
  have hsplit : ascii "/../" ++ path = [] ++ 0x2f :: (ascii ".." ++ 0x2f :: path) := rfl
  rw [hsplit, stepsOf_append, stepsOf_append, walk_append, walk_append]
  rfl

/-- A link without a slash in its path is beside the base directory, and its directory is
the one above it. -/
theorem BasePath.resolve_dirOf (base : BasePath) {linkpath : Bytes} (h : 0x2f ∉ linkpath)
    (target : Bytes) :
    resolve (dirOf (base.bytes ++ linkpath) ++ target) =
      resolve (base.bytes ++ (ascii "/../" ++ target)) := by
  rcases List.eq_nil_or_concat base.names with hnil | ⟨names, name, hnames⟩
  · have hbytes : base.bytes = [0x2f] := if_pos hnil
    have hroot : ∀ path, resolve ([0x2f] ++ path) = walk [] (stepsOf path) := by
      intro path
      unfold resolve
      rw [← List.nil_append [0x2f], List.append_assoc, List.singleton_append, stepsOf_append,
        walk_append]
      rfl
    rw [hbytes, show [0x2f] ++ linkpath = [] ++ 0x2f :: linkpath from rfl, dirOf_append [] h,
      List.nil_append, hroot, hroot, walk_dotdot]
    rfl
  · rw [List.concat_eq_append] at hnames
    have hname := base.isName name (by rw [hnames]; simp)
    have hlast : 0x2f ∉ name ++ linkpath := by
      rw [List.mem_append, not_or]
      exact ⟨hname.no_slash, h⟩
    have hdrop : (ascii "/../" ++ target).dropWhile (· ≠ 0x2f) = ascii "/../" ++ target := rfl
    rw [base.resolve_append hnames, hdrop, walk_dotdot, List.dropLast_concat,
      bytes_of_concat hnames, List.append_assoc, List.cons_append, dirOf_append _ hlast,
      List.append_assoc, List.singleton_append, walk_joined_front hnames]

/-- Where the target of a link is inside the base directory. -/
theorem BasePath.inside_linkTarget (base : BasePath) (target linkpath : Bytes)
    (h : target.head? ≠ some 0x2f) :
    base.Inside (dirOf (base.bytes ++ linkpath) ++ target) ↔
      base.Keeps (linkTarget target linkpath) := by
  unfold linkTarget
  rw [if_neg h, ← base.inside_iff]
  by_cases hslash : 0x2f ∈ linkpath
  · obtain ⟨front, name, rfl, hname⟩ := exists_dirOf hslash
    rw [if_pos hslash, ← List.append_assoc, dirOf_append _ hname, dirOf_append _ hname,
      List.append_assoc, List.append_assoc, List.append_assoc]
  · unfold Inside
    rw [if_neg hslash, base.resolve_dirOf hslash]

/-- The first byte of a text, as the system reads it. -/
theorem head_cStr_cons (c : UInt8) (text : Bytes) :
    (cStr (c :: text)).head? = some 0x2f ↔ c = 0x2f := by
  unfold cStr
  by_cases hzero : c = 0
  · rw [List.takeWhile_cons_of_neg (by simpa using hzero), hzero]
    decide
  · rw [List.takeWhile_cons_of_pos (by simpa using hzero)]
    simp

/-- A new link: its path, and the target it is made with. -/
theorem onlyBase_symlink (sys : Sys σ) (base : BasePath) (token target linkpath : Bytes) (s : σ) :
    OnlyBase base (ProviderMain.sysCalls sys base.bytes token (.symlink target linkpath) s) ↔
      ∀ path ∈ (FsCall.symlink target linkpath).usedPaths, base.Keeps path := by
  cases target with
  | nil => exact onlyBase_iff [] rfl
  | cons c target =>
      have hcalls : ProviderMain.sysCalls sys base.bytes token (.symlink (c :: target) linkpath) s =
          [.symlink (cStr (if c = 0x2f then ProviderMain.getFullPath base.bytes (c :: target)
            else c :: target)) (cStr (ProviderMain.getFullPath base.bytes linkpath))] := rfl
      rw [hcalls, FsCall.usedPaths, if_neg (List.cons_ne_nil c target)]
      by_cases habsolute : c = 0x2f
      · -- the target is put behind the base path, like the path of the link
        have htarget : linkTarget (cStr (c :: target)) (cStr linkpath) = cStr (c :: target) :=
          if_pos ((head_cStr_cons c target).2 habsolute)
        rw [if_pos habsolute, htarget]
        refine onlyBase_iff [linkpath, c :: target] ?_
        exact congrArg (fun path => [_, path]) (if_pos (base.head_append (c :: target)))
      · have hrelative : (cStr (c :: target)).head? ≠ some 0x2f :=
          mt (head_cStr_cons c target).1 habsolute
        have hpaths : (SysCall.symlink (cStr (c :: target))
            (cStr (ProviderMain.getFullPath base.bytes linkpath))).paths =
              [base.bytes ++ cStr linkpath,
                dirOf (base.bytes ++ cStr linkpath) ++ cStr (c :: target)] := by
          rw [SysCall.paths, if_neg hrelative, ProviderMain.getFullPath, base.cStr_append]
        rw [if_neg habsolute]
        unfold OnlyBase
        rw [List.forall_mem_singleton, hpaths, List.forall_mem_cons, List.forall_mem_singleton,
          List.forall_mem_cons, List.forall_mem_singleton, base.inside_iff,
          base.inside_linkTarget _ _ hrelative]

theorem ProviderMain.sysCalls_readdir (sys : Sys σ) (basePath token path : Bytes) (s : σ) :
    sysCalls sys basePath token (.readdir path) s =
      [.listdir (cStr (getFullPath basePath path))] := by
  unfold sysCalls
  change (finalState (discard (readdir sys.recorded basePath path []) (s, []))).2 = _
  rw [finalState_discard]
  unfold readdir
  rw [finalState_sysCall_bind]
  cases (sys.recorded.listdir (cStr (getFullPath basePath path)) (s, [])).1 <;> rfl

/-- Asking for credentials passes no path. -/
theorem ProviderMain.paths_getCredentials (sys : Sys σ) (basePath token : Bytes) (s : σ) :
    (sysCalls sys basePath token .getCredentials s).flatMap SysCall.paths = [] := by
  unfold sysCalls
  change ((finalState (discard (getCredentials sys.recorded token) (s, []))).2).flatMap _ = _
  rw [finalState_discard]
  unfold getCredentials
  split_ifs
  · rfl
  · rw [finalState_sysCall_bind]
    cases (sys.recorded.getpass (s, [])).1 <;> rfl

/-- **When an operation passes only paths of the base directory to the system.** -/
theorem onlyBase_sysCalls_iff (sys : Sys σ) (base : BasePath) (token : Bytes) (call : FsCall)
    (s : σ) :
    OnlyBase base (ProviderMain.sysCalls sys base.bytes token call s) ↔
      ∀ path ∈ call.usedPaths, base.Keeps path := by
  cases call with
  | access path mode => exact onlyBase_iff [path] rfl
  | getattr path => exact onlyBase_iff [path] rfl
  | readlink path => exact onlyBase_iff [path] rfl
  | symlink target linkpath => exact onlyBase_symlink sys base token target linkpath s
  | link oldPath newPath => exact onlyBase_iff [oldPath, newPath] rfl
  | rename oldPath newPath flags => exact onlyBase_iff [oldPath, newPath] rfl
  | chmod path mode => exact onlyBase_iff [path] rfl
  | chown path uid gid => exact onlyBase_iff [path] rfl
  | truncate path size handle =>
      rw [ProviderMain.sysCalls_truncate, FsCall.usedPaths]
      split_ifs
      · exact onlyBase_iff [path] rfl
      · exact onlyBase_iff [] rfl
  | fsync path isDatasync handle =>
      rw [ProviderMain.sysCalls_fsync]
      split_ifs <;> exact onlyBase_iff [] rfl
  | utimens path tv₀ tv₁ handle =>
      rw [ProviderMain.sysCalls_utimens, FsCall.usedPaths]
      split_ifs
      · exact onlyBase_iff [path] rfl
      · exact onlyBase_iff [] rfl
  | «open» path flags => exact onlyBase_iff [path] rfl
  | mknod path mode rdev => exact onlyBase_iff [path] rfl
  | create path mode => exact onlyBase_iff [path] rfl
  | release path handle =>
      rw [ProviderMain.sysCalls_release]
      split_ifs <;> exact onlyBase_iff [] rfl
  | unlink path => exact onlyBase_iff [path] rfl
  | read path bufferSize offset handle =>
      rw [ProviderMain.sysCalls_read, FsCall.usedPaths]
      split_ifs
      · exact onlyBase_iff [] rfl
      · exact onlyBase_iff [path] (by dsimp only; split_ifs <;> rfl)
  | write path buffer offset handle =>
      rw [ProviderMain.sysCalls_write, FsCall.usedPaths]
      split_ifs
      · exact onlyBase_iff [path] (by dsimp only; split_ifs <;> rfl)
      · exact onlyBase_iff [] rfl
  | mkdir path mode => exact onlyBase_iff [path] rfl
  | readdir path =>
      rw [ProviderMain.sysCalls_readdir]
      exact onlyBase_iff [path] rfl
  | rmdir path => exact onlyBase_iff [path] rfl
  | statfs path => exact onlyBase_iff [path] rfl
  | getCredentials => exact onlyBase_iff [] (ProviderMain.paths_getCredentials ..)

/-! ### Received messages -/

/-- The system calls that `webfuse_provider` makes on a received message. -/
def ProviderMain.messageCalls (sys : Sys σ) (basePath token : Bytes) (uninitialized : σ → Stat)
    (beyond : ℕ → UInt8) (message : Bytes) (s : σ) : List SysCall :=
  (finalState ((provider sys.recorded basePath token (fun s => uninitialized s.1)
    beyond).onMessage ⟨⟨message, 0⟩, (s, [])⟩)).memory.2

/-- A message that is decoded makes the calls of its operation. -/
theorem ProviderMain.messageCalls_of_ok (sys : Sys σ) (basePath token : Bytes)
    (uninitialized : σ → Stat) (beyond : ℕ → UInt8) {message : Bytes} {req : Request}
    {t : Scan UInt8 Unit} (h : decodeRequest ⟨⟨message, 0⟩, ()⟩ = .ok req t) (s : σ) :
    messageCalls sys basePath token uninitialized beyond message s =
      req.call.toList.flatMap fun call => sysCalls sys basePath token call s := by
  unfold messageCalls
  rw [Provider.onMessage_of_ok _ h, finalState_onMemory]
  unfold Provider.answer
  cases req.call with
  | none => rfl
  | some call =>
      generalize hp : provider sys.recorded basePath token (fun s => uninitialized s.1) beyond = p
      have hserve : finalState (p.serve (Provider.responseHeader req.type req.id) call (s, [])) =
          finalState (p.invoke call (s, [])) := by
        rcases p.serve_cases (Provider.responseHeader req.type req.id) call (s, []) with
          ⟨resp, s', hserve, hinvoke, -⟩ | ⟨e, s', hserve, hinvoke⟩
        · rw [hserve, hinvoke]
          rfl
        · rw [hserve, hinvoke]
          rfl
      have hinvoke :
          (finalState (p.invoke call (s, []))).2 = sysCalls sys basePath token call s := by
        subst hp
        cases call <;> rfl
      simpa [hserve] using hinvoke

/-- **When a message passes only paths of the base directory to the system.** -/
theorem exposes_only_base_iff (sys : Sys σ) (base : BasePath) (token : Bytes)
    (uninitialized : σ → Stat) (beyond : ℕ → UInt8) (message : Bytes) (s : σ) :
    OnlyBase base
        (ProviderMain.messageCalls sys base.bytes token uninitialized beyond message s) ↔
      ∀ req t, decodeRequest ⟨⟨message, 0⟩, ()⟩ = .ok req t →
        ∀ call ∈ req.call, ∀ path ∈ call.usedPaths, base.Keeps path := by
  cases hdecode : decodeRequest ⟨⟨message, 0⟩, ()⟩ with
  | error e t =>
      have hnone : ProviderMain.messageCalls sys base.bytes token uninitialized beyond message s =
          [] := by
        unfold ProviderMain.messageCalls
        rw [Provider.onMessage_of_error _ hdecode]
        rfl
      rw [hnone]
      refine iff_of_true (fun c hc => absurd hc List.not_mem_nil) fun req t' heq => ?_
      cases heq
  | ok req t =>
      rw [ProviderMain.messageCalls_of_ok sys base.bytes token uninitialized beyond hdecode]
      have hcalls : OnlyBase base (req.call.toList.flatMap fun call =>
          ProviderMain.sysCalls sys base.bytes token call s) ↔
            ∀ call ∈ req.call, ∀ path ∈ call.usedPaths, base.Keeps path := by
        cases req.call with
        | none =>
            refine iff_of_true (fun c hc => absurd hc List.not_mem_nil) fun call hcall => ?_
            cases hcall
        | some call =>
            rw [Option.toList_some, List.flatMap_singleton, onlyBase_sysCalls_iff]
            simp
      rw [hcalls]
      refine ⟨fun h req' t' heq => ?_, fun h => h req t rfl⟩
      cases heq
      exact h

/-- A request for the attributes of a path. -/
def getattrMessage (path : Bytes) : Bytes :=
  [0, 0, 0, 1, 0x02, 0, 0, 0, UInt8.ofNat path.length] ++ path

/-- A request for the attributes of `/../etc` below `/b` asks the system for `/etc`, and one
for those of `x` asks it for `/bx`. -/
theorem base_left :
    ProviderMain.messageCalls (Sys.failing Unit) BasePath.b.bytes [] (fun _ => default) (fun _ => 0)
        (getattrMessage (ascii "/../etc")) () = [.lstat (ascii "/b/../etc")] ∧
    resolve (ascii "/b/../etc") = [ascii "etc"] ∧
    ProviderMain.messageCalls (Sys.failing Unit) BasePath.b.bytes [] (fun _ => default) (fun _ => 0)
        (getattrMessage (ascii "x")) () = [.lstat (ascii "/bx")] ∧
    resolve (ascii "/bx") = [ascii "bx"] ∧
    ¬ OnlyBase BasePath.b [.lstat (ascii "/b/../etc")] ∧
    ¬ OnlyBase BasePath.b [.lstat (ascii "/bx")] := by
  have houtside : ∀ {path : Bytes}, ¬ [ascii "b"] <+: resolve path →
      ¬ OnlyBase BasePath.b [.lstat path] := by
    intro path hpath h
    exact hpath (h (.lstat path) (List.mem_singleton.2 rfl) path (List.mem_singleton.2 rfl))
  exact ⟨by decide +kernel, by decide, by decide +kernel, by decide, houtside (by decide),
    houtside (by decide)⟩

end Webfuse
