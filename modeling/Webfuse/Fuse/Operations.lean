/-
# The operations of FUSE

`src/webfuse/fuse.cpp`: the functions that are put in `fuse_operations`.  Each of them
calls the method of the filesystem with its name.  The handle that `open` and `create`
return is kept in the `fuse_file_info` of the open file, and libfuse passes it to the
operations on that file; where it passes a null pointer the handle is `(uint64_t) -1`.

Paths are C strings.  Buffers are taken as they are before the call and returned as they
are after it.  `fs_readdir` is in `Webfuse.Fuse.Readdir`.  `fs_init` sets options of
libfuse and is left out.
-/

import Webfuse.Fuse.Readdir
import Webfuse.Wire.Remote

namespace Webfuse

open Basis Service

variable {τ : Type}

/-- `fuse_file_info`. -/
structure FuseFileInfo where
  flags : Int32
  fh : UInt64
deriving DecidableEq, Repr

/-- `fs_get_handle`. -/
def fsGetHandle : Option FuseFileInfo → UInt64
  | some info => info.fh
  | none => -1

section Operations

variable (fs : FilesystemI τ) (path : Bytes)

def fsAccess (mode : Int32) : Fs τ Int32 := fs.access path mode

def fsGetattr (buffer : Stat) : Fs τ (Int32 × Stat) := fs.getattr path buffer

/-- `snprintf(buffer, size, "%s", text)`: as much of the text as fits in front of a
zero. -/
def snprintf {size : ℕ} (buffer : Vector UInt8 size) (text : Bytes) : Vector UInt8 size :=
  overwrite buffer (text.take (size - 1) ++ [0])

def fsReadlink {size : ℕ} (buffer : Vector UInt8 size) : Fs τ (Int32 × Vector UInt8 size) := do
  let (result, out) ← fs.readlink path []
  return (result, if 0 = result then snprintf buffer (cStr out) else buffer)

def fsSymlink (target linkpath : Bytes) : Fs τ Int32 := fs.symlink target linkpath

def fsLink (oldPath newPath : Bytes) : Fs τ Int32 := fs.link oldPath newPath

def fsRename (fromPath toPath : Bytes) (flags : UInt32) : Fs τ Int32 :=
  fs.rename fromPath toPath flags.toInt32

def fsChmod (mode : UInt32) : Fs τ Int32 := fs.chmod path mode

def fsChown (uid gid : UInt32) : Fs τ Int32 := fs.chown path uid gid

def fsTruncate (size : Int64) (info : Option FuseFileInfo) : Fs τ Int32 :=
  fs.truncate path size.toUInt64 (fsGetHandle info)

def fsFsync (isdatasync : Int32) (info : Option FuseFileInfo) : Fs τ Int32 :=
  fs.fsync path (isdatasync ≠ 0) (fsGetHandle info)

/-- `fs_open`: the handle is written to `info->fh`. -/
def fsOpen (info : FuseFileInfo) : Fs τ (Int32 × FuseFileInfo) := do
  let (result, fh) ← fs.open path info.flags info.fh
  return (result, { info with fh := fh })

def fsMknod (mode : UInt32) (rawRdev : UInt64) : Fs τ Int32 := fs.mknod path mode rawRdev

def fsCreate (mode : UInt32) (info : FuseFileInfo) : Fs τ (Int32 × FuseFileInfo) := do
  let (result, fh) ← fs.create path mode info.fh
  return (result, { info with fh := fh })

def fsRelease (info : Option FuseFileInfo) : Fs τ Int32 := fs.release path (fsGetHandle info)

def fsUnlink : Fs τ Int32 := fs.unlink path

def fsRead {size : ℕ} (buffer : Vector UInt8 size) (rawOffset : Int64)
    (info : Option FuseFileInfo) : Fs τ (Int32 × Vector UInt8 size) :=
  fs.read path buffer rawOffset.toUInt64 (fsGetHandle info)

def fsWrite (buffer : Bytes) (rawOffset : Int64) (info : Option FuseFileInfo) : Fs τ Int32 :=
  fs.write path buffer rawOffset.toUInt64 (fsGetHandle info)

def fsMkdir (mode : UInt32) : Fs τ Int32 := fs.mkdir path mode

def fsRmdir : Fs τ Int32 := fs.rmdir path

def fsStatfs (buffer : Statvfs) : Fs τ (Int32 × Statvfs) := fs.statfs path buffer

/-- `fs_utimes`. -/
def fsUtimes (tv₀ tv₁ : Timespec) (info : Option FuseFileInfo) : Fs τ Int32 :=
  fs.utimens path tv₀ tv₁ (fsGetHandle info)

end Operations

/-- A call of one of the operations, without the buffers it fills in and the
`fuse_file_info`; for a file that is to be opened the flags libfuse puts in there. -/
inductive FuseCall
  | access (path : Bytes) (mode : Int32)
  | getattr (path : Bytes)
  | readlink (path : Bytes) (size : ℕ)
  | symlink (target linkpath : Bytes)
  | link (oldPath newPath : Bytes)
  | rename (fromPath toPath : Bytes) (flags : UInt32)
  | chmod (path : Bytes) (mode : UInt32)
  | chown (path : Bytes) (uid gid : UInt32)
  | truncate (path : Bytes) (size : Int64)
  | fsync (path : Bytes) (isdatasync : Int32)
  | open (path : Bytes) (flags : Int32)
  | mknod (path : Bytes) (mode : UInt32) (rawRdev : UInt64)
  | create (path : Bytes) (mode : UInt32) (flags : Int32)
  | release (path : Bytes)
  | unlink (path : Bytes)
  | read (path : Bytes) (size : UInt64) (rawOffset : Int64)
  | write (path buffer : Bytes) (rawOffset : Int64)
  | mkdir (path : Bytes) (mode : UInt32)
  | readdir (path : Bytes)
  | rmdir (path : Bytes)
  | statfs (path : Bytes)
  | utimens (path : Bytes) (tv₀ tv₁ : Timespec)

namespace FuseCall

/-- An operation that leaves the `fuse_file_info` as it is. -/
def keeping (info : Option FuseFileInfo) (x : Fs τ Int32) :
    Fs τ (Int32 × Option FuseFileInfo) := do
  let result ← x
  return (result, info)

/-- An operation with outputs, which are dropped. -/
def dropping {ω : Type} (info : Option FuseFileInfo) (x : Fs τ (Int32 × ω)) :
    Fs τ (Int32 × Option FuseFileInfo) := do
  let (result, _) ← x
  return (result, info)

/-- An operation that opens a file. -/
def opening (x : Fs τ (Int32 × FuseFileInfo)) : Fs τ (Int32 × Option FuseFileInfo) := do
  let (result, info) ← x
  return (result, some info)

/-- The operation that is called: its result and the `fuse_file_info` afterwards. -/
def run (fs : FilesystemI τ) (info : Option FuseFileInfo) :
    FuseCall → Fs τ (Int32 × Option FuseFileInfo)
  | access path mode => keeping info (fsAccess fs path mode)
  | getattr path => dropping info (fsGetattr fs path default)
  | readlink path size => dropping info (fsReadlink fs path (Vector.replicate size 0))
  | symlink target linkpath => keeping info (fsSymlink fs target linkpath)
  | link oldPath newPath => keeping info (fsLink fs oldPath newPath)
  | rename fromPath toPath flags => keeping info (fsRename fs fromPath toPath flags)
  | chmod path mode => keeping info (fsChmod fs path mode)
  | chown path uid gid => keeping info (fsChown fs path uid gid)
  | truncate path size => keeping info (fsTruncate fs path size info)
  | fsync path isdatasync => keeping info (fsFsync fs path isdatasync info)
  | «open» path flags => opening (fsOpen fs path ⟨flags, 0⟩)
  | mknod path mode rawRdev => keeping info (fsMknod fs path mode rawRdev)
  | create path mode flags => opening (fsCreate fs path mode ⟨flags, 0⟩)
  | release path => keeping info (fsRelease fs path info)
  | unlink path => keeping info (fsUnlink fs path)
  | read path size rawOffset =>
      dropping info (fsRead fs path (Vector.replicate size.toNat 0) rawOffset info)
  | write path buffer rawOffset => keeping info (fsWrite fs path buffer rawOffset info)
  | mkdir path mode => keeping info (fsMkdir fs path mode)
  | readdir path => dropping info (fsReaddir fs path)
  | rmdir path => keeping info (fsRmdir fs path)
  | statfs path => dropping info (fsStatfs fs path default)
  | utimens path tv₀ tv₁ => keeping info (fsUtimes fs path tv₀ tv₁ info)

/-- The call of the filesystem that the operation makes. -/
def fsCall (info : Option FuseFileInfo) : FuseCall → FsCall
  | access path mode => .access path mode
  | getattr path => .getattr path
  | readlink path _ => .readlink path
  | symlink target linkpath => .symlink target linkpath
  | link oldPath newPath => .link oldPath newPath
  | rename fromPath toPath flags => .rename fromPath toPath flags.toInt32
  | chmod path mode => .chmod path mode
  | chown path uid gid => .chown path uid gid
  | truncate path size => .truncate path size.toUInt64 (fsGetHandle info)
  | fsync path isdatasync => .fsync path (isdatasync ≠ 0) (fsGetHandle info)
  | «open» path flags => .open path flags
  | mknod path mode rawRdev => .mknod path mode rawRdev
  | create path mode _ => .create path mode
  | release path => .release path (fsGetHandle info)
  | unlink path => .unlink path
  | read path size rawOffset => .read path size rawOffset.toUInt64 (fsGetHandle info)
  | write path buffer rawOffset => .write path buffer rawOffset.toUInt64 (fsGetHandle info)
  | mkdir path mode => .mkdir path mode
  | readdir path => .readdir path
  | rmdir path => .rmdir path
  | statfs path => .statfs path
  | utimens path tv₀ tv₁ => .utimens path tv₀ tv₁ (fsGetHandle info)

/-- The output parameters that the operation passes. -/
def blank (info : Option FuseFileInfo) : (call : FuseCall) → (call.fsCall info).Out
  | getattr _ => (default : Stat)
  | readlink .. => ([] : Bytes)
  | «open» .. => (0 : UInt64)
  | create .. => (0 : UInt64)
  | read _ size _ => Vector.replicate size.toNat 0
  | readdir _ => ([] : List Bytes)
  | statfs _ => (default : Statvfs)
  | access .. | symlink .. | link .. | rename .. | chmod .. | chown .. | truncate .. | fsync ..
  | mknod .. | release .. | unlink .. | write .. | mkdir .. | rmdir .. | utimens .. => ()

/-- The `fuse_file_info` after the operation. -/
def infoAfter (info : Option FuseFileInfo) :
    (call : FuseCall) → (call.fsCall info).Out → Option FuseFileInfo
  | «open» _ flags, fh => some ⟨flags, fh⟩
  | create _ _ flags, fh => some ⟨flags, fh⟩
  | access .., _ | getattr .., _ | readlink .., _ | symlink .., _ | link .., _ | rename .., _
  | chmod .., _ | chown .., _ | truncate .., _ | fsync .., _ | mknod .., _ | release .., _
  | unlink .., _ | read .., _ | write .., _ | mkdir .., _ | readdir .., _ | rmdir .., _
  | statfs .., _ | utimens .., _ => info

/-- **Every operation makes one call of the filesystem** and returns its result. -/
theorem run_eq (fs : FilesystemI τ) (info : Option FuseFileInfo) (call : FuseCall) :
    call.run fs info = (call.fsCall info).exec fs (call.blank info) >>= fun r =>
      pure (r.1, call.infoAfter info r.2) := by
  have hkeeping (x : Fs τ Int32) :
      keeping info x = plain x >>= fun r => pure (r.1, info) := by
    simp [keeping, plain]
  cases call with
  | getattr path => rfl
  | readlink path size =>
      simp only [run, dropping, fsReadlink, bind_assoc, pure_bind]
      rfl
  | readdir path =>
      simp only [run, dropping, fsReaddir, bind_assoc, pure_bind]
      rfl
  | «open» path flags =>
      simp only [run, opening, fsOpen, bind_assoc, pure_bind]
      rfl
  | create path mode flags =>
      simp only [run, opening, fsCreate, bind_assoc, pure_bind]
      rfl
  | read path size rawOffset => rfl
  | statfs path => rfl
  | _ => exact hkeeping _

theorem fsCall_ne (info : Option FuseFileInfo) (call : FuseCall) :
    call.fsCall info ≠ .getCredentials := by
  cases call <;> simp [fsCall]

/-- An operation over a connection: it returns what arrives of the call of the provider's
filesystem, or answers as without a provider when that throws. -/
theorem run_loopback_cases {σ : Type} (p : Provider σ) (id : UInt32) (info : Option FuseFileInfo)
    (call : FuseCall) (s : σ) :
    (∃ r s', (call.fsCall info).decoded.exec p.fs (p.given s (call.fsCall info).decoded) s =
        .ok r s' ∧
      call.run (filesystem (loopback p id)) info s =
        .ok (((call.fsCall info).received p r (call.blank info)).1,
          call.infoAfter info ((call.fsCall info).received p r (call.blank info)).2) s') ∨
    ∃ e s' result info', (call.fsCall info).decoded.exec p.fs
        (p.given s (call.fsCall info).decoded) s = .error e s' ∧
      call.run (filesystem (loopback p id)) info s = .ok (result, info') s' := by
  rw [run_eq]
  obtain ⟨r, s', hexec, hremote⟩ | ⟨e, s', hexec, hremote⟩ :=
    exec_loopback_cases p id (call.fsCall_ne info) (call.blank info) s
  · exact .inl ⟨r, s', hexec, bind_pure_of_ok hremote _⟩
  · exact .inr ⟨e, s', _, _, hexec, bind_pure_of_ok hremote _⟩

end FuseCall

end Webfuse
