/-
# System calls

A system call, with its arguments, as a value: what an operation of `webfuse_provider`
does to the system is the list of calls it makes (`sysCalls`), read off the final state
of a system that notes them.  Buffers that a call fills in are not part of it, and the
calls that return a descriptor are noted with what they returned.

A call is on the files its paths name and on descriptors.  A directory that `utimensat`
and `renameat2` are given counts for a relative path only.  The target of a
new link is a path too: a relative one starts from the directory of the link.
-/

import Webfuse.Provider.Paths

namespace Webfuse

open Basis

variable {σ α : Type}

/-- A call of one of the functions of `Sys`. -/
inductive SysCall
  | access (path : Bytes) (mode : Int32)
  | lstat (path : Bytes)
  | readlink (path : Bytes)
  | symlink (target linkpath : Bytes)
  | link (oldPath newPath : Bytes)
  | renameat2 (oldDir : Int32) (oldPath : Bytes) (newDir : Int32) (newPath : Bytes)
      (flags : UInt32)
  | chmod (path : Bytes) (mode : UInt32)
  | chown (path : Bytes) (uid gid : UInt32)
  | truncate (path : Bytes) (length : Int64)
  | ftruncate (fd : Int32) (length : Int64)
  | fsync (fd : Int32)
  | fdatasync (fd : Int32)
  | utimensat (dir : Int32) (path : Bytes) (tv₀ tv₁ : Timespec) (flags : Int32)
  | futimens (fd : Int32) (tv₀ tv₁ : Timespec)
  | open (path : Bytes) (flags result : Int32)
  | creat (path : Bytes) (mode : UInt32) (result : Int32)
  | close (fd : Int32)
  | mknod (path : Bytes) (mode : UInt32) (rdev : UInt64)
  | unlink (path : Bytes)
  | pread (fd : Int32) (size : ℕ) (offset : Int64)
  | pwrite (fd : Int32) (buffer : Bytes) (offset : Int64)
  | mkdir (path : Bytes) (mode : UInt32)
  | listdir (path : Bytes)
  | rmdir (path : Bytes)
  | statvfs (path : Bytes)
  | getpass
deriving DecidableEq, Repr

/-- A path up to its last slash. -/
def dirOf (path : Bytes) : Bytes := (path.reverse.dropWhile (· ≠ 0x2f)).reverse

namespace SysCall

/-- The paths a call is given. -/
def paths : SysCall → List Bytes
  | access path _ => [path]
  | lstat path => [path]
  | readlink path => [path]
  | symlink target linkpath =>
      [linkpath, if target.head? = some 0x2f then target else dirOf linkpath ++ target]
  | link oldPath newPath => [oldPath, newPath]
  | renameat2 _ oldPath _ newPath _ => [oldPath, newPath]
  | chmod path _ => [path]
  | chown path _ _ => [path]
  | truncate path _ => [path]
  | utimensat _ path _ _ _ => [path]
  | «open» path _ _ => [path]
  | creat path _ _ => [path]
  | mknod path _ _ => [path]
  | unlink path => [path]
  | mkdir path _ => [path]
  | listdir path => [path]
  | rmdir path => [path]
  | statvfs path => [path]
  | ftruncate .. | fsync _ | fdatasync _ | futimens .. | close _ | pread .. | pwrite ..
  | getpass => []

/-- The descriptors a call is on. -/
def descriptors : SysCall → List Int32
  | ftruncate fd _ => [fd]
  | fsync fd => [fd]
  | fdatasync fd => [fd]
  | futimens fd _ _ => [fd]
  | close fd => [fd]
  | pread fd _ _ => [fd]
  | pwrite fd _ _ => [fd]
  | utimensat dir path _ _ _ => if path.head? = some 0x2f then [] else [dir]
  | renameat2 oldDir oldPath newDir newPath _ =>
      (if oldPath.head? = some 0x2f then [] else [oldDir]) ++
        if newPath.head? = some 0x2f then [] else [newDir]
  | _ => []

end SysCall

/-- `x`, with the call noted that it answers. -/
def sysNoted (call : α → SysCall) (x : StateM σ α) : StateM (σ × List SysCall) α := fun s =>
  ((x s.1).1, ((x s.1).2, s.2 ++ [call (x s.1).1]))

/-- A system that behaves as `sys` and notes the calls made to it. -/
def Sys.recorded (sys : Sys σ) : Sys (σ × List SysCall) where
  errno s := sys.errno s.1
  access path mode := sysNoted (fun _ => .access path mode) (sys.access path mode)
  lstat path attr := sysNoted (fun _ => .lstat path) (sys.lstat path attr)
  readlink path := sysNoted (fun _ => .readlink path) (sys.readlink path)
  symlink target linkpath :=
    sysNoted (fun _ => .symlink target linkpath) (sys.symlink target linkpath)
  link oldPath newPath := sysNoted (fun _ => .link oldPath newPath) (sys.link oldPath newPath)
  renameat2 oldDir oldPath newDir newPath flags :=
    sysNoted (fun _ => .renameat2 oldDir oldPath newDir newPath flags)
      (sys.renameat2 oldDir oldPath newDir newPath flags)
  chmod path mode := sysNoted (fun _ => .chmod path mode) (sys.chmod path mode)
  chown path uid gid := sysNoted (fun _ => .chown path uid gid) (sys.chown path uid gid)
  truncate path length := sysNoted (fun _ => .truncate path length) (sys.truncate path length)
  ftruncate fd length := sysNoted (fun _ => .ftruncate fd length) (sys.ftruncate fd length)
  fsync fd := sysNoted (fun _ => .fsync fd) (sys.fsync fd)
  fdatasync fd := sysNoted (fun _ => .fdatasync fd) (sys.fdatasync fd)
  utimensat dir path tv₀ tv₁ flags :=
    sysNoted (fun _ => .utimensat dir path tv₀ tv₁ flags) (sys.utimensat dir path tv₀ tv₁ flags)
  futimens fd tv₀ tv₁ := sysNoted (fun _ => .futimens fd tv₀ tv₁) (sys.futimens fd tv₀ tv₁)
  «open» path flags := sysNoted (fun fd => .open path flags fd) (sys.open path flags)
  creat path mode := sysNoted (fun fd => .creat path mode fd) (sys.creat path mode)
  close fd := sysNoted (fun _ => .close fd) (sys.close fd)
  mknod path mode rdev := sysNoted (fun _ => .mknod path mode rdev) (sys.mknod path mode rdev)
  unlink path := sysNoted (fun _ => .unlink path) (sys.unlink path)
  pread fd {size} buffer offset :=
    sysNoted (fun _ => .pread fd size offset) (sys.pread fd buffer offset)
  pwrite fd buffer offset :=
    sysNoted (fun _ => .pwrite fd buffer offset) (sys.pwrite fd buffer offset)
  mkdir path mode := sysNoted (fun _ => .mkdir path mode) (sys.mkdir path mode)
  listdir path := sysNoted (fun _ => .listdir path) (sys.listdir path)
  rmdir path := sysNoted (fun _ => .rmdir path) (sys.rmdir path)
  statvfs path statistics := sysNoted (fun _ => .statvfs path) (sys.statvfs path statistics)
  getpass := sysNoted (fun _ => .getpass) sys.getpass

/-- The system calls an operation of `webfuse_provider` makes. -/
def ProviderMain.sysCalls (sys : Sys σ) (basePath token : Bytes) (call : FsCall) (s : σ) :
    List SysCall :=
  (finalState (call.run (filesystem sys.recorded basePath token) (s, []))).2

end Webfuse
