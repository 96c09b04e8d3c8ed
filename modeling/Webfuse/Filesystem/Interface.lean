/-
# The filesystem interface

`src/webfuse/filesystem/filesystem_i.hpp`: the operations a provider offers and
a service calls, and `empty_filesystem.cpp`, the implementation the service
falls back to when no provider answers.

An operation of `FilesystemI σ` runs on a state `σ` of the implementation and
may throw.  Output parameters are passed by reference in the source: here they
are taken with the content they have before the call and returned with the
content they have after it.  A buffer has as many bytes after `read` as before
it, which is what its type says.  The C integer types are those of x86-64
Linux.
-/

import Webfuse.Message.Types

namespace Webfuse

/-- `struct timespec`. -/
structure Timespec where
  tv_sec : Int64
  tv_nsec : Int64
deriving DecidableEq, Repr, Inhabited

/-- The fields of `struct stat` that are sent. -/
structure Stat where
  st_ino : UInt64
  st_nlink : UInt64
  st_mode : UInt32
  st_uid : UInt32
  st_gid : UInt32
  st_rdev : UInt64
  st_size : Int64
  st_blocks : Int64
  st_atim : Timespec
  st_mtim : Timespec
  st_ctim : Timespec
deriving DecidableEq, Repr, Inhabited

/-- The fields of `struct statvfs` that are sent. -/
structure Statvfs where
  f_bsize : UInt64
  f_frsize : UInt64
  f_blocks : UInt64
  f_bfree : UInt64
  f_bavail : UInt64
  f_files : UInt64
  f_ffree : UInt64
  f_namemax : UInt64
deriving DecidableEq, Repr, Inhabited

/-- `invalid_handle`. -/
def invalidHandle : UInt64 := -1

/-- A computation of a filesystem implementation with state `σ`. -/
abbrev Fs (σ : Type) := EStateM Exn σ

/-- `class filesystem_i`. -/
structure FilesystemI (σ : Type) where
  access (path : Bytes) (mode : Int32) : Fs σ Int32
  getattr (path : Bytes) (attr : Stat) : Fs σ (Int32 × Stat)
  readlink (path out : Bytes) : Fs σ (Int32 × Bytes)
  symlink (target linkpath : Bytes) : Fs σ Int32
  link (oldPath newPath : Bytes) : Fs σ Int32
  rename (oldPath newPath : Bytes) (flags : Int32) : Fs σ Int32
  chmod (path : Bytes) (mode : UInt32) : Fs σ Int32
  chown (path : Bytes) (uid gid : UInt32) : Fs σ Int32
  truncate (path : Bytes) (size handle : UInt64) : Fs σ Int32
  fsync (path : Bytes) (isDatasync : Bool) (handle : UInt64) : Fs σ Int32
  utimens (path : Bytes) (tv₀ tv₁ : Timespec) (handle : UInt64) : Fs σ Int32
  «open» (path : Bytes) (flags : Int32) (handle : UInt64) : Fs σ (Int32 × UInt64)
  mknod (path : Bytes) (mode : UInt32) (rdev : UInt64) : Fs σ Int32
  create (path : Bytes) (mode : UInt32) (handle : UInt64) : Fs σ (Int32 × UInt64)
  release (path : Bytes) (handle : UInt64) : Fs σ Int32
  unlink (path : Bytes) : Fs σ Int32
  read (path : Bytes) {size : ℕ} (buffer : Vector UInt8 size) (offset handle : UInt64) :
    Fs σ (Int32 × Vector UInt8 size)
  write (path buffer : Bytes) (offset handle : UInt64) : Fs σ Int32
  mkdir (path : Bytes) (mode : UInt32) : Fs σ Int32
  readdir (path : Bytes) (entries : List Bytes) : Fs σ (Int32 × List Bytes)
  rmdir (path : Bytes) : Fs σ Int32
  statfs (path : Bytes) (statistics : Statvfs) : Fs σ (Int32 × Statvfs)
  getCredentials : Fs σ Bytes

/-! ### `empty_filesystem` -/

/-- The negated `errno` values `empty_filesystem` answers with. -/
def ENOENT : Int32 := 2
def EPERM : Int32 := 1
def EBADF : Int32 := 9
def ENOSYS : Int32 := 38

namespace EmptyFilesystem

/-- The path `"/"`. -/
def root : Bytes := [0x2f]

def access (path : Bytes) (_mode : Int32) : Int32 := if path = root then 0 else -ENOENT

/-- `empty_filesystem::getattr`: the root is a directory, `S_IFDIR | 0555`. -/
def getattr (path : Bytes) (attr : Stat) : Int32 × Stat :=
  if path = root then
    (0, { attr with st_ino := 1, st_nlink := 1, st_mode := 0o040000 ||| 0o555 })
  else (-ENOENT, attr)

def readlink (_path out : Bytes) : Int32 × Bytes := (-ENOENT, out)
def symlink (_target _linkpath : Bytes) : Int32 := -ENOENT
def link (_oldPath _newPath : Bytes) : Int32 := -ENOENT
def rename (_oldPath _newPath : Bytes) (_flags : Int32) : Int32 := -ENOENT
def chmod (_path : Bytes) (_mode : UInt32) : Int32 := -EPERM
def chown (_path : Bytes) (_uid _gid : UInt32) : Int32 := -EPERM
def truncate (_path : Bytes) (_size _handle : UInt64) : Int32 := -EPERM
def fsync (_path : Bytes) (_isDatasync : Bool) (_handle : UInt64) : Int32 := 0
def utimens (_path : Bytes) (_tv₀ _tv₁ : Timespec) (_handle : UInt64) : Int32 := -ENOSYS
def «open» (_path : Bytes) (_flags : Int32) (handle : UInt64) : Int32 × UInt64 := (-ENOENT, handle)
def mknod (_path : Bytes) (_mode : UInt32) (_rdev : UInt64) : Int32 := -EPERM
def create (_path : Bytes) (_mode : UInt32) (handle : UInt64) : Int32 × UInt64 := (-EPERM, handle)
def release (_path : Bytes) (_handle : UInt64) : Int32 := 0
def unlink (_path : Bytes) : Int32 := -EPERM

def read (_path : Bytes) {size : ℕ} (buffer : Vector UInt8 size) (_offset _handle : UInt64) :
    Int32 × Vector UInt8 size := (-EBADF, buffer)

def write (_path _buffer : Bytes) (_offset _handle : UInt64) : Int32 := -EBADF
def mkdir (_path : Bytes) (_mode : UInt32) : Int32 := -EPERM

def readdir (path : Bytes) (entries : List Bytes) : Int32 × List Bytes :=
  (if path = root then 0 else -ENOENT, entries)

def rmdir (_path : Bytes) : Int32 := -EPERM
def statfs (_path : Bytes) (statistics : Statvfs) : Int32 × Statvfs := (-ENOSYS, statistics)
def getCredentials : Bytes := []

/-- `class empty_filesystem`: it has no state and never throws. -/
def filesystem : FilesystemI Unit where
  access path mode := pure (access path mode)
  getattr path attr := pure (getattr path attr)
  readlink path out := pure (readlink path out)
  symlink target linkpath := pure (symlink target linkpath)
  link oldPath newPath := pure (link oldPath newPath)
  rename oldPath newPath flags := pure (rename oldPath newPath flags)
  chmod path mode := pure (chmod path mode)
  chown path uid gid := pure (chown path uid gid)
  truncate path size handle := pure (truncate path size handle)
  fsync path isDatasync handle := pure (fsync path isDatasync handle)
  utimens path tv₀ tv₁ handle := pure (utimens path tv₀ tv₁ handle)
  «open» path flags handle := pure (EmptyFilesystem.open path flags handle)
  mknod path mode rdev := pure (mknod path mode rdev)
  create path mode handle := pure (create path mode handle)
  release path handle := pure (release path handle)
  unlink path := pure (unlink path)
  read path _ buffer offset handle := pure (read path buffer offset handle)
  write path buffer offset handle := pure (write path buffer offset handle)
  mkdir path mode := pure (mkdir path mode)
  readdir path entries := pure (readdir path entries)
  rmdir path := pure (rmdir path)
  statfs path statistics := pure (statfs path statistics)
  getCredentials := pure getCredentials

end EmptyFilesystem

end Webfuse
