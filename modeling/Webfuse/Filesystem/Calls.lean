/-
# Calls of a filesystem

A call of `filesystem_i`, with its input arguments, as a value: what a service
is asked to do and what a provider is asked to do can then be compared.
`FilesystemI.recorded` is a filesystem that behaves as the given one and notes
the calls made to it, so that the calls some code makes are read off its final
state.
-/

import Webfuse.Filesystem.Interface

namespace Webfuse

/-- A call of one of the operations of `filesystem_i`; output parameters are
not part of it. -/
inductive FsCall
  | access (path : Bytes) (mode : Int32)
  | getattr (path : Bytes)
  | readlink (path : Bytes)
  | symlink (target linkpath : Bytes)
  | link (oldPath newPath : Bytes)
  | rename (oldPath newPath : Bytes) (flags : Int32)
  | chmod (path : Bytes) (mode : UInt32)
  | chown (path : Bytes) (uid gid : UInt32)
  | truncate (path : Bytes) (size handle : UInt64)
  | fsync (path : Bytes) (isDatasync : Bool) (handle : UInt64)
  | utimens (path : Bytes) (tv₀ tv₁ : Timespec) (handle : UInt64)
  | open (path : Bytes) (flags : Int32)
  | mknod (path : Bytes) (mode : UInt32) (rdev : UInt64)
  | create (path : Bytes) (mode : UInt32)
  | release (path : Bytes) (handle : UInt64)
  | unlink (path : Bytes)
  | read (path : Bytes) (bufferSize offset handle : UInt64)
  | write (path buffer : Bytes) (offset handle : UInt64)
  | mkdir (path : Bytes) (mode : UInt32)
  | readdir (path : Bytes)
  | rmdir (path : Bytes)
  | statfs (path : Bytes)
  | getCredentials
deriving DecidableEq, Repr

/-- The message type of the operation that is called. -/
def FsCall.requestType : FsCall → RequestType
  | access .. => .access
  | getattr .. => .getattr
  | readlink .. => .readlink
  | symlink .. => .symlink
  | link .. => .link
  | rename .. => .rename
  | chmod .. => .chmod
  | chown .. => .chown
  | truncate .. => .truncate
  | fsync .. => .fsync
  | utimens .. => .utimens
  | «open» .. => .open
  | mknod .. => .mknod
  | create .. => .create
  | release .. => .release
  | unlink .. => .unlink
  | read .. => .read
  | write .. => .write
  | mkdir .. => .mkdir
  | readdir .. => .readdir
  | rmdir .. => .rmdir
  | statfs .. => .statfs
  | getCredentials => .getcreds

variable {σ α : Type}

/-- The operation that is called, with output parameters that hold nothing yet
and whose content is dropped. -/
def FsCall.run (fs : FilesystemI σ) (call : FsCall) : Fs σ Unit :=
  match call with
  | access path mode => discard (fs.access path mode)
  | getattr path => discard (fs.getattr path default)
  | readlink path => discard (fs.readlink path [])
  | symlink target linkpath => discard (fs.symlink target linkpath)
  | link oldPath newPath => discard (fs.link oldPath newPath)
  | rename oldPath newPath flags => discard (fs.rename oldPath newPath flags)
  | chmod path mode => discard (fs.chmod path mode)
  | chown path uid gid => discard (fs.chown path uid gid)
  | truncate path size handle => discard (fs.truncate path size handle)
  | fsync path isDatasync handle => discard (fs.fsync path isDatasync handle)
  | utimens path tv₀ tv₁ handle => discard (fs.utimens path tv₀ tv₁ handle)
  | «open» path flags => discard (fs.open path flags invalidHandle)
  | mknod path mode rdev => discard (fs.mknod path mode rdev)
  | create path mode => discard (fs.create path mode invalidHandle)
  | release path handle => discard (fs.release path handle)
  | unlink path => discard (fs.unlink path)
  | read path bufferSize offset handle =>
      discard (fs.read path (Vector.replicate bufferSize.toNat 0) offset handle)
  | write path buffer offset handle => discard (fs.write path buffer offset handle)
  | mkdir path mode => discard (fs.mkdir path mode)
  | readdir path => discard (fs.readdir path [])
  | rmdir path => discard (fs.rmdir path)
  | statfs path => discard (fs.statfs path default)
  | getCredentials => discard fs.getCredentials

/-- The computation returns from every state. -/
def Returning (x : Fs σ α) : Prop := ∀ s, ∃ a s', x s = .ok a s'

/-- Every operation returns, whatever it is called with. -/
structure FilesystemI.Returns (fs : FilesystemI σ) : Prop where
  access : ∀ path mode, Returning (fs.access path mode)
  getattr : ∀ path attr, Returning (fs.getattr path attr)
  readlink : ∀ path out, Returning (fs.readlink path out)
  symlink : ∀ target linkpath, Returning (fs.symlink target linkpath)
  link : ∀ oldPath newPath, Returning (fs.link oldPath newPath)
  rename : ∀ oldPath newPath flags, Returning (fs.rename oldPath newPath flags)
  chmod : ∀ path mode, Returning (fs.chmod path mode)
  chown : ∀ path uid gid, Returning (fs.chown path uid gid)
  truncate : ∀ path size handle, Returning (fs.truncate path size handle)
  fsync : ∀ path isDatasync handle, Returning (fs.fsync path isDatasync handle)
  utimens : ∀ path tv₀ tv₁ handle, Returning (fs.utimens path tv₀ tv₁ handle)
  «open» : ∀ path flags handle, Returning (fs.open path flags handle)
  mknod : ∀ path mode rdev, Returning (fs.mknod path mode rdev)
  create : ∀ path mode handle, Returning (fs.create path mode handle)
  release : ∀ path handle, Returning (fs.release path handle)
  unlink : ∀ path, Returning (fs.unlink path)
  read : ∀ path {size : ℕ} (buffer : Vector UInt8 size) offset handle,
    Returning (fs.read path buffer offset handle)
  write : ∀ path buffer offset handle, Returning (fs.write path buffer offset handle)
  mkdir : ∀ path mode, Returning (fs.mkdir path mode)
  readdir : ∀ path entries, Returning (fs.readdir path entries)
  rmdir : ∀ path, Returning (fs.rmdir path)
  statfs : ∀ path statistics, Returning (fs.statfs path statistics)
  getCredentials : Returning fs.getCredentials

/-- `x`, with the call noted that it answers. -/
def noted (call : FsCall) (x : Fs σ α) : Fs (σ × List FsCall) α := fun s =>
  match x s.1 with
  | .ok a s' => .ok a (s', s.2 ++ [call])
  | .error e s' => .error e (s', s.2 ++ [call])

/-- A filesystem that behaves as `fs` and notes the calls made to it. -/
def FilesystemI.recorded (fs : FilesystemI σ) : FilesystemI (σ × List FsCall) where
  access path mode := noted (.access path mode) (fs.access path mode)
  getattr path attr := noted (.getattr path) (fs.getattr path attr)
  readlink path out := noted (.readlink path) (fs.readlink path out)
  symlink target linkpath := noted (.symlink target linkpath) (fs.symlink target linkpath)
  link oldPath newPath := noted (.link oldPath newPath) (fs.link oldPath newPath)
  rename oldPath newPath flags :=
    noted (.rename oldPath newPath flags) (fs.rename oldPath newPath flags)
  chmod path mode := noted (.chmod path mode) (fs.chmod path mode)
  chown path uid gid := noted (.chown path uid gid) (fs.chown path uid gid)
  truncate path size handle := noted (.truncate path size handle) (fs.truncate path size handle)
  fsync path isDatasync handle :=
    noted (.fsync path isDatasync handle) (fs.fsync path isDatasync handle)
  utimens path tv₀ tv₁ handle :=
    noted (.utimens path tv₀ tv₁ handle) (fs.utimens path tv₀ tv₁ handle)
  «open» path flags handle := noted (.open path flags) (fs.open path flags handle)
  mknod path mode rdev := noted (.mknod path mode rdev) (fs.mknod path mode rdev)
  create path mode handle := noted (.create path mode) (fs.create path mode handle)
  release path handle := noted (.release path handle) (fs.release path handle)
  unlink path := noted (.unlink path) (fs.unlink path)
  read path {size} buffer offset handle :=
    noted (.read path (UInt64.ofNat size) offset handle) (fs.read path buffer offset handle)
  write path buffer offset handle :=
    noted (.write path buffer offset handle) (fs.write path buffer offset handle)
  mkdir path mode := noted (.mkdir path mode) (fs.mkdir path mode)
  readdir path entries := noted (.readdir path) (fs.readdir path entries)
  rmdir path := noted (.rmdir path) (fs.rmdir path)
  statfs path statistics := noted (.statfs path) (fs.statfs path statistics)
  getCredentials := noted .getCredentials fs.getCredentials

end Webfuse
