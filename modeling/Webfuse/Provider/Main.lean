/-
# The filesystem of `webfuse_provider`

`src/provider_main.cpp`: a directory of the local system, offered to the service.
Every operation puts the base path in front of the path it is given and makes the
system call of its name; a call that fails is answered with its `errno`.

The system is a parameter: `Sys σ` has the calls that are made, each a
computation on the state `σ` of the system that returns what the call returns and
never throws.  So what can throw is what the source does around them: the first
character of a link target is read with `std::string::at`, and the credentials are
made a `std::string` of what `getpass` returns, which may be null.

The constructor resolves the base path before any request arrives; `basePath` is
what it resolved.
-/

import Webfuse.Filesystem.Calls
import Webfuse.Provider.OnMessage

namespace Webfuse

variable {σ α : Type}

/-- `PATH_MAX`. -/
def PATH_MAX : ℕ := 4096

def O_RDONLY : Int32 := 0
def O_WRONLY : Int32 := 1

/-- The system calls of `provider_main.cpp`.  Buffers and records that a call fills
in are taken as they are before it and returned as they are after it. -/
structure Sys (σ : Type) where
  errno : σ → Int32
  access (path : Bytes) (mode : Int32) : StateM σ Int32
  lstat (path : Bytes) (attr : Stat) : StateM σ (Int32 × Stat)
  /-- The content of a buffer of `PATH_MAX` bytes is returned with the result. -/
  readlink (path : Bytes) : StateM σ (Int64 × Vector UInt8 PATH_MAX)
  symlink (target linkpath : Bytes) : StateM σ Int32
  link (oldPath newPath : Bytes) : StateM σ Int32
  renameat2 (oldDir : Int32) (oldPath : Bytes) (newDir : Int32) (newPath : Bytes)
    (flags : UInt32) : StateM σ Int32
  chmod (path : Bytes) (mode : UInt32) : StateM σ Int32
  chown (path : Bytes) (uid gid : UInt32) : StateM σ Int32
  truncate (path : Bytes) (length : Int64) : StateM σ Int32
  ftruncate (fd : Int32) (length : Int64) : StateM σ Int32
  fsync (fd : Int32) : StateM σ Int32
  fdatasync (fd : Int32) : StateM σ Int32
  utimensat (dir : Int32) (path : Bytes) (tv₀ tv₁ : Timespec) (flags : Int32) : StateM σ Int32
  futimens (fd : Int32) (tv₀ tv₁ : Timespec) : StateM σ Int32
  «open» (path : Bytes) (flags : Int32) : StateM σ Int32
  creat (path : Bytes) (mode : UInt32) : StateM σ Int32
  close (fd : Int32) : StateM σ Int32
  mknod (path : Bytes) (mode : UInt32) (rdev : UInt64) : StateM σ Int32
  unlink (path : Bytes) : StateM σ Int32
  pread (fd : Int32) {size : ℕ} (buffer : Vector UInt8 size) (offset : Int64) :
    StateM σ (Int64 × Vector UInt8 size)
  pwrite (fd : Int32) (buffer : Bytes) (offset : Int64) : StateM σ Int64
  mkdir (path : Bytes) (mode : UInt32) : StateM σ Int32
  /-- `opendir`, the names `readdir` returns until it returns null, and `closedir`. -/
  listdir (path : Bytes) : StateM σ (Option (List Bytes))
  rmdir (path : Bytes) : StateM σ Int32
  statvfs (path : Bytes) (statistics : Statvfs) : StateM σ (Int32 × Statvfs)
  getpass : StateM σ (Option Bytes)

def EIO : Int32 := 5

/-- A system in which every call fails with `EIO`. -/
def Sys.failing (σ : Type) : Sys σ where
  errno _ := EIO
  access _ _ := pure (-1)
  lstat _ attr := pure (-1, attr)
  readlink _ := pure (-1, Vector.replicate PATH_MAX 0)
  symlink _ _ := pure (-1)
  link _ _ := pure (-1)
  renameat2 _ _ _ _ _ := pure (-1)
  chmod _ _ := pure (-1)
  chown _ _ _ := pure (-1)
  truncate _ _ := pure (-1)
  ftruncate _ _ := pure (-1)
  fsync _ := pure (-1)
  fdatasync _ := pure (-1)
  utimensat _ _ _ _ _ := pure (-1)
  futimens _ _ _ := pure (-1)
  «open» _ _ := pure (-1)
  creat _ _ := pure (-1)
  close _ := pure (-1)
  mknod _ _ _ := pure (-1)
  unlink _ := pure (-1)
  pread _ _ buffer _ := pure (-1, buffer)
  pwrite _ _ _ := pure (-1)
  mkdir _ _ := pure (-1)
  listdir _ := pure none
  rmdir _ := pure (-1)
  statvfs _ statistics := pure (-1, statistics)
  getpass := pure none

/-- A system call made by an operation. -/
def sysCall (x : StateM σ α) : Fs σ α := fun s => .ok (x s).1 (x s).2

/-- `c_str`, as the system reads it. -/
def cStr (l : Bytes) : Bytes := l.takeWhile (· ≠ 0)

/-- `static_cast<int>` of a handle. -/
def fdOf (handle : UInt64) : Int32 := handle.toUInt32.toInt32

namespace ProviderMain

variable (sys : Sys σ) (basePath token : Bytes)

def getFullPath (path : Bytes) : Bytes := basePath ++ path

/-- `(result == 0) ? 0 : -errno`. -/
def status (result : Int32) : Fs σ Int32 := fun s =>
  .ok (if result = 0 then 0 else -sys.errno s) s

/-- `(result >= 0) ? result : -errno`. -/
def count (result : Int32) : Fs σ Int32 := fun s =>
  .ok (if 0 ≤ result then result else -sys.errno s) s

/-- The operations that make one call and answer with its status. -/
def statusOf (x : StateM σ Int32) : Fs σ Int32 := do
  let result ← sysCall x
  status sys result

def access (path : Bytes) (mode : Int32) : Fs σ Int32 :=
  statusOf sys (sys.access (cStr (getFullPath basePath path)) mode)

def getattr (path : Bytes) (attr : Stat) : Fs σ (Int32 × Stat) := do
  let (result, attr) ← sysCall (sys.lstat (cStr (getFullPath basePath path)) attr)
  return (← status sys result, attr)

/-- `readlink`: a target that fills the buffer is not copied, and not an error
either. -/
def readlink (path out : Bytes) : Fs σ (Int32 × Bytes) := do
  let (size, buffer) ← sysCall (sys.readlink (cStr (getFullPath basePath path)))
  let result := size.toInt32
  let out := if 0 ≤ result ∧ result.toInt < PATH_MAX then
    cStr (buffer.toList.set result.toInt.toNat 0) else out
  return (← status sys (if 0 ≤ result then 0 else -1), out)

/-- `symlink`: `from.at(0)` throws when the target is empty. -/
def symlink (target linkpath : Bytes) : Fs σ Int32 :=
  match target with
  | [] => throw ⟨"basic_string::at"⟩
  | c :: _ =>
      let fullTarget := if c = 0x2f then getFullPath basePath target else target
      statusOf sys (sys.symlink (cStr fullTarget) (cStr (getFullPath basePath linkpath)))

def link (oldPath newPath : Bytes) : Fs σ Int32 :=
  statusOf sys (sys.link (cStr (getFullPath basePath oldPath))
    (cStr (getFullPath basePath newPath)))

def rename (oldPath newPath : Bytes) (flags : Int32) : Fs σ Int32 :=
  statusOf sys (sys.renameat2 (-1) (cStr (getFullPath basePath oldPath)) (-1)
    (cStr (getFullPath basePath newPath)) flags.toUInt32)

def chmod (path : Bytes) (mode : UInt32) : Fs σ Int32 :=
  statusOf sys (sys.chmod (cStr (getFullPath basePath path)) mode)

def chown (path : Bytes) (uid gid : UInt32) : Fs σ Int32 :=
  statusOf sys (sys.chown (cStr (getFullPath basePath path)) uid gid)

def truncate (path : Bytes) (size handle : UInt64) : Fs σ Int32 :=
  statusOf sys
    (if handle = invalidHandle then
      sys.truncate (cStr (getFullPath basePath path)) size.toInt64
    else sys.ftruncate (fdOf handle) size.toInt64)

/-- `fsync`: files that are not open are not synced. -/
def fsync (_path : Bytes) (isDatasync : Bool) (handle : UInt64) : Fs σ Int32 :=
  statusOf sys
    (if handle ≠ invalidHandle then
      if !isDatasync then sys.fsync (fdOf handle) else sys.fdatasync (fdOf handle)
    else pure 0)

def utimens (path : Bytes) (tv₀ tv₁ : Timespec) (handle : UInt64) : Fs σ Int32 :=
  statusOf sys
    (if handle = invalidHandle then
      sys.utimensat (-1) (cStr (getFullPath basePath path)) tv₀ tv₁ 0
    else sys.futimens (fdOf handle) tv₀ tv₁)

/-- `open` and `create`: a file descriptor that is not negative is the handle. -/
def opened (x : StateM σ Int32) (handle : UInt64) : Fs σ (Int32 × UInt64) := do
  let fd ← sysCall x
  let handle := if 0 ≤ fd then fd.toInt64.toUInt64 else handle
  return (← status sys (if 0 ≤ fd then 0 else -1), handle)

def «open» (path : Bytes) (flags : Int32) (handle : UInt64) : Fs σ (Int32 × UInt64) :=
  opened sys (sys.open (cStr (getFullPath basePath path)) flags) handle

def mknod (path : Bytes) (mode : UInt32) (rdev : UInt64) : Fs σ Int32 :=
  statusOf sys (sys.mknod (cStr (getFullPath basePath path)) mode rdev)

def create (path : Bytes) (mode : UInt32) (handle : UInt64) : Fs σ (Int32 × UInt64) :=
  opened sys (sys.creat (cStr (getFullPath basePath path)) mode) handle

def release (_path : Bytes) (handle : UInt64) : Fs σ Int32 :=
  statusOf sys (if handle ≠ invalidHandle then sys.close (fdOf handle) else pure 0)

def unlink (path : Bytes) : Fs σ Int32 :=
  statusOf sys (sys.unlink (cStr (getFullPath basePath path)))

/-- `read` opens the file by its path when the handle is valid, and reads from the
handle when it is not. -/
def read (path : Bytes) {size : ℕ} (buffer : Vector UInt8 size) (offset handle : UInt64) :
    Fs σ (Int32 × Vector UInt8 size) := do
  if handle ≠ invalidHandle then
    let fd ← sysCall (sys.open (cStr (getFullPath basePath path)) O_RDONLY)
    if 0 ≤ fd then
      let (result, buffer) ← sysCall (sys.pread fd buffer offset.toInt64)
      let _ ← sysCall (sys.close fd)
      return (← count sys result.toInt32, buffer)
    else return (← count sys (-1), buffer)
  else
    let (result, buffer) ← sysCall (sys.pread (fdOf handle) buffer offset.toInt64)
    return (← count sys result.toInt32, buffer)

/-- `write` opens the file by its path when the handle is not valid. -/
def write (path buffer : Bytes) (offset handle : UInt64) : Fs σ Int32 := do
  if handle = invalidHandle then
    let fd ← sysCall (sys.open (cStr (getFullPath basePath path)) O_WRONLY)
    if 0 ≤ fd then
      let result ← sysCall (sys.pwrite fd buffer offset.toInt64)
      let _ ← sysCall (sys.close fd)
      count sys result.toInt32
    else count sys (-1)
  else
    let result ← sysCall (sys.pwrite (fdOf handle) buffer offset.toInt64)
    count sys result.toInt32

def mkdir (path : Bytes) (mode : UInt32) : Fs σ Int32 :=
  statusOf sys (sys.mkdir (cStr (getFullPath basePath path)) mode)

/-- `readdir`: every name is pushed back to the entries. -/
def readdir (path : Bytes) (entries : List Bytes) : Fs σ (Int32 × List Bytes) := do
  match ← sysCall (sys.listdir (cStr (getFullPath basePath path))) with
  | some names => return (0, names.foldl (fun entries name => entries ++ [name]) entries)
  | none => fun s => .ok (-sys.errno s, entries) s

def rmdir (path : Bytes) : Fs σ Int32 :=
  statusOf sys (sys.rmdir (cStr (getFullPath basePath path)))

def statfs (path : Bytes) (statistics : Statvfs) : Fs σ (Int32 × Statvfs) := do
  let (result, statistics) ← sysCall (sys.statvfs (cStr (getFullPath basePath path)) statistics)
  return (← status sys result, statistics)

/-- `get_credentials`: a null pointer of `getpass` throws where it is made a string. -/
def getCredentials : Fs σ Bytes := do
  if token ≠ [] then return token
  else
    match ← sysCall sys.getpass with
    | some password => return cStr password
    | none => throw ⟨"basic_string: construction from null is not valid"⟩

/-- `class filesystem`. -/
def filesystem : FilesystemI σ where
  access := access sys basePath
  getattr := getattr sys basePath
  readlink := readlink sys basePath
  symlink := symlink sys basePath
  link := link sys basePath
  rename := rename sys basePath
  chmod := chmod sys basePath
  chown := chown sys basePath
  truncate := truncate sys basePath
  fsync := fsync sys
  utimens := utimens sys basePath
  «open» := ProviderMain.open sys basePath
  mknod := mknod sys basePath
  create := create sys basePath
  release := release sys
  unlink := unlink sys basePath
  read := read sys basePath
  write := write sys basePath
  mkdir := mkdir sys basePath
  readdir := readdir sys basePath
  rmdir := rmdir sys basePath
  statfs := statfs sys basePath
  getCredentials := getCredentials sys token

end ProviderMain

end Webfuse
