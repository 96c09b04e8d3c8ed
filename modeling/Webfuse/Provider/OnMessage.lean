/-
# `provider::detail::on_message`

`src/webfuse/provider.cpp`.  The provider answers one request at a time: it
reads the header, then the arguments of the method, calls the filesystem and
writes the result, with the output of the call where it succeeded.

The filesystem's state is the memory of the reader, so an operation that
throws leaves both where they are.  Two handlers can show memory that nothing
was written to.  `fs_getattr` passes a `struct stat` that is not initialized:
`uninitialized` says what it holds, in any way that may depend on the state.
`fs_read` copies as many bytes as the filesystem says it read, also when the
buffer has fewer: `beyond` says what follows the buffer.
-/

import Webfuse.Filesystem.Calls
import Webfuse.Message.Reader
import Webfuse.Message.Writer

namespace Webfuse

open Basis

/-- `class provider::detail`, and what the memory holds that it does not
write. -/
structure Provider (σ : Type) where
  fs : FilesystemI σ
  uninitialized : σ → Stat
  beyond : ℕ → UInt8

variable {σ : Type}

namespace Provider

variable (p : Provider σ) (writer : MessageWriter)

def fsAccess : ReadM σ MessageWriter := do
  let path ← readStr
  let mode ← readAccessMode
  let result ← onMemory (p.fs.access path mode)
  return writer.writeI32 result

def fsGetattr : ReadM σ MessageWriter := do
  let path ← readStr
  let (result, buffer) ← onMemory fun s => p.fs.getattr path (p.uninitialized s) s
  let writer := writer.writeI32 result
  return if 0 = result then writer.writeAttr buffer else writer

def fsReadlink : ReadM σ MessageWriter := do
  let path ← readStr
  let (result, out) ← onMemory (p.fs.readlink path [])
  let writer := writer.writeI32 result
  return if 0 = result then writer.writeStr out else writer

def fsSymlink : ReadM σ MessageWriter := do
  let source ← readStr
  let target ← readStr
  let result ← onMemory (p.fs.symlink source target)
  return writer.writeI32 result

def fsLink : ReadM σ MessageWriter := do
  let source ← readStr
  let target ← readStr
  let result ← onMemory (p.fs.link source target)
  return writer.writeI32 result

def fsRename : ReadM σ MessageWriter := do
  let source ← readStr
  let target ← readStr
  let flags ← readU8
  let result ← onMemory (p.fs.rename source target flags.toUInt32.toInt32)
  return writer.writeI32 result

def fsChmod : ReadM σ MessageWriter := do
  let path ← readStr
  let mode ← readMode
  let result ← onMemory (p.fs.chmod path mode)
  return writer.writeI32 result

def fsChown : ReadM σ MessageWriter := do
  let path ← readStr
  let uid ← readU32
  let gid ← readU32
  let result ← onMemory (p.fs.chown path uid gid)
  return writer.writeI32 result

def fsTruncate : ReadM σ MessageWriter := do
  let path ← readStr
  let size ← readU64
  let handle ← readU64
  let result ← onMemory (p.fs.truncate path size handle)
  return writer.writeI32 result

def fsFsync : ReadM σ MessageWriter := do
  let path ← readStr
  let isDatasync ← readBool
  let handle ← readU64
  let result ← onMemory (p.fs.fsync path isDatasync handle)
  return writer.writeI32 result

def fsUtimens : ReadM σ MessageWriter := do
  let path ← readStr
  let time₀ ← readTime
  let time₁ ← readTime
  let handle ← readU64
  let result ← onMemory (p.fs.utimens path time₀ time₁ handle)
  return writer.writeI32 result

def fsOpen : ReadM σ MessageWriter := do
  let path ← readStr
  let flags ← readOpenflags
  let (result, handle) ← onMemory (p.fs.open path flags (-1))
  let writer := writer.writeI32 result
  return if result = 0 then writer.writeU64 handle else writer

/-- `fs_mknod` reads the device with `read_u32`. -/
def fsMknod : ReadM σ MessageWriter := do
  let path ← readStr
  let mode ← readMode
  let dev ← readU32
  let result ← onMemory (p.fs.mknod path mode dev.toUInt64)
  return writer.writeI32 result

def fsCreate : ReadM σ MessageWriter := do
  let path ← readStr
  let mode ← readMode
  let (result, handle) ← onMemory (p.fs.create path mode (-1))
  let writer := writer.writeI32 result
  return if result = 0 then writer.writeU64 handle else writer

def fsRelease : ReadM σ MessageWriter := do
  let path ← readStr
  let handle ← readU64
  let result ← onMemory (p.fs.release path handle)
  return writer.writeI32 result

def fsUnlink : ReadM σ MessageWriter := do
  let path ← readStr
  let result ← onMemory (p.fs.unlink path)
  return writer.writeI32 result

/-- The first `size` bytes from the start of a buffer on. -/
def bytesFrom {n : ℕ} (buffer : Vector UInt8 n) (size : ℕ) : Bytes :=
  (List.range size).map fun i => if h : i < n then buffer[i] else p.beyond i

/-- `fs_read`: the first `result` bytes of a buffer of the requested size. -/
def fsRead : ReadM σ MessageWriter := do
  let path ← readStr
  let size ← readU32
  let offset ← readU64
  let handle ← readU64
  let (result, buffer) ← onMemory (p.fs.read path (Vector.replicate size.toNat 0) offset handle)
  let writer := writer.writeI32 result
  let count := result.toInt.toNat
  return if 0 < result then writer.writeData (p.bytesFrom buffer count) count else writer

def fsWrite : ReadM σ MessageWriter := do
  let path ← readStr
  let buffer ← readBytes
  let offset ← readU64
  let handle ← readU64
  let result ← onMemory (p.fs.write path buffer offset handle)
  return writer.writeI32 result

def fsMkdir : ReadM σ MessageWriter := do
  let path ← readStr
  let mode ← readMode
  let result ← onMemory (p.fs.mkdir path mode)
  return writer.writeI32 result

def fsRmdir : ReadM σ MessageWriter := do
  let path ← readStr
  let result ← onMemory (p.fs.rmdir path)
  return writer.writeI32 result

def fsReaddir : ReadM σ MessageWriter := do
  let path ← readStr
  let (result, entries) ← onMemory (p.fs.readdir path [])
  let writer := writer.writeI32 result
  return if 0 = result then writer.writeStrings entries else writer

/-- `fs_statfs`: the statistics are cleared before the call. -/
def fsStatfs : ReadM σ MessageWriter := do
  let path ← readStr
  let (result, statistics) ← onMemory (p.fs.statfs path ⟨0, 0, 0, 0, 0, 0, 0, 0⟩)
  let writer := writer.writeI32 result
  return if 0 = result then writer.writeStatistics statistics else writer

def fsGetCredentials : ReadM σ MessageWriter := do
  let credentials ← onMemory p.fs.getCredentials
  return writer.writeStr credentials

/-- The `switch` of `on_message`; an unknown request is answered with its header
alone. -/
def dispatch (reqType : RequestType) : ReadM σ MessageWriter :=
  match reqType with
  | .access => p.fsAccess writer
  | .getattr => p.fsGetattr writer
  | .readlink => p.fsReadlink writer
  | .symlink => p.fsSymlink writer
  | .link => p.fsLink writer
  | .rename => p.fsRename writer
  | .chmod => p.fsChmod writer
  | .chown => p.fsChown writer
  | .truncate => p.fsTruncate writer
  | .fsync => p.fsFsync writer
  | .utimens => p.fsUtimens writer
  | .open => p.fsOpen writer
  | .mknod => p.fsMknod writer
  | .create => p.fsCreate writer
  | .release => p.fsRelease writer
  | .unlink => p.fsUnlink writer
  | .read => p.fsRead writer
  | .write => p.fsWrite writer
  | .mkdir => p.fsMkdir writer
  | .readdir => p.fsReaddir writer
  | .rmdir => p.fsRmdir writer
  | .statfs => p.fsStatfs writer
  | .getcreds => p.fsGetCredentials writer
  | .unknown => return writer

/-- The response a request of this type and id starts with. -/
def responseHeader (reqType : RequestType) (messageId : UInt32) : MessageWriter :=
  (MessageWriter.ofResponse (getResponseType reqType)).setId messageId

/-- `on_message`. -/
def onMessage (p : Provider σ) : ReadM σ MessageWriter := do
  let messageId ← readU32
  let reqType := getRequestType (← readU8)
  p.dispatch (responseHeader reqType messageId) reqType

/-- `on_message` on a received message, as the handler of a `ws_client`. -/
def handler (p : Provider σ) (message : Bytes) : Fs σ MessageWriter := fun s =>
  match p.onMessage ⟨⟨message, 0⟩, s⟩ with
  | .ok writer st => .ok writer st.memory
  | .error e st => .error e st.memory

/-- The provider over the filesystem that notes the calls made to it. -/
def recorded (p : Provider σ) : Provider (σ × List FsCall) where
  fs := p.fs.recorded
  uninitialized s := p.uninitialized s.1
  beyond := p.beyond

/-- The filesystem calls that `on_message` makes on a received message. -/
def calls (p : Provider σ) (message : Bytes) (s : σ) : List FsCall :=
  (finalState (p.recorded.onMessage ⟨⟨message, 0⟩, (s, [])⟩)).memory.2

/-- A provider of `empty_filesystem`. -/
def empty : Provider Unit := ⟨EmptyFilesystem.filesystem, fun _ => default, fun _ => 0⟩

end Provider

end Webfuse
