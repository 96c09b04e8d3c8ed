/-
# The filesystem of the service

`src/webfuse/filesystem.cpp`: every method writes a request, hands it to
`ws_server::perform` and reads the result from the response, with the output of
the call where it succeeded.  When anything throws, `catch(...)` answers with
`empty_filesystem`, on the output parameters as they are at that point.

`perform` is a parameter, a computation on a state `τ` of its own: the methods
are the same whether a server, a provider in the same process or nothing at all
is behind it.  The pieces of a method, its request and its decoding, are named,
because the provider is compared with them.
-/

import Webfuse.Filesystem.Calls
import Webfuse.Message.Reader
import Webfuse.Message.Writer

namespace Webfuse

open Basis

namespace Service

variable {τ ω : Type}

/-! ### Requests -/

def accessRequest (path : Bytes) (mode : Int32) : MessageWriter :=
  ((MessageWriter.ofRequest .access).writeStr path).writeAccessMode mode

/-- The request of the methods that send a path alone. -/
def pathRequest (reqType : RequestType) (path : Bytes) : MessageWriter :=
  (MessageWriter.ofRequest reqType).writeStr path

def getattrRequest : Bytes → MessageWriter := pathRequest .getattr

def readlinkRequest : Bytes → MessageWriter := pathRequest .readlink

/-- The request of the methods that send two paths alone. -/
def pathsRequest (reqType : RequestType) (path path' : Bytes) : MessageWriter :=
  ((MessageWriter.ofRequest reqType).writeStr path).writeStr path'

def symlinkRequest : Bytes → Bytes → MessageWriter := pathsRequest .symlink

def linkRequest : Bytes → Bytes → MessageWriter := pathsRequest .link

def renameRequest (oldPath newPath : Bytes) (flags : Int32) : MessageWriter :=
  (((MessageWriter.ofRequest .rename).writeStr oldPath).writeStr newPath).writeRenameFlags
    flags.toUInt32

/-- The request of the methods that send a path and a mode. -/
def modeRequest (reqType : RequestType) (path : Bytes) (mode : UInt32) : MessageWriter :=
  ((MessageWriter.ofRequest reqType).writeStr path).writeMode mode

def chmodRequest : Bytes → UInt32 → MessageWriter := modeRequest .chmod

def chownRequest (path : Bytes) (uid gid : UInt32) : MessageWriter :=
  (((MessageWriter.ofRequest .chown).writeStr path).writeUid uid).writeGid gid

def truncateRequest (path : Bytes) (size handle : UInt64) : MessageWriter :=
  (((MessageWriter.ofRequest .truncate).writeStr path).writeU64 size).writeU64 handle

def fsyncRequest (path : Bytes) (isDatasync : Bool) (handle : UInt64) : MessageWriter :=
  (((MessageWriter.ofRequest .fsync).writeStr path).writeBool isDatasync).writeU64 handle

def utimensRequest (path : Bytes) (tv₀ tv₁ : Timespec) (handle : UInt64) : MessageWriter :=
  ((((MessageWriter.ofRequest .utimens).writeStr path).writeTime tv₀).writeTime tv₁).writeU64 handle

def openRequest (path : Bytes) (flags : Int32) : MessageWriter :=
  ((MessageWriter.ofRequest .open).writeStr path).writeOpenflags flags

/-- `mknod` writes the device with `write_u64`. -/
def mknodRequest (path : Bytes) (mode : UInt32) (rdev : UInt64) : MessageWriter :=
  (modeRequest .mknod path mode).writeU64 rdev

def createRequest : Bytes → UInt32 → MessageWriter := modeRequest .create

def releaseRequest (path : Bytes) (handle : UInt64) : MessageWriter :=
  ((MessageWriter.ofRequest .release).writeStr path).writeU64 handle

def unlinkRequest : Bytes → MessageWriter := pathRequest .unlink

/-- `read` writes the size of the buffer with `write_u32`. -/
def readRequest (path : Bytes) (bufferSize offset handle : UInt64) : MessageWriter :=
  ((((MessageWriter.ofRequest .read).writeStr path).writeU32 bufferSize.toUInt32).writeU64
    offset).writeU64 handle

def writeRequest (path buffer : Bytes) (offset handle : UInt64) : MessageWriter :=
  ((((MessageWriter.ofRequest .write).writeStr path).writeData buffer buffer.length).writeU64
    offset).writeU64 handle

def mkdirRequest : Bytes → UInt32 → MessageWriter := modeRequest .mkdir

def readdirRequest : Bytes → MessageWriter := pathRequest .readdir

def rmdirRequest : Bytes → MessageWriter := pathRequest .rmdir

def statfsRequest : Bytes → MessageWriter := pathRequest .statfs

/-! ### Responses -/

/-- The decoding of the methods whose output follows a result of zero. -/
def resultThen (output : ReadM ω Unit) : ReadM ω Int32 := do
  let result ← readResult
  if 0 = result then output
  return result

def getattrResponse : ReadM Stat Int32 := resultThen readAttr

def readlinkResponse : ReadM Bytes Int32 :=
  resultThen do
    let target ← readStr
    assign fun _ => target

/-- `open` and `create`. -/
def handleResponse : ReadM UInt64 Int32 :=
  resultThen do
    let handle ← readU64
    assign fun _ => handle

def readdirResponse : ReadM (List Bytes) Int32 := resultThen readStrings

def statfsResponse : ReadM Statvfs Int32 := resultThen readStatistics

/-- `memcpy` of `data` to the start of the buffer. -/
def overwrite {size : ℕ} (buffer : Vector UInt8 size) (data : Bytes) : Vector UInt8 size :=
  Vector.ofFn fun i => (data[i.val]?).getD (buffer.get i)

def readResponse {size : ℕ} : ReadM (Vector UInt8 size) Int32 := do
  let result ← readResult
  if 0 < result then
    let data ← readBytes
    if data.length ≤ size then assign fun buffer => overwrite buffer data
    else throw ⟨"invalid message"⟩
  return result

/-! ### Methods -/

/-- The body of a method: `perform` the request, decode the response, and in
`catch(...)` call the fallback. -/
def call (perform : MessageWriter → EStateM Exn τ MessageReader) (req : MessageWriter)
    (response : ReadM ω Int32) (fallback : ω → Int32 × ω) (out : ω) :
    EStateM Exn τ (Int32 × ω) := fun t =>
  match perform req t with
  | .error _ t => .ok (fallback out) t
  | .ok reader t =>
      match response ⟨reader, out⟩ with
      | .ok result st => .ok (result, st.memory) t
      | .error _ st => .ok (fallback st.memory) t

/-- The body of a method without output parameters. -/
def callResult (perform : MessageWriter → EStateM Exn τ MessageReader) (req : MessageWriter)
    (fallback : Int32) : EStateM Exn τ Int32 := do
  let (result, _) ← call perform req (readResult : ReadM Unit Int32) (fun _ => (fallback, ())) ()
  return result

/-- `class filesystem`, over the `perform` of a server. -/
def filesystem (perform : MessageWriter → EStateM Exn τ MessageReader) : FilesystemI τ where
  access path mode :=
    callResult perform (accessRequest path mode) (EmptyFilesystem.access path mode)
  getattr path attr :=
    call perform (getattrRequest path) getattrResponse (EmptyFilesystem.getattr path) attr
  readlink path out :=
    call perform (readlinkRequest path) readlinkResponse (EmptyFilesystem.readlink path) out
  symlink target linkpath :=
    callResult perform (symlinkRequest target linkpath) (EmptyFilesystem.symlink target linkpath)
  link oldPath newPath :=
    callResult perform (linkRequest oldPath newPath) (EmptyFilesystem.link oldPath newPath)
  rename oldPath newPath flags :=
    callResult perform (renameRequest oldPath newPath flags)
      (EmptyFilesystem.rename oldPath newPath flags)
  chmod path mode := callResult perform (chmodRequest path mode) (EmptyFilesystem.chmod path mode)
  chown path uid gid :=
    callResult perform (chownRequest path uid gid) (EmptyFilesystem.chown path uid gid)
  truncate path size handle :=
    callResult perform (truncateRequest path size handle)
      (EmptyFilesystem.truncate path size handle)
  fsync path isDatasync handle :=
    callResult perform (fsyncRequest path isDatasync handle)
      (EmptyFilesystem.fsync path isDatasync handle)
  utimens path tv₀ tv₁ handle :=
    callResult perform (utimensRequest path tv₀ tv₁ handle)
      (EmptyFilesystem.utimens path tv₀ tv₁ handle)
  «open» path flags handle :=
    call perform (openRequest path flags) handleResponse (EmptyFilesystem.open path flags) handle
  mknod path mode rdev :=
    callResult perform (mknodRequest path mode rdev) (EmptyFilesystem.mknod path mode rdev)
  create path mode handle :=
    call perform (createRequest path mode) handleResponse (EmptyFilesystem.create path mode) handle
  release path handle :=
    callResult perform (releaseRequest path handle) (EmptyFilesystem.release path handle)
  unlink path := callResult perform (unlinkRequest path) (EmptyFilesystem.unlink path)
  read path {size} buffer offset handle :=
    call perform (readRequest path (UInt64.ofNat size) offset handle) readResponse
      (fun buffer => EmptyFilesystem.read path buffer offset handle) buffer
  write path buffer offset handle :=
    callResult perform (writeRequest path buffer offset handle)
      (EmptyFilesystem.write path buffer offset handle)
  mkdir path mode := callResult perform (mkdirRequest path mode) (EmptyFilesystem.mkdir path mode)
  readdir path entries :=
    call perform (readdirRequest path) readdirResponse (EmptyFilesystem.readdir path) entries
  rmdir path := callResult perform (rmdirRequest path) (EmptyFilesystem.rmdir path)
  statfs path statistics :=
    call perform (statfsRequest path) statfsResponse (EmptyFilesystem.statfs path) statistics
  getCredentials := throw ⟨"not implemented"⟩

end Service

/-- The request the service sends for a call.  Credentials are not asked for by
a method: `getcreds` is sent by the server itself. -/
def FsCall.request : FsCall → MessageWriter
  | access path mode => Service.accessRequest path mode
  | getattr path => Service.getattrRequest path
  | readlink path => Service.readlinkRequest path
  | symlink target linkpath => Service.symlinkRequest target linkpath
  | link oldPath newPath => Service.linkRequest oldPath newPath
  | rename oldPath newPath flags => Service.renameRequest oldPath newPath flags
  | chmod path mode => Service.chmodRequest path mode
  | chown path uid gid => Service.chownRequest path uid gid
  | truncate path size handle => Service.truncateRequest path size handle
  | fsync path isDatasync handle => Service.fsyncRequest path isDatasync handle
  | utimens path tv₀ tv₁ handle => Service.utimensRequest path tv₀ tv₁ handle
  | «open» path flags => Service.openRequest path flags
  | mknod path mode rdev => Service.mknodRequest path mode rdev
  | create path mode => Service.createRequest path mode
  | release path handle => Service.releaseRequest path handle
  | unlink path => Service.unlinkRequest path
  | read path bufferSize offset handle => Service.readRequest path bufferSize offset handle
  | write path buffer offset handle => Service.writeRequest path buffer offset handle
  | mkdir path mode => Service.mkdirRequest path mode
  | readdir path => Service.readdirRequest path
  | rmdir path => Service.rmdirRequest path
  | statfs path => Service.statfsRequest path
  | getCredentials => MessageWriter.ofRequest .getcreds

/-- A `perform` that notes the requests handed to it and answers none. -/
def Service.unanswered (req : MessageWriter) : EStateM Exn (List MessageWriter) MessageReader :=
  fun reqs => .error ⟨"timeout"⟩ (reqs ++ [req])

/-- The requests that the method of the service hands to `perform`. -/
def FsCall.sent (call : FsCall) : List MessageWriter :=
  finalState (call.run (Service.filesystem Service.unanswered) [])

/-- **Every method sends one request.** -/
theorem FsCall.sent_eq {call : FsCall} (h : call ≠ .getCredentials) :
    call.sent = [call.request] := by
  cases call with
  | read path bufferSize offset handle =>
      have hsize : UInt64.ofNat bufferSize.toNat = bufferSize := UInt64.ofNat_toNat
      change [Service.readRequest path (UInt64.ofNat bufferSize.toNat) offset handle] = _
      rw [hsize, FsCall.request]
  | getCredentials => exact absurd rfl h
  | _ => rfl

end Webfuse
