/-
# Requests arrive

The service writes the arguments of a call in one file and the provider reads
them in another, with no schema between them.  Here the two are paired: for
every call, the handler of its type reads the fields of the request and goes on
as if the filesystem had been called in place, with the call as it arrives
(`reads_onMessage`).

A call arrives with its paths and buffers clipped to 32 bits of length, its
flags reduced to those the protocol has, and its 64-bit arguments reduced to
their low halves (`FsCall.arrived`).  One call does not arrive: `mknod` writes
its device with `write_u64` and `fs_mknod` reads it with `read_u32`, which
takes the high half and leaves the low half unread (`FsCall.decoded`,
`FsCall.unread`).
-/

import Webfuse.Message.Codec
import Webfuse.Provider.OnMessage
import Webfuse.Service.Filesystem

namespace Webfuse

open Basis MessageWriter Service

variable {σ : Type}

namespace FsCall

/-- The fields of a request up to where its handler reads. -/
def fields : FsCall → Bytes
  | access path mode => bytesOfData path ++ [(AccessMode.fromInt mode).value.toUInt8]
  | getattr path => bytesOfData path
  | readlink path => bytesOfData path
  | symlink target linkpath => bytesOfData target ++ bytesOfData linkpath
  | link oldPath newPath => bytesOfData oldPath ++ bytesOfData newPath
  | rename oldPath newPath flags =>
      bytesOfData oldPath ++ (bytesOfData newPath ++ [renameFlagsByte flags.toUInt32])
  | chmod path mode => bytesOfData path ++ bytesOfU32 (fileModeBits mode)
  | chown path uid gid => bytesOfData path ++ (bytesOfU32 uid ++ bytesOfU32 gid)
  | truncate path size handle => bytesOfData path ++ (bytesOfU64 size ++ bytesOfU64 handle)
  | fsync path isDatasync handle =>
      bytesOfData path ++ ([if isDatasync then 0x01 else 0x00] ++ bytesOfU64 handle)
  | utimens path tv₀ tv₁ handle =>
      bytesOfData path ++ (bytesOfTime tv₀ ++ (bytesOfTime tv₁ ++ bytesOfU64 handle))
  | «open» path flags => bytesOfData path ++ bytesOfU32 (OpenFlags.fromInt flags).value.toUInt32
  | mknod path mode rdev =>
      bytesOfData path ++ (bytesOfU32 (fileModeBits mode) ++ bytesOfU32 (rdev >>> 32).toUInt32)
  | create path mode => bytesOfData path ++ bytesOfU32 (fileModeBits mode)
  | release path handle => bytesOfData path ++ bytesOfU64 handle
  | unlink path => bytesOfData path
  | read path bufferSize offset handle =>
      bytesOfData path ++
        (bytesOfU32 bufferSize.toUInt32 ++ (bytesOfU64 offset ++ bytesOfU64 handle))
  | write path buffer offset handle =>
      bytesOfData path ++ (bytesOfData buffer ++ (bytesOfU64 offset ++ bytesOfU64 handle))
  | mkdir path mode => bytesOfData path ++ bytesOfU32 (fileModeBits mode)
  | readdir path => bytesOfData path
  | rmdir path => bytesOfData path
  | statfs path => bytesOfData path
  | getCredentials => []

/-- What the handler leaves unread: the low half of the device of `mknod`. -/
def unread : FsCall → Bytes
  | mknod _ _ rdev => bytesOfU32 rdev.toUInt32
  | _ => []

/-- A call as its fields arrive, each read by the operation of its own type. -/
def arrived : FsCall → FsCall
  | access path mode => .access (clip path) (accessModeBits mode)
  | getattr path => .getattr (clip path)
  | readlink path => .readlink (clip path)
  | symlink target linkpath => .symlink (clip target) (clip linkpath)
  | link oldPath newPath => .link (clip oldPath) (clip newPath)
  | rename oldPath newPath flags => .rename (clip oldPath) (clip newPath) (renameFlagBits flags)
  | chmod path mode => .chmod (clip path) (fileModeBits mode)
  | chown path uid gid => .chown (clip path) uid gid
  | truncate path size handle => .truncate (clip path) (low32 size) (low32 handle)
  | fsync path isDatasync handle => .fsync (clip path) isDatasync (low32 handle)
  | utimens path tv₀ tv₁ handle =>
      .utimens (clip path) (timeRead tv₀) (timeRead tv₁) (low32 handle)
  | «open» path flags => .open (clip path) (openFlagBits flags)
  | mknod path mode rdev => .mknod (clip path) (fileModeBits mode) (low32 rdev)
  | create path mode => .create (clip path) (fileModeBits mode)
  | release path handle => .release (clip path) (low32 handle)
  | unlink path => .unlink (clip path)
  | read path bufferSize offset handle =>
      .read (clip path) (low32 bufferSize) (low32 offset) (low32 handle)
  | write path buffer offset handle =>
      .write (clip path) (clip buffer) (low32 offset) (low32 handle)
  | mkdir path mode => .mkdir (clip path) (fileModeBits mode)
  | readdir path => .readdir (clip path)
  | rmdir path => .rmdir (clip path)
  | statfs path => .statfs (clip path)
  | getCredentials => .getCredentials

/-- A call as the provider makes it. -/
def decoded : FsCall → FsCall
  | mknod path mode rdev => .mknod (clip path) (fileModeBits mode) (rdev >>> 32).toUInt32.toUInt64
  | call => call.arrived

theorem decoded_requestType (call : FsCall) : call.decoded.requestType = call.requestType := by
  cases call <;> rfl

/-- `write_u64` writes the high half and then the low half. -/
theorem bytesOfU64_halves (value : UInt64) :
    bytesOfU64 value = bytesOfU32 (value >>> 32).toUInt32 ++ bytesOfU32 value.toUInt32 := by
  have hhigh : (value >>> 32).toUInt32.toNat = value.toNat / 256 ^ 4 % 256 ^ 4 := by
    rw [UInt64.toNat_toUInt32, UInt64.toNat_shiftRight]
    simp [Nat.shiftRight_eq_div_pow]
  have hlow : value.toUInt32.toNat = value.toNat % 256 ^ 4 := by
    simp [UInt64.toNat_toUInt32]
  rw [bytesOfU64_eq, bytesOfU32_eq, bytesOfU32_eq, hhigh, hlow, bigEndian_mod, bigEndian_mod]
  exact bigEndian_add 4 4 value.toNat

/-- A request on the wire: the id, the type, the fields and what is left
unread. -/
theorem request_data (call : FsCall) (id : UInt32) :
    (call.request.setId id).data =
      bytesOfU32 id ++ ([call.requestType.toByte] ++ call.fields) ++ call.unread := by
  have hdrop (t : RequestType) : (ofRequest t).data.drop 4 = [t.toByte] := rfl
  have hlen (t : RequestType) : 4 ≤ (ofRequest t).data.length := by
    simp [ofRequest, withType]
  rw [setId_data]
  cases call with
  | getCredentials => rfl
  | write path buffer offset handle =>
      simp [request, writeRequest, fields, unread, requestType, hdrop, writeData_data,
        List.drop_append_of_le_length, hlen]
  | _ =>
      simp [request, accessRequest, getattrRequest, readlinkRequest, symlinkRequest, linkRequest,
        renameRequest, chmodRequest, chownRequest, truncateRequest, fsyncRequest, utimensRequest,
        openRequest, mknodRequest, createRequest, releaseRequest, unlinkRequest, readRequest,
        mkdirRequest, readdirRequest, rmdirRequest, statfsRequest, pathRequest, pathsRequest,
        modeRequest, bytesOfU64_halves, fields, unread, requestType, hdrop,
        List.drop_append_of_le_length, hlen]

end FsCall

/-- The response to a call with an output parameter: the output follows a result
of zero. -/
def MessageWriter.writeOutput {α : Type} (writer : MessageWriter)
    (write : MessageWriter → α → MessageWriter) (r : Int32 × α) : MessageWriter :=
  if 0 = r.1 then write (writer.writeI32 r.1) r.2 else writer.writeI32 r.1

namespace Provider

variable (p : Provider σ) (writer : MessageWriter)

/-- The response to `read`: the bytes that were read follow a positive result. -/
def writeRead {n : ℕ} (r : Int32 × Vector UInt8 n) : MessageWriter :=
  if 0 < r.1 then
    (writer.writeI32 r.1).writeData (p.bytesFrom r.2 r.1.toInt.toNat) r.1.toInt.toNat
  else writer.writeI32 r.1

/-- What a handler does once its arguments are read: it calls the filesystem
and writes the response. -/
def serve : FsCall → Fs σ MessageWriter
  | .access path mode => do
      let result ← p.fs.access path mode
      return writer.writeI32 result
  | .getattr path => do
      let r ← fun s => p.fs.getattr path (p.uninitialized s) s
      return writer.writeOutput writeAttr r
  | .readlink path => do
      let r ← p.fs.readlink path []
      return writer.writeOutput writeStr r
  | .symlink target linkpath => do
      let result ← p.fs.symlink target linkpath
      return writer.writeI32 result
  | .link oldPath newPath => do
      let result ← p.fs.link oldPath newPath
      return writer.writeI32 result
  | .rename oldPath newPath flags => do
      let result ← p.fs.rename oldPath newPath flags
      return writer.writeI32 result
  | .chmod path mode => do
      let result ← p.fs.chmod path mode
      return writer.writeI32 result
  | .chown path uid gid => do
      let result ← p.fs.chown path uid gid
      return writer.writeI32 result
  | .truncate path size handle => do
      let result ← p.fs.truncate path size handle
      return writer.writeI32 result
  | .fsync path isDatasync handle => do
      let result ← p.fs.fsync path isDatasync handle
      return writer.writeI32 result
  | .utimens path tv₀ tv₁ handle => do
      let result ← p.fs.utimens path tv₀ tv₁ handle
      return writer.writeI32 result
  | .open path flags => do
      let r ← p.fs.open path flags (-1)
      return writer.writeOutput writeU64 r
  | .mknod path mode rdev => do
      let result ← p.fs.mknod path mode rdev
      return writer.writeI32 result
  | .create path mode => do
      let r ← p.fs.create path mode (-1)
      return writer.writeOutput writeU64 r
  | .release path handle => do
      let result ← p.fs.release path handle
      return writer.writeI32 result
  | .unlink path => do
      let result ← p.fs.unlink path
      return writer.writeI32 result
  | .read path bufferSize offset handle => do
      let r ← p.fs.read path (Vector.replicate bufferSize.toNat 0) offset handle
      return p.writeRead writer r
  | .write path buffer offset handle => do
      let result ← p.fs.write path buffer offset handle
      return writer.writeI32 result
  | .mkdir path mode => do
      let result ← p.fs.mkdir path mode
      return writer.writeI32 result
  | .readdir path => do
      let r ← p.fs.readdir path []
      return writer.writeOutput writeStrings r
  | .rmdir path => do
      let result ← p.fs.rmdir path
      return writer.writeI32 result
  | .statfs path => do
      let r ← p.fs.statfs path ⟨0, 0, 0, 0, 0, 0, 0, 0⟩
      return writer.writeOutput writeStatistics r
  | .getCredentials => do
      let credentials ← p.fs.getCredentials
      return writer.writeStr credentials

/-- `fs_open` and `fs_create` compare the result the other way round. -/
theorem writeOutput_symm (r : Int32 × UInt64) :
    (if r.1 = 0 then (writer.writeI32 r.1).writeU64 r.2 else writer.writeI32 r.1) =
      writer.writeOutput writeU64 r := by
  simp only [writeOutput, eq_comm (a := r.1)]

/-- **The handler of a call reads its fields** and does what the call does. -/
theorem reads_dispatch (call : FsCall) :
    Reads (p.dispatch writer call.requestType) call.fields
      (onMemory (p.serve writer call.decoded)) := by
  cases call with
  | access path mode =>
      exact (Reads.seq (reads_readStr path) ((reads_readAccessMode mode).bind_pure _)).congr
        (onMemory_bind fun _ => rfl)
  | getattr path => exact ((reads_readStr path).bind_pure _).congr (onMemory_bind fun _ => rfl)
  | readlink path => exact ((reads_readStr path).bind_pure _).congr (onMemory_bind fun _ => rfl)
  | symlink target linkpath =>
      exact (Reads.seq (reads_readStr target) ((reads_readStr linkpath).bind_pure _)).congr
        (onMemory_bind fun _ => rfl)
  | link oldPath newPath =>
      exact (Reads.seq (reads_readStr oldPath) ((reads_readStr newPath).bind_pure _)).congr
        (onMemory_bind fun _ => rfl)
  | rename oldPath newPath flags =>
      refine (Reads.seq (reads_readStr oldPath) (Reads.seq (reads_readStr newPath)
        ((reads_readU8 (renameFlagsByte flags.toUInt32)).bind_pure _))).congr ?_
      change onMemory (p.fs.rename (clip oldPath) (clip newPath)
        (renameFlagsByte flags.toUInt32).toUInt32.toInt32) >>= _ = _
      rw [renameFlagsByte_toInt32]
      exact onMemory_bind fun _ => rfl
  | chmod path mode =>
      exact (Reads.seq (reads_readStr path) ((reads_readMode mode).bind_pure _)).congr
        (onMemory_bind fun _ => rfl)
  | chown path uid gid =>
      exact (Reads.seq (reads_readStr path) (Reads.seq (reads_readU32 uid)
        ((reads_readU32 gid).bind_pure _))).congr (onMemory_bind fun _ => rfl)
  | truncate path size handle =>
      exact (Reads.seq (reads_readStr path) (Reads.seq (reads_readU64 size)
        ((reads_readU64 handle).bind_pure _))).congr (onMemory_bind fun _ => rfl)
  | fsync path isDatasync handle =>
      exact (Reads.seq (reads_readStr path) (Reads.seq (reads_readBool isDatasync)
        ((reads_readU64 handle).bind_pure _))).congr (onMemory_bind fun _ => rfl)
  | utimens path tv₀ tv₁ handle =>
      exact (Reads.seq (reads_readStr path) (Reads.seq (reads_readTime tv₀)
        (Reads.seq (reads_readTime tv₁) ((reads_readU64 handle).bind_pure _)))).congr
        (onMemory_bind fun _ => rfl)
  | «open» path flags =>
      exact (Reads.seq (reads_readStr path) ((reads_readOpenflags flags).bind_pure _)).congr
        (onMemory_bind fun r => congrArg pure (writeOutput_symm writer r))
  | mknod path mode rdev =>
      exact (Reads.seq (reads_readStr path) (Reads.seq (reads_readMode mode)
        ((reads_readU32 (rdev >>> 32).toUInt32).bind_pure _))).congr (onMemory_bind fun _ => rfl)
  | create path mode =>
      exact (Reads.seq (reads_readStr path) ((reads_readMode mode).bind_pure _)).congr
        (onMemory_bind fun r => congrArg pure (writeOutput_symm writer r))
  | release path handle =>
      exact (Reads.seq (reads_readStr path) ((reads_readU64 handle).bind_pure _)).congr
        (onMemory_bind fun _ => rfl)
  | unlink path => exact ((reads_readStr path).bind_pure _).congr (onMemory_bind fun _ => rfl)
  | read path bufferSize offset handle =>
      exact (Reads.seq (reads_readStr path) (Reads.seq (reads_readU32 bufferSize.toUInt32)
        (Reads.seq (reads_readU64 offset) ((reads_readU64 handle).bind_pure _)))).congr
        (onMemory_bind fun _ => rfl)
  | write path buffer offset handle =>
      exact (Reads.seq (reads_readStr path) (Reads.seq (reads_readBytes buffer)
        (Reads.seq (reads_readU64 offset) ((reads_readU64 handle).bind_pure _)))).congr
        (onMemory_bind fun _ => rfl)
  | mkdir path mode =>
      exact (Reads.seq (reads_readStr path) ((reads_readMode mode).bind_pure _)).congr
        (onMemory_bind fun _ => rfl)
  | readdir path => exact ((reads_readStr path).bind_pure _).congr (onMemory_bind fun _ => rfl)
  | rmdir path => exact ((reads_readStr path).bind_pure _).congr (onMemory_bind fun _ => rfl)
  | statfs path => exact ((reads_readStr path).bind_pure _).congr (onMemory_bind fun _ => rfl)
  | getCredentials => exact (Reads.refl _).congr (onMemory_bind fun _ => rfl)

/-- **A request is read back.**  In front of the request for a call,
`on_message` reads up to what it leaves unread, and then serves the call as it
was decoded. -/
theorem reads_onMessage (call : FsCall) (id : UInt32) :
    Reads p.onMessage (bytesOfU32 id ++ ([call.requestType.toByte] ++ call.fields))
      (onMemory (p.serve (responseHeader call.requestType id) call.decoded)) := by
  refine Reads.seq (reads_readU32 id) (Reads.seq (reads_readU8 call.requestType.toByte) ?_)
  rw [getRequestType_toByte]
  exact p.reads_dispatch _ call

/-- `on_message` on the request of a call. -/
theorem onMessage_request (call : FsCall) (id : UInt32) (s : σ) :
    p.onMessage ⟨⟨(call.request.setId id).data, 0⟩, s⟩ =
      onMemory (p.serve (responseHeader call.requestType id) call.decoded)
        ⟨⟨(call.request.setId id).data,
          (call.request.setId id).data.length - call.unread.length⟩, s⟩ := by
  have h := (p.reads_onMessage call id).from_start call.unread s
  rw [call.request_data id]
  rw [List.length_append, Nat.add_sub_cancel]
  exact h

/-- The filesystem is called once, with the call that is served. -/
theorem serve_recorded (call : FsCall) (s : σ × List FsCall) :
    (finalState (p.recorded.serve writer call s)).2 = s.2 ++ [call] := by
  have hnoted {α : Type} (c : FsCall) (x : Fs σ α) (f : α → MessageWriter) :
      (finalState ((noted c x >>= fun a => pure (f a)) s)).2 = s.2 ++ [c] := by
    change (finalState (EStateM.bind (noted c x) (fun a => pure (f a)) s)).2 = _
    unfold EStateM.bind noted
    cases x s.1 <;> rfl
  cases call with
  | read path bufferSize offset handle =>
      have h := hnoted (.read path (UInt64.ofNat bufferSize.toNat) offset handle)
        (p.fs.read path (Vector.replicate bufferSize.toNat 0) offset handle) (p.writeRead writer)
      exact h.trans (by rw [UInt64.ofNat_toNat])
  | _ => exact hnoted _ _ _

/-- **The provider makes one call**, and it is the call that was decoded. -/
theorem calls_request (call : FsCall) (id : UInt32) (s : σ) :
    p.calls (call.request.setId id).data s = [call.decoded] := by
  rw [calls, onMessage_request, finalState_onMemory]
  exact p.serve_recorded (responseHeader call.requestType id) call.decoded (s, [])

end Provider

/-! ### 64-bit arguments -/

/-- The sizes, offsets, handles and seconds of a call.  The number of bytes that
`read` asks for and `write` sends is a size. -/
def FsCall.words : FsCall → List UInt64
  | truncate _ size handle => [size, handle]
  | fsync _ _ handle => [handle]
  | utimens _ tv₀ tv₁ handle => [tv₀.tv_sec.toUInt64, tv₁.tv_sec.toUInt64, handle]
  | release _ handle => [handle]
  | read _ bufferSize offset handle => [bufferSize, offset, handle]
  | write _ buffer offset handle => [UInt64.ofNat buffer.length, offset, handle]
  | _ => []

/-- Of every 64-bit argument the low half arrives. -/
theorem FsCall.decoded_words (call : FsCall) : call.decoded.words = call.words.map low32 := by
  cases call with
  | write path buffer offset handle =>
      have h : UInt64.ofNat (clip buffer).length = low32 (UInt64.ofNat buffer.length) := by
        refine UInt64.toNat_inj.1 ?_
        rw [clip_length, low32, UInt32.toNat_toUInt64, UInt64.toNat_toUInt32, UInt64.toNat_ofNat',
          UInt64.toNat_ofNat']
        omega
      simp [decoded, arrived, words, h]
  | _ => simp [decoded, arrived, words, timeRead]

/-- All of them arrive exactly when they fit in 32 bits. -/
theorem FsCall.decoded_words_eq_iff (call : FsCall) :
    call.decoded.words = call.words ↔ ∀ v ∈ call.words, v.toNat < 2 ^ 32 := by
  have hmap : call.words.map low32 = call.words.map (fun v => v) ↔ ∀ v ∈ call.words, low32 v = v :=
    List.map_inj_left
  rw [List.map_id'] at hmap
  rw [call.decoded_words, hmap]
  exact forall₂_congr fun v _ => low32_eq_iff v

/-- **The 64-bit arguments of a call survive the wire if and only if they fit in
32 bits.**  The method sends one request, whatever its id, and the provider
answers it with a call of the same operation; the sizes, offsets, handles and
seconds of that call are those of the first when all of them are below `2^32`,
and not otherwise: `read_u64` keeps the low half. -/
theorem words_arrive_iff (call : FsCall)
    (h : call.requestType ∈
      [RequestType.truncate, .fsync, .utimens, .release, .read, .write])
    (p : Provider σ) (id : UInt32) (s : σ) :
    ∃ req, call.sent = [req] ∧
      ((∃ call', p.calls (req.setId id).data s = [call'] ∧
          call'.requestType = call.requestType ∧ call'.words = call.words) ↔
        ∀ v ∈ call.words, v.toNat < 2 ^ 32) := by
  have hcall : call ≠ .getCredentials := by
    rintro rfl
    simp [FsCall.requestType] at h
  refine ⟨call.request, FsCall.sent_eq hcall, ?_⟩
  rw [p.calls_request call id s, ← call.decoded_words_eq_iff]
  constructor
  · rintro ⟨call', hcalls, -, hw⟩
    obtain rfl : call.decoded = call' := by simpa using hcalls
    exact hw
  · intro hw
    exact ⟨call.decoded, rfl, call.decoded_requestType, hw⟩

/-- A file of five bytes is truncated, by a handle of seven. -/
theorem words_arrive_truncate :
    ∃ call', Provider.empty.calls ((truncateRequest [0x2f] 5 7).setId 1).data () = [call'] ∧
      call'.requestType = .truncate ∧ call'.words = [5, 7] := by
  obtain ⟨req, hreq, h⟩ := words_arrive_iff (.truncate [0x2f] 5 7) (by decide)
    Provider.empty 1 ()
  obtain rfl : req = truncateRequest [0x2f] 5 7 := by
    rw [FsCall.sent_eq (by decide)] at hreq
    simpa [FsCall.request] using hreq.symm
  exact h.2 (by simp [FsCall.words])

/-- The provider is asked to release handle `2^32 - 1` where the service
releases `invalid_handle`. -/
theorem release_invalidHandle_lost :
    (FsCall.release [0x2f] invalidHandle).sent = [releaseRequest [0x2f] invalidHandle] ∧
      Provider.empty.calls ((releaseRequest [0x2f] invalidHandle).setId 1).data () =
        [.release [0x2f] 0xffffffff] ∧
      ¬ ∃ call', Provider.empty.calls ((releaseRequest [0x2f] invalidHandle).setId 1).data () =
        [call'] ∧ call'.requestType = .release ∧
          call'.words = (FsCall.release [0x2f] invalidHandle).words := by
  have hcalls : Provider.empty.calls ((releaseRequest [0x2f] invalidHandle).setId 1).data () =
      [.release [0x2f] 0xffffffff] := by decide
  refine ⟨rfl, hcalls, ?_⟩
  rintro ⟨call', h, -, hw⟩
  rw [hcalls] at h
  obtain rfl : FsCall.release [0x2f] 0xffffffff = call' := by simpa using h
  exact absurd hw (by decide)

end Webfuse
