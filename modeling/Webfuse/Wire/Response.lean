/-
# Responses arrive

The other direction of the wire: what a handler of the provider writes is what
the method of the service reads.  A response is its header, the result and, for
the calls with output parameters, the output where the call succeeded.

`extent_iff` puts both directions together: the reader of every request and of
every response ends behind the last byte that was written, with the one
exception of the request for `mknod`.
-/

import Webfuse.Wire.Request

namespace Webfuse

open Basis MessageWriter Service

variable {σ ω : Type}

/-! ### Decodings of the service -/

/-- The output that follows a result of zero is read, and another result is
read alone. -/
theorem reads_resultThen {output : ReadM ω Unit} {payload : Bytes} {f : ω → ω} (result : Int32)
    (h : 0 = result → Reads output payload (assign f)) :
    Reads (resultThen output)
      (bytesOfU32 result.toUInt32 ++ if 0 = result then payload else [])
      (onMemory fun m => .ok result (if 0 = result then f m else m)) := by
  refine Reads.seq (reads_readResult result) ?_
  split_ifs with h₀
  · exact (h h₀).bind _
  · exact Reads.refl _

theorem reads_readlinkResponse (result : Int32) (out : Bytes) :
    Reads readlinkResponse
      (bytesOfU32 result.toUInt32 ++ if 0 = result then bytesOfData out else [])
      (onMemory fun m => .ok result (if 0 = result then clip out else m)) :=
  reads_resultThen result fun _ => (reads_readStr out).bind_pure _

theorem reads_handleResponse (result : Int32) (handle : UInt64) :
    Reads handleResponse
      (bytesOfU32 result.toUInt32 ++ if 0 = result then bytesOfU64 handle else [])
      (onMemory fun m => .ok result (if 0 = result then low32 handle else m)) :=
  reads_resultThen result fun _ => (reads_readU64 handle).bind_pure _

theorem reads_readdirResponse (result : Int32) {entries : List Bytes}
    (h : entries.length < 2 ^ 32) :
    Reads readdirResponse
      (bytesOfU32 result.toUInt32 ++ if 0 = result then bytesOfStrings entries else [])
      (onMemory fun m => .ok result (if 0 = result then m ++ entries.map clip else m)) :=
  reads_resultThen result fun _ => reads_readStrings h

theorem reads_getattrResponse (result : Int32) (attr : Stat) :
    Reads getattrResponse
      (bytesOfU32 result.toUInt32 ++ if 0 = result then bytesOfAttr attr else [])
      (onMemory fun m => .ok result (if 0 = result then attrRead attr else m)) :=
  reads_resultThen result fun _ => reads_readAttr attr

theorem reads_statfsResponse (result : Int32) (statistics : Statvfs) :
    Reads statfsResponse
      (bytesOfU32 result.toUInt32 ++ if 0 = result then bytesOfStatistics statistics else [])
      (onMemory fun m => .ok result (if 0 = result then statisticsRead statistics else m)) :=
  reads_resultThen result fun _ => reads_readStatistics statistics

/-- The data that follows a positive result is read, and copied to the buffer
where it fits. -/
theorem reads_readResponse {size : ℕ} (result : Int32) (data : Bytes) :
    Reads (readResponse : ReadM (Vector UInt8 size) Int32)
      (bytesOfU32 result.toUInt32 ++ if 0 < result then bytesOfData data else [])
      (onMemory fun buffer =>
        if 0 < result then
          if (clip data).length ≤ size then .ok result (overwrite buffer (clip data))
          else .error ⟨"invalid message"⟩ buffer
        else .ok result buffer) := by
  refine Reads.seq (reads_readResult result) ?_
  split_ifs with hpos hfits
  · refine ((reads_readBytes data).bind_pure _).congr ?_
    simp only [if_pos hfits]
    rfl
  · refine ((reads_readBytes data).bind_pure _).congr ?_
    simp only [if_neg hfits]
    rfl
  · exact Reads.refl _

/-! ### The extent of responses -/

/-- The output parameters of the method of a call. -/
def FsCall.Out : FsCall → Type
  | getattr _ => Stat
  | readlink _ => Bytes
  | «open» .. => UInt64
  | create .. => UInt64
  | read _ bufferSize _ _ => Vector UInt8 bufferSize.toNat
  | readdir _ => List Bytes
  | statfs _ => Statvfs
  | _ => Unit

/-- Where the service's reader of the response to a call ends, started at
`reader` and with the output parameters `out`.  Credentials are read by
`finish_authentication`. -/
def FsCall.readerAfter (reader : MessageReader) : (call : FsCall) → call.Out → MessageReader
  | getattr _, out => (finalState (getattrResponse ⟨reader, out⟩)).cursor
  | readlink _, out => (finalState (readlinkResponse ⟨reader, out⟩)).cursor
  | «open» .., out => (finalState (handleResponse ⟨reader, out⟩)).cursor
  | create .., out => (finalState (handleResponse ⟨reader, out⟩)).cursor
  | read .., out => (finalState (readResponse ⟨reader, out⟩)).cursor
  | readdir _, out => (finalState (readdirResponse ⟨reader, out⟩)).cursor
  | statfs _, out => (finalState (statfsResponse ⟨reader, out⟩)).cursor
  | getCredentials, out => (finalState ((readStr : ReadM Unit Bytes) ⟨reader, out⟩)).cursor
  | access .., out => (finalState ((readResult : ReadM Unit Int32) ⟨reader, out⟩)).cursor
  | symlink .., out => (finalState ((readResult : ReadM Unit Int32) ⟨reader, out⟩)).cursor
  | link .., out => (finalState ((readResult : ReadM Unit Int32) ⟨reader, out⟩)).cursor
  | rename .., out => (finalState ((readResult : ReadM Unit Int32) ⟨reader, out⟩)).cursor
  | chmod .., out => (finalState ((readResult : ReadM Unit Int32) ⟨reader, out⟩)).cursor
  | chown .., out => (finalState ((readResult : ReadM Unit Int32) ⟨reader, out⟩)).cursor
  | truncate .., out => (finalState ((readResult : ReadM Unit Int32) ⟨reader, out⟩)).cursor
  | fsync .., out => (finalState ((readResult : ReadM Unit Int32) ⟨reader, out⟩)).cursor
  | utimens .., out => (finalState ((readResult : ReadM Unit Int32) ⟨reader, out⟩)).cursor
  | mknod .., out => (finalState ((readResult : ReadM Unit Int32) ⟨reader, out⟩)).cursor
  | release .., out => (finalState ((readResult : ReadM Unit Int32) ⟨reader, out⟩)).cursor
  | unlink .., out => (finalState ((readResult : ReadM Unit Int32) ⟨reader, out⟩)).cursor
  | write .., out => (finalState ((readResult : ReadM Unit Int32) ⟨reader, out⟩)).cursor
  | mkdir .., out => (finalState ((readResult : ReadM Unit Int32) ⟨reader, out⟩)).cursor
  | rmdir .., out => (finalState ((readResult : ReadM Unit Int32) ⟨reader, out⟩)).cursor

/-- Directory listings stay below `2^32` names. -/
def FilesystemI.ListsBelow (fs : FilesystemI σ) : Prop :=
  ∀ path s result entries s', fs.readdir path [] s = .ok (result, entries) s' →
    entries.length < 2 ^ 32

theorem writeOutput_data {α : Type} (writer : MessageWriter)
    (write : MessageWriter → α → MessageWriter) (bytes : α → Bytes)
    (h : ∀ w a, (write w a).data = w.data ++ bytes a) (result : Int32) (a : α) :
    (writer.writeOutput write (result, a)).data =
      writer.data ++ (bytesOfU32 result.toUInt32 ++ if 0 = result then bytes a else []) := by
  unfold writeOutput
  split_ifs with h₀
  · rw [h, writeI32_data, List.append_assoc]
  · rw [writeI32_data, List.append_nil]

theorem Provider.writeRead_data (p : Provider σ) (writer : MessageWriter) {n : ℕ} (result : Int32)
    (buffer : Vector UInt8 n) :
    (p.writeRead writer (result, buffer)).data =
      writer.data ++ (bytesOfU32 result.toUInt32 ++
        if 0 < result then bytesOfData (p.bytesFrom buffer result.toInt.toNat) else []) := by
  have hlen : (p.bytesFrom buffer result.toInt.toNat).length = result.toInt.toNat := by
    simp [bytesFrom]
  have htake : (p.bytesFrom buffer result.toInt.toNat).take result.toInt.toNat =
      p.bytesFrom buffer result.toInt.toNat := List.take_of_length_le hlen.le
  unfold writeRead
  split_ifs with hpos
  · rw [writeData_data _ hlen.ge, htake, writeI32_data, List.append_assoc]
  · rw [writeI32_data, List.append_nil]

/-- **The service reads a response to its last byte.** -/
theorem Provider.readerAfter_serve (p : Provider σ) (hdir : p.fs.ListsBelow)
    (writer resp : MessageWriter) (call : FsCall) (s s' : σ)
    (h : p.serve writer call.decoded s = .ok resp s') (out : call.Out) :
    call.readerAfter ⟨resp.data, writer.data.length⟩ out = ⟨resp.data, resp.data.length⟩ := by
  have hresult (result : Int32) :
      (finalState ((readResult : ReadM Unit Int32)
        ⟨⟨(writer.writeI32 result).data, writer.data.length⟩, ()⟩)).cursor =
          ⟨(writer.writeI32 result).data, (writer.writeI32 result).data.length⟩ :=
    Reads.cursor_to_end (y := pure result) (reads_readResult result) writer.data ()
  cases call with
  | getattr path =>
      obtain ⟨⟨result, attr⟩, -, rfl⟩ := bind_pure_ok h
      rw [writeOutput_data writer writeAttr bytesOfAttr writeAttr_data]
      exact (reads_getattrResponse result attr).cursor_to_end writer.data out
  | readlink path =>
      obtain ⟨⟨result, target⟩, -, rfl⟩ := bind_pure_ok h
      rw [writeOutput_data writer writeStr bytesOfData writeStr_data]
      exact (reads_readlinkResponse result target).cursor_to_end writer.data out
  | «open» path flags =>
      obtain ⟨⟨result, handle⟩, -, rfl⟩ := bind_pure_ok h
      rw [writeOutput_data writer writeU64 bytesOfU64 writeU64_data]
      exact (reads_handleResponse result handle).cursor_to_end writer.data out
  | create path mode =>
      obtain ⟨⟨result, handle⟩, -, rfl⟩ := bind_pure_ok h
      rw [writeOutput_data writer writeU64 bytesOfU64 writeU64_data]
      exact (reads_handleResponse result handle).cursor_to_end writer.data out
  | read path bufferSize offset handle =>
      obtain ⟨⟨result, buffer⟩, -, rfl⟩ := bind_pure_ok h
      rw [p.writeRead_data]
      exact (reads_readResponse result _).cursor_to_end writer.data out
  | readdir path =>
      obtain ⟨⟨result, entries⟩, hrun, rfl⟩ := bind_pure_ok h
      rw [writeOutput_data writer writeStrings bytesOfStrings writeStrings_data]
      exact (reads_readdirResponse result (hdir _ _ _ _ _ hrun)).cursor_to_end writer.data out
  | statfs path =>
      obtain ⟨⟨result, statistics⟩, -, rfl⟩ := bind_pure_ok h
      rw [writeOutput_data writer writeStatistics bytesOfStatistics writeStatistics_data]
      exact (reads_statfsResponse result statistics).cursor_to_end writer.data out
  | getCredentials =>
      obtain ⟨credentials, -, rfl⟩ := bind_pure_ok h
      rw [writeStr_data]
      exact Reads.cursor_to_end (y := pure (clip credentials)) (reads_readStr credentials)
        writer.data out
  | _ =>
      obtain ⟨result, -, rfl⟩ := bind_pure_ok h
      exact hresult result

/-! ### Both directions -/

/-- The provider reads a request to its last byte, and every field from where it
was written: the call it makes is the call as its fields arrive. -/
def FsCall.RequestExact (call : FsCall) (p : Provider σ) (message : Bytes) (s : σ) : Prop :=
  (finalState (p.onMessage ⟨⟨message, 0⟩, s⟩)).cursor.pos = message.length ∧
    p.calls message s = [call.arrived]

/-- Whatever the provider answers, the service reads it to the last byte.  The
server has read the five bytes of the header when the method decodes. -/
def FsCall.ResponseExact (call : FsCall) (p : Provider σ) (message : Bytes) (s : σ) : Prop :=
  ∀ resp st, p.onMessage ⟨⟨message, 0⟩, s⟩ = .ok resp st → ∀ out,
    (call.readerAfter ⟨resp.data, 5⟩ out).pos = resp.data.length

/-- `mknod` is the call whose request has an unread end. -/
theorem FsCall.unread_eq_nil_iff (call : FsCall) :
    call.unread = [] ↔ call.requestType ≠ .mknod := by
  cases call <;> simp [unread, requestType, bytesOfU32]

theorem FsCall.decoded_eq_arrived {call : FsCall} (h : call.requestType ≠ .mknod) :
    call.decoded = call.arrived := by
  cases call with
  | mknod => exact absurd rfl h
  | _ => rfl

/-- The reader of a request ends in front of what is left unread. -/
theorem Provider.onMessage_pos (p : Provider σ) (call : FsCall) (id : UInt32) (s : σ) :
    (finalState (p.onMessage ⟨⟨(call.request.setId id).data, 0⟩, s⟩)).cursor.pos =
      (call.request.setId id).data.length - call.unread.length := by
  rw [onMessage_request, finalState_onMemory]

/-- **A request is read to its last byte unless it is for `mknod`.** -/
theorem FsCall.requestExact_iff (call : FsCall) (p : Provider σ) (id : UInt32) (s : σ) :
    call.RequestExact p (call.request.setId id).data s ↔ call.requestType ≠ .mknod := by
  unfold RequestExact
  rw [p.onMessage_pos, p.calls_request, ← call.unread_eq_nil_iff]
  have hlen : (call.request.setId id).data.length ≥ call.unread.length := by
    rw [call.request_data id, List.length_append]
    omega
  have hpos : 0 < (call.request.setId id).data.length := by
    have := (call.request.setId id).header
    omega
  constructor
  · rintro ⟨h, -⟩
    refine List.eq_nil_of_length_eq_zero ?_
    omega
  · intro h
    rw [h, List.length_nil, decoded_eq_arrived (call.unread_eq_nil_iff.1 h)]
    exact ⟨rfl, rfl⟩

/-- **A response is read to its last byte.** -/
theorem FsCall.responseExact (call : FsCall) (p : Provider σ) (hdir : p.fs.ListsBelow)
    (id : UInt32) (s : σ) : call.ResponseExact p (call.request.setId id).data s := by
  intro resp st h out
  rw [p.onMessage_request] at h
  have hheader : (Provider.responseHeader call.requestType id).data.length = 5 := by
    rw [Provider.responseHeader, setId_data]
    rfl
  rw [← hheader, p.readerAfter_serve hdir _ resp call s st.memory (onMemory_eq_ok h).1 out]

/-- **Writers and readers agree on the extent of every message, except on the
request for `mknod`.**  For every method of the service, every id and every
provider, the request is read exactly when the method is not `mknod`, and the
response is read exactly; so are the request and the response of `getcreds`,
which the server sends and reads itself. -/
theorem extent_iff (p : Provider σ) (hdir : p.fs.ListsBelow) (id : UInt32) (s : σ) :
    (∀ call : FsCall, call ≠ .getCredentials → ∃ req, call.sent = [req] ∧
      (call.RequestExact p (req.setId id).data s ↔ call.requestType ≠ .mknod) ∧
      call.ResponseExact p (req.setId id).data s) ∧
    FsCall.getCredentials.RequestExact p ((ofRequest .getcreds).setId id).data s ∧
    FsCall.getCredentials.ResponseExact p ((ofRequest .getcreds).setId id).data s := by
  refine ⟨fun call hcall => ⟨call.request, FsCall.sent_eq hcall, ?_, ?_⟩, ?_, ?_⟩
  · exact call.requestExact_iff p id s
  · exact call.responseExact p hdir id s
  · exact (FsCall.getCredentials.requestExact_iff p id s).2 (by decide)
  · exact FsCall.getCredentials.responseExact p hdir id s

/-- A request to create a directory is read exactly, and so is the refusal. -/
theorem extent_mkdir :
    ∃ req, (FsCall.mkdir [0x2f] 0o755).sent = [req] ∧
      (FsCall.mkdir [0x2f] 0o755).RequestExact Provider.empty (req.setId 1).data () ∧
      (FsCall.mkdir [0x2f] 0o755).ResponseExact Provider.empty (req.setId 1).data () := by
  have hdir : Provider.empty.fs.ListsBelow := by
    rintro path s result entries s' h
    injection h with h
    injection h with _ h
    rw [← h]
    decide
  obtain ⟨req, hreq, hrequest, hresponse⟩ :=
    (extent_iff Provider.empty hdir 1 ()).1 (.mkdir [0x2f] 0o755) (by decide)
  exact ⟨req, hreq, hrequest.2 (by decide), hresponse⟩

/-- Four bytes of the request to make the device `2^33 + 5` stay unread, and the
provider is asked to make the device `2`. -/
theorem mknod_device_lost :
    (FsCall.mknod [0x2f] 0o020644 8589934597).sent =
        [mknodRequest [0x2f] 0o020644 8589934597] ∧
      ((mknodRequest [0x2f] 0o020644 8589934597).setId 1).data.length = 22 ∧
      (finalState (Provider.empty.onMessage
        ⟨⟨((mknodRequest [0x2f] 0o020644 8589934597).setId 1).data, 0⟩, ()⟩)).cursor.pos = 18 ∧
      Provider.empty.calls ((mknodRequest [0x2f] 0o020644 8589934597).setId 1).data () =
        [.mknod [0x2f] 0o020644 2] ∧
      ¬ (FsCall.mknod [0x2f] 0o020644 8589934597).RequestExact Provider.empty
        ((mknodRequest [0x2f] 0o020644 8589934597).setId 1).data () := by
  refine ⟨rfl, by decide, by decide, by decide, ?_⟩
  rintro ⟨h, -⟩
  exact absurd h (by decide)

end Webfuse
