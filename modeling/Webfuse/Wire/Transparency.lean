/-
# Remote calls

The service, the wire and the provider together: `loopback` is the `perform` of
a service whose provider answers at once, and `filesystem (loopback p id)` the
filesystem a caller of the service then sees.  `loopback_transparent` compares
it with the provider's filesystem: a call has the result of the call in place,
on the arguments as the flag codecs leave them.

Output parameters are sent only with a result of zero.  With another result the
caller's are left as they are, whatever the provider's filesystem did to those
it was given, and those it is given are empty (`readlink_output_dropped`).
-/

import Webfuse.Wire.Response

namespace Webfuse

open Basis MessageWriter Service

variable {σ ω : Type}

/-- `perform` where `p` answers at once.  The request is stamped with its id; the
response is handed on behind its header, when it carries that id and is not a
response to `getcreds`, as `on_receive` does. -/
def loopback (p : Provider σ) (id : UInt32) (req : MessageWriter) :
    EStateM Exn σ MessageReader := fun s =>
  match p.handler (req.setId id).data s with
  | .error e s => .error e s
  | .ok resp s =>
      match (readHeader : ReadM Unit (UInt32 × UInt8)) ⟨⟨resp.data, 0⟩, ()⟩ with
      | .error e _ => .error e s
      | .ok (messageId, messageType) st =>
          if messageType ≠ ResponseType.getcreds.toByte ∧ messageId = id then .ok st.cursor s
          else .error ⟨"timeout"⟩ s

/-- Only `getcreds` is answered with a response to `getcreds`. -/
theorem getResponseType_toByte_ne {t : RequestType} (h : t ≠ .getcreds) :
    (getResponseType t).toByte ≠ ResponseType.getcreds.toByte := by
  cases t with
  | getcreds => exact absurd rfl h
  | _ => decide

/-- What the service receives is the response, read up to its payload. -/
theorem loopback_eq (p : Provider σ) (id : UInt32) (call : FsCall) {payload : Bytes}
    (hcall : call.requestType ≠ .getcreds) {resp : MessageWriter} {s s' : σ}
    (h : p.serve (Provider.responseHeader call.requestType id) call.decoded s = .ok resp s')
    (hdata : resp.data = (Provider.responseHeader call.requestType id).data ++ payload) :
    loopback p id call.request s =
      .ok ⟨resp.data, (Provider.responseHeader call.requestType id).data.length⟩ s' := by
  have hheader : (Provider.responseHeader call.requestType id).data =
      bytesOfU32 id ++ [(getResponseType call.requestType).toByte] := by
    rw [Provider.responseHeader, setId_data]
    rfl
  have hhandler : p.handler (call.request.setId id).data s = .ok resp s' := by
    unfold Provider.handler
    rw [p.onMessage_request call id s, onMemory_of_ok h]
  have hread := (reads_readHeader (ω := Unit) id
    (getResponseType call.requestType).toByte).from_start payload ()
  rw [← hheader, ← hdata] at hread
  unfold loopback
  rw [hhandler]
  dsimp only
  rw [hread]
  exact if_pos ⟨getResponseType_toByte_ne hcall, rfl⟩

/-- **A method of the service reads what the handler of its request wrote**, and leaves
what the handler wrote behind it. -/
theorem call_loopback_append (p : Provider σ) (id : UInt32) (call : FsCall)
    {payload rest : Bytes} (hcall : call.requestType ≠ .getcreds) {resp : MessageWriter} {s s' : σ}
    (h : p.serve (Provider.responseHeader call.requestType id) call.decoded s = .ok resp s')
    (hdata : resp.data = (Provider.responseHeader call.requestType id).data ++ payload ++ rest)
    {response : ReadM ω Int32} {y : EStateM Exn ω Int32}
    (hread : Reads response payload (onMemory y)) (out : ω) {result : Int32} {out' : ω}
    (hy : y out = .ok result out') (fallback : ω → Int32 × ω) :
    Service.call (loopback p id) call.request response fallback out s = .ok (result, out') s' := by
  unfold Service.call
  rw [loopback_eq p id call hcall h (hdata.trans (List.append_assoc ..))]
  dsimp only
  rw [hdata, hread _ rest out, onMemory_of_ok hy]

/-- A method that reads all of the response. -/
theorem call_loopback (p : Provider σ) (id : UInt32) (call : FsCall) {payload : Bytes}
    (hcall : call.requestType ≠ .getcreds) {resp : MessageWriter} {s s' : σ}
    (h : p.serve (Provider.responseHeader call.requestType id) call.decoded s = .ok resp s')
    (hdata : resp.data = (Provider.responseHeader call.requestType id).data ++ payload)
    {response : ReadM ω Int32} {y : EStateM Exn ω Int32}
    (hread : Reads response payload (onMemory y)) (out : ω) {result : Int32} {out' : ω}
    (hy : y out = .ok result out') (fallback : ω → Int32 × ω) :
    Service.call (loopback p id) call.request response fallback out s = .ok (result, out') s' :=
  call_loopback_append p id call hcall h (hdata.trans (List.append_nil _).symm) hread out hy
    fallback

/-- A method without output parameters. -/
theorem callResult_loopback (p : Provider σ) (id : UInt32) (call : FsCall)
    (hcall : call.requestType ≠ .getcreds) {result : Int32} {s s' : σ}
    (h : p.serve (Provider.responseHeader call.requestType id) call.decoded s =
      .ok ((Provider.responseHeader call.requestType id).writeI32 result) s')
    (fallback : Int32) :
    callResult (loopback p id) call.request fallback s = .ok result s' := by
  have hcalled : Service.call (loopback p id) call.request readResult
      (fun _ => (fallback, ())) () s = .ok (result, ()) s' :=
    call_loopback p id call hcall h (writeI32_data _ _)
      (show Reads readResult _ (onMemory (pure result)) from reads_readResult result) () rfl _
  exact bind_pure_of_ok hcalled fun r => r.1

/-- What a caller of `remote` may expect when `fs` is behind it.  Where an
operation of `fs` returns, `remote` returns its result and leaves the state it
leaves; a call of `fs` is a call on empty output parameters, whose content is
handed on when the result is zero.  The 64-bit arguments of `read` and `write`
are only said to be those of the caller where they fit in 32 bits. -/
structure Transparent (fs remote : FilesystemI σ) : Prop where
  access : ∀ {path} mode {s result s'}, path.length < 2 ^ 32 →
    fs.access path (accessModeBits mode) s = .ok result s' →
    remote.access path mode s = .ok result s'
  readlink : ∀ {path} out {s result target s'}, path.length < 2 ^ 32 → target.length < 2 ^ 32 →
    fs.readlink path [] s = .ok (result, target) s' →
    remote.readlink path out s = .ok (result, if 0 = result then target else out) s'
  symlink : ∀ {target linkpath s result s'}, target.length < 2 ^ 32 → linkpath.length < 2 ^ 32 →
    fs.symlink target linkpath s = .ok result s' →
    remote.symlink target linkpath s = .ok result s'
  link : ∀ {oldPath newPath s result s'}, oldPath.length < 2 ^ 32 → newPath.length < 2 ^ 32 →
    fs.link oldPath newPath s = .ok result s' →
    remote.link oldPath newPath s = .ok result s'
  rename : ∀ {oldPath newPath} flags {s result s'}, oldPath.length < 2 ^ 32 →
    newPath.length < 2 ^ 32 → fs.rename oldPath newPath (renameFlagBits flags) s = .ok result s' →
    remote.rename oldPath newPath flags s = .ok result s'
  chmod : ∀ {path} mode {s result s'}, path.length < 2 ^ 32 →
    fs.chmod path (fileModeBits mode) s = .ok result s' →
    remote.chmod path mode s = .ok result s'
  chown : ∀ {path uid gid s result s'}, path.length < 2 ^ 32 →
    fs.chown path uid gid s = .ok result s' →
    remote.chown path uid gid s = .ok result s'
  unlink : ∀ {path s result s'}, path.length < 2 ^ 32 →
    fs.unlink path s = .ok result s' →
    remote.unlink path s = .ok result s'
  mkdir : ∀ {path} mode {s result s'}, path.length < 2 ^ 32 →
    fs.mkdir path (fileModeBits mode) s = .ok result s' →
    remote.mkdir path mode s = .ok result s'
  readdir : ∀ {path} entries {s result names s'}, path.length < 2 ^ 32 → names.length < 2 ^ 32 →
    (∀ name ∈ names, name.length < 2 ^ 32) → fs.readdir path [] s = .ok (result, names) s' →
    remote.readdir path entries s =
      .ok (result, if 0 = result then entries ++ names else entries) s'
  rmdir : ∀ {path s result s'}, path.length < 2 ^ 32 →
    fs.rmdir path s = .ok result s' →
    remote.rmdir path s = .ok result s'
  read : ∀ {path} {size : ℕ} (buffer : Vector UInt8 size) offset handle, path.length < 2 ^ 32 →
    size < 2 ^ 32 → ∃ offset' handle', (offset.toNat < 2 ^ 32 → offset' = offset) ∧
      (handle.toNat < 2 ^ 32 → handle' = handle) ∧ ∀ {s result data s'}, result.toInt ≤ (size : ℤ) →
        fs.read path (Vector.replicate size 0) offset' handle' s = .ok (result, data) s' →
        remote.read path buffer offset handle s =
          .ok (result, overwrite buffer (data.toList.take result.toInt.toNat)) s'
  write : ∀ {path data} offset handle, path.length < 2 ^ 32 → data.length < 2 ^ 32 →
    ∃ offset' handle', (offset.toNat < 2 ^ 32 → offset' = offset) ∧
      (handle.toNat < 2 ^ 32 → handle' = handle) ∧ ∀ {s result s'},
        fs.write path data offset' handle' s = .ok result s' →
        remote.write path data offset handle s = .ok result s'

/-- The bytes `fs_read` copies from a buffer that holds them. -/
theorem Provider.bytesFrom_eq (p : Provider σ) {n : ℕ} (buffer : Vector UInt8 n) {count : ℕ}
    (h : count ≤ n) : p.bytesFrom buffer count = buffer.toList.take count := by
  refine List.ext_getElem (by simpa [bytesFrom] using h) fun i hi hi' => ?_
  have : i < count := by simpa [bytesFrom] using hi
  simp [bytesFrom, show i < n by omega]

/-- `fs_read` on a buffer of the requested size. -/
theorem Provider.serve_read (p : Provider σ) (writer : MessageWriter) {path : Bytes}
    {bufferSize offset handle : UInt64} {size : ℕ} (hsize : bufferSize.toNat = size) {s s' : σ}
    {result : Int32} {data : Vector UInt8 size}
    (h : p.fs.read path (Vector.replicate size 0) offset handle s = .ok (result, data) s') :
    p.serve writer (.read path bufferSize offset handle) s =
      .ok (p.writeRead writer (result, data)) s' := by
  subst hsize
  exact bind_pure_of_ok h _

/-- Nothing is copied from an empty string. -/
theorem overwrite_nil {size : ℕ} (buffer : Vector UInt8 size) : overwrite buffer [] = buffer := by
  ext i hi
  simp [overwrite, Vector.get]

/-- What `filesystem::read` makes of the bytes that `fs_read` sent. -/
theorem Provider.copied (p : Provider σ) {size : ℕ} (buffer data : Vector UInt8 size)
    (hsize : size < 2 ^ 32) {result : Int32} (h : result.toInt ≤ (size : ℤ)) :
    (if 0 < result then
      if (clip (p.bytesFrom data result.toInt.toNat)).length ≤ size then
        .ok result (overwrite buffer (clip (p.bytesFrom data result.toInt.toNat)))
      else .error ⟨"invalid message"⟩ buffer
    else .ok result buffer : EStateM.Result Exn (Vector UInt8 size) Int32) =
      .ok result (overwrite buffer (data.toList.take result.toInt.toNat)) := by
  have hcount : result.toInt.toNat ≤ size := by omega
  have hlen : (p.bytesFrom data result.toInt.toNat).length = result.toInt.toNat := by
    simp [bytesFrom]
  rw [clip_of_lt (by omega), hlen, if_pos hcount, p.bytesFrom_eq data hcount]
  split_ifs with hpos
  · rfl
  · have hnonpos : result.toInt ≤ 0 := by
      rw [Int32.lt_iff_toInt_lt] at hpos
      simpa using hpos
    rw [Int.toNat_of_nonpos hnonpos, List.take_zero, overwrite_nil]

/-- **A remote call has the result of the call in place.**  For every provider
and every id, the filesystem that the service offers over `loopback` is
transparent for the filesystem of the provider. -/
theorem loopback_transparent (p : Provider σ) (id : UInt32) :
    Transparent p.fs (filesystem (loopback p id)) where
  access {path} mode {s result s'} hpath h := by
    rw [← clip_of_lt hpath] at h
    exact callResult_loopback p id (.access path mode) (by simp [FsCall.requestType])
      (bind_pure_of_ok h _) _
  readlink {path} out {s result target s'} hpath htarget h := by
    rw [← clip_of_lt hpath] at h
    have hrun := call_loopback p id (.readlink path) (by simp [FsCall.requestType])
      (bind_pure_of_ok h _)
      (writeOutput_data _ writeStr bytesOfData writeStr_data result target)
      (reads_readlinkResponse result target) out rfl (EmptyFilesystem.readlink path)
    rw [clip_of_lt htarget] at hrun
    exact hrun
  symlink {target linkpath s result s'} htarget hlink h := by
    rw [← clip_of_lt htarget, ← clip_of_lt hlink] at h
    exact callResult_loopback p id (.symlink target linkpath) (by simp [FsCall.requestType])
      (bind_pure_of_ok h _) _
  link {oldPath newPath s result s'} hold hnew h := by
    rw [← clip_of_lt hold, ← clip_of_lt hnew] at h
    exact callResult_loopback p id (.link oldPath newPath) (by simp [FsCall.requestType])
      (bind_pure_of_ok h _) _
  rename {oldPath newPath} flags {s result s'} hold hnew h := by
    rw [← clip_of_lt hold, ← clip_of_lt hnew] at h
    exact callResult_loopback p id (.rename oldPath newPath flags) (by simp [FsCall.requestType])
      (bind_pure_of_ok h _) _
  chmod {path} mode {s result s'} hpath h := by
    rw [← clip_of_lt hpath] at h
    exact callResult_loopback p id (.chmod path mode) (by simp [FsCall.requestType])
      (bind_pure_of_ok h _) _
  chown {path uid gid s result s'} hpath h := by
    rw [← clip_of_lt hpath] at h
    exact callResult_loopback p id (.chown path uid gid) (by simp [FsCall.requestType])
      (bind_pure_of_ok h _) _
  unlink {path s result s'} hpath h := by
    rw [← clip_of_lt hpath] at h
    exact callResult_loopback p id (.unlink path) (by simp [FsCall.requestType])
      (bind_pure_of_ok h _) _
  mkdir {path} mode {s result s'} hpath h := by
    rw [← clip_of_lt hpath] at h
    exact callResult_loopback p id (.mkdir path mode) (by simp [FsCall.requestType])
      (bind_pure_of_ok h _) _
  readdir {path} entries {s result names s'} hpath hlen hnames h := by
    rw [← clip_of_lt hpath] at h
    have hclip : names.map clip = names := by
      rw [List.map_congr_left fun name hname => clip_of_lt (hnames name hname), List.map_id']
    have hrun := call_loopback p id (.readdir path) (by simp [FsCall.requestType])
      (bind_pure_of_ok h _)
      (writeOutput_data _ writeStrings bytesOfStrings writeStrings_data result names)
      (reads_readdirResponse result hlen) entries rfl (EmptyFilesystem.readdir path)
    rw [hclip] at hrun
    exact hrun
  rmdir {path s result s'} hpath h := by
    rw [← clip_of_lt hpath] at h
    exact callResult_loopback p id (.rmdir path) (by simp [FsCall.requestType])
      (bind_pure_of_ok h _) _
  read {path size} buffer offset handle hpath hsize := by
    refine ⟨low32 offset, low32 handle, (low32_eq_iff offset).2, (low32_eq_iff handle).2, ?_⟩
    intro s result data s' hresult h
    rw [← clip_of_lt hpath] at h
    have hn : (low32 (UInt64.ofNat size)).toNat = size := by
      rw [low32, UInt32.toNat_toUInt64, UInt64.toNat_toUInt32, UInt64.toNat_ofNat']
      omega
    exact call_loopback p id (.read path (UInt64.ofNat size) offset handle)
      (by simp [FsCall.requestType]) (p.serve_read _ hn h) (p.writeRead_data _ result data)
      (reads_readResponse result _) buffer (p.copied buffer data hsize hresult) _
  write {path data} offset handle hpath hdata := by
    refine ⟨low32 offset, low32 handle, (low32_eq_iff offset).2, (low32_eq_iff handle).2, ?_⟩
    intro s result s' h
    rw [← clip_of_lt hpath, ← clip_of_lt hdata] at h
    exact callResult_loopback p id (.write path data offset handle) (by simp [FsCall.requestType])
      (bind_pure_of_ok h _) _

/-- A provider that lists `.` and `a`, and whose `readlink` fails after it wrote
to its output parameter. -/
def Provider.sample : Provider Unit :=
  { Provider.empty with
    fs := { EmptyFilesystem.filesystem with
      readdir := fun _ _ => pure (0, [[0x2e], [0x61]])
      readlink := fun _ _ => pure (-5, [0x78]) } }

/-- The names of a listing arrive behind those the caller has. -/
theorem loopback_readdir_sample :
    (filesystem (loopback Provider.sample 1)).readdir [0x2f] [[0x62]] () =
      .ok (0, [[0x62], [0x2e], [0x61]]) () :=
  (loopback_transparent Provider.sample 1).readdir [[0x62]] (by decide) (by decide) (by decide) rfl

/-- What a failed `readlink` wrote to its output parameter does not reach the
caller. -/
theorem readlink_output_dropped :
    Provider.sample.fs.readlink [0x2f] [] () = .ok (-5, [0x78]) () ∧
      (filesystem (loopback Provider.sample 1)).readlink [0x2f] [] () = .ok (-5, []) () ∧
      (filesystem (loopback Provider.sample 1)).readlink [0x2f] [] () ≠
        Provider.sample.fs.readlink [0x2f] [] () := by
  have hremote : (filesystem (loopback Provider.sample 1)).readlink [0x2f] [] () =
      .ok (-5, []) () := by rfl
  refine ⟨rfl, hremote, ?_⟩
  rw [hremote]
  intro h
  injection h with h
  injection h with _ h
  cases h

end Webfuse
