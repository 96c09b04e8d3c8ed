/-
# Arguments first

Every handler of the provider reads all of its arguments before it calls the
filesystem, and calls it once: `on_message` is `decodeRequest`, which reads the
header and the arguments and touches nothing, and then `Provider.answer`, which
makes the call and writes the response (`onMessage_eq`).  So a request that
cannot be decoded has no effect, whatever is wrong with it and wherever.
-/

import Webfuse.Message.Fields
import Webfuse.Wire.Response

namespace Webfuse

open Basis MessageWriter

variable {σ ω : Type}

/-- The arguments of a request, as its handler reads them.  An unknown request has
none and asks for nothing. -/
def readArguments : RequestType → ReadM ω (Option FsCall)
  | .unknown => return none
  | .access => do
      let path ← readStr
      let mode ← readAccessMode
      return some (.access path mode)
  | .getattr => do
      let path ← readStr
      return some (.getattr path)
  | .readlink => do
      let path ← readStr
      return some (.readlink path)
  | .symlink => do
      let source ← readStr
      let target ← readStr
      return some (.symlink source target)
  | .link => do
      let source ← readStr
      let target ← readStr
      return some (.link source target)
  | .rename => do
      let source ← readStr
      let target ← readStr
      let flags ← readU8
      return some (.rename source target flags.toUInt32.toInt32)
  | .chmod => do
      let path ← readStr
      let mode ← readMode
      return some (.chmod path mode)
  | .chown => do
      let path ← readStr
      let uid ← readU32
      let gid ← readU32
      return some (.chown path uid gid)
  | .truncate => do
      let path ← readStr
      let size ← readU64
      let handle ← readU64
      return some (.truncate path size handle)
  | .fsync => do
      let path ← readStr
      let isDatasync ← readBool
      let handle ← readU64
      return some (.fsync path isDatasync handle)
  | .utimens => do
      let path ← readStr
      let time₀ ← readTime
      let time₁ ← readTime
      let handle ← readU64
      return some (.utimens path time₀ time₁ handle)
  | .open => do
      let path ← readStr
      let flags ← readOpenflags
      return some (.open path flags)
  | .mknod => do
      let path ← readStr
      let mode ← readMode
      let dev ← readU32
      return some (.mknod path mode dev.toUInt64)
  | .create => do
      let path ← readStr
      let mode ← readMode
      return some (.create path mode)
  | .release => do
      let path ← readStr
      let handle ← readU64
      return some (.release path handle)
  | .unlink => do
      let path ← readStr
      return some (.unlink path)
  | .read => do
      let path ← readStr
      let size ← readU32
      let offset ← readU64
      let handle ← readU64
      return some (.read path size.toUInt64 offset handle)
  | .write => do
      let path ← readStr
      let buffer ← readBytes
      let offset ← readU64
      let handle ← readU64
      return some (.write path buffer offset handle)
  | .mkdir => do
      let path ← readStr
      let mode ← readMode
      return some (.mkdir path mode)
  | .readdir => do
      let path ← readStr
      return some (.readdir path)
  | .rmdir => do
      let path ← readStr
      return some (.rmdir path)
  | .statfs => do
      let path ← readStr
      return some (.statfs path)
  | .getcreds => return some .getCredentials

/-- A request as it is decoded: its id, its type and the call it asks for. -/
structure Request where
  id : UInt32
  type : RequestType
  call : Option FsCall

/-- The reading half of `on_message`. -/
def decodeRequest : ReadM ω Request := do
  let id ← readU32
  let type := getRequestType (← readU8)
  let call ← readArguments type
  return ⟨id, type, call⟩

/-- The other half: the call is made and its response written. -/
def Provider.answer (p : Provider σ) (req : Request) : Fs σ MessageWriter :=
  match req.call with
  | some call => p.serve (Provider.responseHeader req.type req.id) call
  | none => return Provider.responseHeader req.type req.id

/-- A computation on the memory, and then what is made of its value. -/
theorem onMemory_pure {α β : Type} (x : EStateM Exn σ α) (f : α → β) :
    (onMemory x >>= fun a => pure (f a) : ReadM σ β) = onMemory (x >>= fun a => pure (f a)) :=
  onMemory_bind fun _ => rfl

namespace Provider

variable (p : Provider σ) (writer : MessageWriter)

/-- **Every handler reads its arguments and then makes its call.** -/
theorem dispatch_eq (t : RequestType) :
    p.dispatch writer t = readArguments t >>= fun call =>
      match call with
      | some call => onMemory (p.serve writer call)
      | none => pure writer := by
  cases t with
  | «open» =>
      simp only [dispatch, fsOpen, readArguments, bind_assoc, pure_bind, serve, writeOutput_symm,
        onMemory_pure]
  | create =>
      simp only [dispatch, fsCreate, readArguments, bind_assoc, pure_bind, serve, writeOutput_symm,
        onMemory_pure]
  | read =>
      simp only [dispatch, fsRead, readArguments, bind_assoc, pure_bind, serve, writeRead,
        onMemory_pure]
      rfl
  | getattr =>
      simp only [dispatch, fsGetattr, readArguments, bind_assoc, pure_bind, serve, writeOutput]
      exact bind_congr fun _ => onMemory_pure _ _
  | getcreds =>
      simp only [dispatch, fsGetCredentials, readArguments, pure_bind, serve, onMemory_pure]
  | unknown => rfl
  | _ =>
      simp only [dispatch, fsAccess, fsReadlink, fsSymlink, fsLink, fsRename, fsChmod,
        fsChown, fsTruncate, fsFsync, fsUtimens, fsMknod, fsRelease, fsUnlink, fsWrite, fsMkdir,
        fsReaddir, fsRmdir, fsStatfs, readArguments, bind_assoc, pure_bind, serve, writeOutput,
        onMemory_pure]

/-- **`on_message` decodes the whole request before it has an effect.** -/
theorem onMessage_eq : p.onMessage = decodeRequest >>= fun req => onMemory (p.answer req) := by
  unfold onMessage decodeRequest
  simp only [bind_assoc, pure_bind, dispatch_eq]
  congr 1
  funext id
  congr 1
  funext byte
  congr 1
  funext call
  cases call <;> rfl

end Provider

/-! ### Decoding touches nothing -/

/-- Arguments are read without a look at the memory. -/
theorem onCursor_readArguments (t : RequestType) :
    (onCursor (readArguments t) : ReadM ω (Option FsCall)) = readArguments t := by
  cases t <;>
    simp only [readArguments, onCursor_bind, onCursor_pure, onCursor_readStr, onCursor_readBytes,
      onCursor_readAccessMode, onCursor_readMode, onCursor_readOpenflags, onCursor_readTime,
      onCursor_readBool, onCursor_readU8, onCursor_readU32, onCursor_readU64]

theorem onCursor_decodeRequest :
    (onCursor decodeRequest : ReadM ω Request) = decodeRequest := by
  simp only [decodeRequest, onCursor_bind, onCursor_pure, onCursor_readU8, onCursor_readU32,
    onCursor_readArguments]

/-- The call that is decoded is one of the operation the type byte names. -/
theorem yields_readArguments (t : RequestType) :
    Yields (readArguments t : ReadM ω (Option FsCall)) fun call =>
      call.map FsCall.requestType = if t = .unknown then none else some t := by
  cases t with
  | unknown => exact .pure rfl
  | _ =>
      repeat refine Yields.bind fun _ => ?_
      exact .pure rfl

/-- A request is its header and then its arguments. -/
theorem decodeRequest_eq : (decodeRequest : ReadM ω Request) = readHeader >>= fun header => do
    let call ← readArguments (getRequestType header.2)
    return ⟨header.1, getRequestType header.2, call⟩ := by
  simp only [decodeRequest, readHeader, bind_assoc, pure_bind]

/-- A request that is decoded has the id and the type of its header. -/
theorem decodeRequest_ok {d : Bytes} {m : ω} {req : Request} {st : Scan UInt8 ω}
    (h : decodeRequest ⟨⟨d, 0⟩, m⟩ = .ok req st) :
    ∃ byte rest, d = bytesOfU32 req.id ++ byte :: rest ∧ req.type = getRequestType byte ∧
      req.call.map FsCall.requestType = if req.type = .unknown then none else some req.type := by
  rw [decodeRequest_eq] at h
  obtain ⟨⟨id, byte⟩, st₁, hread, h⟩ := bind_eq_ok h
  obtain ⟨-, rest, hd⟩ := readHeader_ok hread
  obtain ⟨call, st₂, hcall, h⟩ := bind_eq_ok h
  injection h with hreq
  subst hreq
  exact ⟨byte, rest, hd, rfl, yields_readArguments _ _ _ _ hcall⟩

namespace Provider

variable (p : Provider σ) (writer : MessageWriter)

/-! ### The call is made once -/

/-- The operation a handler calls, with the output parameters it passes. -/
def invoke (call : FsCall) : Fs σ Unit :=
  match call with
  | .getattr path => discard fun s => p.fs.getattr path (p.uninitialized s) s
  | call => call.run p.fs

/-- **A handler ends as the operation it calls ends**, and writes behind the header
of its response. -/
theorem serve_cases (call : FsCall) (s : σ) :
    (∃ resp s', p.serve writer call s = .ok resp s' ∧ p.invoke call s = .ok () s' ∧
      writer.data <+: resp.data) ∨
    ∃ e s', p.serve writer call s = .error e s' ∧ p.invoke call s = .error e s' := by
  have hcase {α : Type} (x : Fs σ α) (f : α → MessageWriter)
      (hf : ∀ a, writer.data <+: (f a).data) :
      (∃ resp s', (x >>= fun a => pure (f a)) s = .ok resp s' ∧ discard x s = .ok () s' ∧
        writer.data <+: resp.data) ∨
      ∃ e s', (x >>= fun a => pure (f a)) s = .error e s' ∧ discard x s = .error e s' := by
    cases hx : x s with
    | ok a s' => exact .inl ⟨f a, s', bind_pure_of_ok hx f, discard_of_ok hx, hf a⟩
    | error e s' => exact .inr ⟨e, s', bind_of_error hx _, discard_of_error hx⟩
  have hresult (result : Int32) : writer.data <+: (writer.writeI32 result).data := by
    rw [writeI32_data]
    exact List.prefix_append ..
  have houtput {α : Type} {write : MessageWriter → α → MessageWriter} {bytes : α → Bytes}
      (h : ∀ w a, (write w a).data = w.data ++ bytes a) (r : Int32 × α) :
      writer.data <+: (writer.writeOutput write r).data := by
    rw [writeOutput_data writer write bytes h]
    exact List.prefix_append ..
  cases call with
  | getattr path => exact hcase _ _ (houtput writeAttr_data)
  | readlink path => exact hcase _ _ (houtput writeStr_data)
  | «open» path flags => exact hcase _ _ (houtput writeU64_data)
  | create path mode => exact hcase _ _ (houtput writeU64_data)
  | read path bufferSize offset handle =>
      refine hcase _ _ fun r => ?_
      rw [p.writeRead_data]
      exact List.prefix_append ..
  | readdir path => exact hcase _ _ (houtput writeStrings_data)
  | statfs path => exact hcase _ _ (houtput writeStatistics_data)
  | getCredentials =>
      refine hcase _ _ fun credentials => ?_
      rw [writeStr_data]
      exact List.prefix_append ..
  | _ => exact hcase _ _ hresult

/-- `on_message` on a message that is not decoded. -/
theorem onMessage_of_error {d : Bytes} {e : Exn} {t : Scan UInt8 Unit}
    (h : decodeRequest ⟨⟨d, 0⟩, ()⟩ = .error e t) (s : σ) :
    p.onMessage ⟨⟨d, 0⟩, s⟩ = .error e ⟨t.cursor, s⟩ := by
  rw [onMessage_eq, ← onCursor_decodeRequest]
  refine bind_of_error ?_ _
  unfold onCursor
  rw [h]

/-- `on_message` on a message that is decoded. -/
theorem onMessage_of_ok {d : Bytes} {req : Request} {t : Scan UInt8 Unit}
    (h : decodeRequest ⟨⟨d, 0⟩, ()⟩ = .ok req t) (s : σ) :
    p.onMessage ⟨⟨d, 0⟩, s⟩ = onMemory (p.answer req) ⟨t.cursor, s⟩ := by
  rw [onMessage_eq, ← onCursor_decodeRequest]
  refine bind_of_ok ?_ _
  unfold onCursor
  rw [h]

theorem calls_of_error {d : Bytes} {e : Exn} {t : Scan UInt8 Unit}
    (h : decodeRequest ⟨⟨d, 0⟩, ()⟩ = .error e t) (s : σ) : p.calls d s = [] := by
  rw [calls, p.recorded.onMessage_of_error h]
  rfl

/-- The filesystem is asked for what was decoded and for nothing else. -/
theorem calls_of_ok {d : Bytes} {req : Request} {t : Scan UInt8 Unit}
    (h : decodeRequest ⟨⟨d, 0⟩, ()⟩ = .ok req t) (s : σ) : p.calls d s = req.call.toList := by
  rw [calls, p.recorded.onMessage_of_ok h, finalState_onMemory]
  unfold answer
  cases req.call with
  | none => rfl
  | some call => exact p.serve_recorded (responseHeader req.type req.id) call (s, [])

theorem responseHeader_data (t : RequestType) (id : UInt32) :
    (responseHeader t id).data = bytesOfU32 id ++ [t.toByte ||| 0x80] := by
  rw [responseHeader, setId_data, ← toByte_getResponseType]
  rfl

/-- Operations that return are returned from. -/
theorem invoke_ok (hfs : p.fs.Returns) (call : FsCall) (s : σ) :
    ∃ s', p.invoke call s = .ok () s' := by
  have hdiscard {α : Type} {x : Fs σ α} (h : ∃ a s', x s = .ok a s') :
      ∃ s', discard x s = .ok () s' := by
    obtain ⟨a, s', h⟩ := h
    exact ⟨s', discard_of_ok h⟩
  cases call with
  | access path mode => exact hdiscard (hfs.access path mode s)
  | getattr path =>
      exact hdiscard (x := fun s => p.fs.getattr path (p.uninitialized s) s)
        (hfs.getattr path (p.uninitialized s) s)
  | readlink path => exact hdiscard (hfs.readlink path [] s)
  | symlink target linkpath => exact hdiscard (hfs.symlink target linkpath s)
  | link oldPath newPath => exact hdiscard (hfs.link oldPath newPath s)
  | rename oldPath newPath flags => exact hdiscard (hfs.rename oldPath newPath flags s)
  | chmod path mode => exact hdiscard (hfs.chmod path mode s)
  | chown path uid gid => exact hdiscard (hfs.chown path uid gid s)
  | truncate path size handle => exact hdiscard (hfs.truncate path size handle s)
  | fsync path isDatasync handle => exact hdiscard (hfs.fsync path isDatasync handle s)
  | utimens path tv₀ tv₁ handle => exact hdiscard (hfs.utimens path tv₀ tv₁ handle s)
  | «open» path flags => exact hdiscard (hfs.open path flags invalidHandle s)
  | mknod path mode rdev => exact hdiscard (hfs.mknod path mode rdev s)
  | create path mode => exact hdiscard (hfs.create path mode invalidHandle s)
  | release path handle => exact hdiscard (hfs.release path handle s)
  | unlink path => exact hdiscard (hfs.unlink path s)
  | read path bufferSize offset handle => exact hdiscard (hfs.read path _ offset handle s)
  | write path buffer offset handle => exact hdiscard (hfs.write path buffer offset handle s)
  | mkdir path mode => exact hdiscard (hfs.mkdir path mode s)
  | readdir path => exact hdiscard (hfs.readdir path [] s)
  | rmdir path => exact hdiscard (hfs.rmdir path s)
  | statfs path => exact hdiscard (hfs.statfs path default s)
  | getCredentials => exact hdiscard (hfs.getCredentials s)

/-- The answer to a request begins with the header of its response. -/
theorem answer_ok (hfs : p.fs.Returns) (req : Request) (s : σ) :
    ∃ resp s', p.answer req s = .ok resp s' ∧
      resp.data.take 5 = bytesOfU32 req.id ++ [req.type.toByte ||| 0x80] := by
  have hheader := responseHeader_data req.type req.id
  unfold answer
  cases req.call with
  | none =>
      refine ⟨_, s, rfl, ?_⟩
      rw [hheader]
      rfl
  | some call =>
      obtain ⟨s', hinvoke⟩ := p.invoke_ok hfs call s
      obtain ⟨resp, s'', hresp, -, payload, hdata⟩ | ⟨e, s'', -, herr⟩ :=
        p.serve_cases (responseHeader req.type req.id) call s
      · refine ⟨resp, s'', hresp, ?_⟩
        rw [← hdata, hheader, List.take_append_of_le_length (by simp)]
        rfl
      · rw [hinvoke] at herr
        cases herr

end Provider

/-- **A request is decoded before it has an effect, and answered under its own
header.**  Whatever is received: either `on_message` throws, and then no operation
was called and the state of the filesystem is what it was; or it returns, and then
the operation of the type byte was called once, or none where the byte is no
request type, and the response begins with the id of the request and its type with
bit `0x80` set. -/
theorem decode_before_effect (p : Provider σ) (hfs : p.fs.Returns) (d : Bytes) (s : σ) :
    ((∃ e cursor, p.onMessage ⟨⟨d, 0⟩, s⟩ = .error e ⟨cursor, s⟩) ∧ p.calls d s = []) ∨
    ∃ resp st id byte rest, p.onMessage ⟨⟨d, 0⟩, s⟩ = .ok resp st ∧
      d = id ++ byte :: rest ∧ id.length = 4 ∧
      ((∃ t : RequestType, t ≠ .unknown ∧ t.toByte = byte ∧
          (∃ call : FsCall, call.requestType = t ∧ p.calls d s = [call]) ∧
          resp.data.take 5 = id ++ [byte ||| 0x80]) ∨
        (∀ t : RequestType, t ≠ .unknown → t.toByte ≠ byte) ∧
          p.calls d s = [] ∧ resp.data.take 5 = id ++ [0x80]) := by
  cases hdecode : decodeRequest (ω := Unit) ⟨⟨d, 0⟩, ()⟩ with
  | error e t =>
      exact .inl ⟨⟨e, t.cursor, p.onMessage_of_error hdecode s⟩, p.calls_of_error hdecode s⟩
  | ok req t =>
      right
      obtain ⟨byte, rest, hd, htype, hcall⟩ := decodeRequest_ok hdecode
      obtain ⟨resp, s', hresp, htake⟩ := p.answer_ok hfs req s
      have hok : p.onMessage ⟨⟨d, 0⟩, s⟩ = .ok resp ⟨t.cursor, s'⟩ := by
        rw [p.onMessage_of_ok hdecode]
        exact onMemory_of_ok hresp _
      refine ⟨resp, _, bytesOfU32 req.id, byte, rest, hok, hd, rfl, ?_⟩
      rw [p.calls_of_ok hdecode]
      by_cases hknown : req.type = .unknown
      · rw [if_pos hknown, Option.map_eq_none_iff] at hcall
        rw [hknown] at htake htype
        refine .inr ⟨fun u hu hbyte => hu ?_, ?_, htake⟩
        · rw [← hbyte, getRequestType_toByte] at htype
          exact htype.symm
        · rw [hcall]
          rfl
      · rw [if_neg hknown, Option.map_eq_some_iff] at hcall
        obtain ⟨call, hcall, hkind⟩ := hcall
        have hbyte : req.type.toByte = byte := by
          rw [htype] at hknown ⊢
          exact toByte_getRequestType hknown
        rw [hbyte] at htake
        exact .inl ⟨req.type, hknown, hbyte, ⟨call, hkind, by rw [hcall]; rfl⟩, htake⟩

theorem EmptyFilesystem.returns : EmptyFilesystem.filesystem.Returns := by
  constructor <;> intros <;> exact fun s => ⟨_, s, rfl⟩

/-- A request to remove the directory `/`, with a byte behind its path. -/
theorem decode_before_effect_rmdir :
    ∃ resp st, Provider.empty.onMessage ⟨⟨[0, 0, 0, 7, 0x14, 0, 0, 0, 1, 0x2f, 9], 0⟩, ()⟩ =
        .ok resp st ∧
      Provider.empty.calls [0, 0, 0, 7, 0x14, 0, 0, 0, 1, 0x2f, 9] () = [.rmdir [0x2f]] ∧
      resp.data.take 5 = [0, 0, 0, 7, 0x94] := by
  have hcalls : Provider.empty.calls [0, 0, 0, 7, 0x14, 0, 0, 0, 1, 0x2f, 9] () =
      [.rmdir [0x2f]] := by decide
  obtain ⟨-, hnone⟩ | ⟨resp, st, id, byte, rest, hok, hd, hid, hcase⟩ :=
    decode_before_effect Provider.empty EmptyFilesystem.returns
      [0, 0, 0, 7, 0x14, 0, 0, 0, 1, 0x2f, 9] ()
  · rw [hcalls] at hnone
    cases hnone
  · match id, hid with
    | [a, b, c, e], _ =>
        simp only [List.cons_append, List.nil_append, List.cons.injEq] at hd
        obtain ⟨rfl, rfl, rfl, rfl, rfl, -⟩ := hd
        obtain ⟨t, -, -, -, htake⟩ | ⟨hunknown, -⟩ := hcase
        · exact ⟨resp, st, hok, hcalls, htake⟩
        · exact absurd rfl (hunknown .rmdir (by decide))

end Webfuse
