/-
# What a remote call returns

A method of the service is two halves with `perform` between them: it sends a request,
and it makes its result and its output parameters of the response, or of the fallback
when there is none (`FsCall.exec_filesystem`, `FsCall.finish`).  A handler of the
provider is two halves around a call of its filesystem (`Provider.serve_eq`).  Put
together they are one equation for every method and all arguments (`exec_remote`): a
remote call is the call of the provider's filesystem with the call as it was decoded,
and what arrives of its outputs (`FsCall.received`).

Where `loopback_transparent` says when a remote call is the call in place, this says
what it is when it is not: strings are clipped, 64-bit values lose their high halves,
and data that does not fit in the caller's buffer turns a success into an error.
-/

import Webfuse.Wire.Arguments
import Webfuse.Wire.Transparency

namespace Webfuse

open Basis MessageWriter Service

variable {σ τ ω : Type}

/-! ### A call with its output parameters -/

/-- A method without output parameters. -/
def plain (x : Fs σ Int32) : Fs σ (Int32 × Unit) := do
  let result ← x
  return (result, ())

/-- The method that is called, with the output parameters it is given.  Credentials have
no result. -/
def FsCall.exec (fs : FilesystemI σ) : (call : FsCall) → call.Out → Fs σ (Int32 × call.Out)
  | access path mode, _ => plain (fs.access path mode)
  | getattr path, attr => fs.getattr path attr
  | readlink path, out => fs.readlink path out
  | symlink target linkpath, _ => plain (fs.symlink target linkpath)
  | link oldPath newPath, _ => plain (fs.link oldPath newPath)
  | rename oldPath newPath flags, _ => plain (fs.rename oldPath newPath flags)
  | chmod path mode, _ => plain (fs.chmod path mode)
  | chown path uid gid, _ => plain (fs.chown path uid gid)
  | truncate path size handle, _ => plain (fs.truncate path size handle)
  | fsync path isDatasync handle, _ => plain (fs.fsync path isDatasync handle)
  | utimens path tv₀ tv₁ handle, _ => plain (fs.utimens path tv₀ tv₁ handle)
  | «open» path flags, handle => fs.open path flags handle
  | mknod path mode rdev, _ => plain (fs.mknod path mode rdev)
  | create path mode, handle => fs.create path mode handle
  | release path handle, _ => plain (fs.release path handle)
  | unlink path, _ => plain (fs.unlink path)
  | read path _ offset handle, buffer => fs.read path buffer offset handle
  | write path buffer offset handle, _ => plain (fs.write path buffer offset handle)
  | mkdir path mode, _ => plain (fs.mkdir path mode)
  | readdir path, entries => fs.readdir path entries
  | rmdir path, _ => plain (fs.rmdir path)
  | statfs path, statistics => fs.statfs path statistics
  | getCredentials, _ => do
      let _ ← fs.getCredentials
      return (0, ())

namespace Service

/-- What a method makes of the response, or of none. -/
def finish (response : ReadM ω Int32) (fallback : ω → Int32 × ω) (out : ω) :
    Option MessageReader → Int32 × ω
  | none => fallback out
  | some reader =>
      match response ⟨reader, out⟩ with
      | .ok result st => (result, st.memory)
      | .error _ st => fallback st.memory

/-- A method is `perform` and what it makes of that. -/
theorem call_eq (perform : MessageWriter → EStateM Exn τ MessageReader) (req : MessageWriter)
    (response : ReadM ω Int32) (fallback : ω → Int32 × ω) (out : ω) (t : τ) :
    call perform req response fallback out t =
      match perform req t with
      | .ok reader t' => .ok (finish response fallback out (some reader)) t'
      | .error _ t' => .ok (finish response fallback out none) t' := by
  unfold call finish
  cases perform req t with
  | error e t' => rfl
  | ok reader t' =>
      dsimp only
      cases response ⟨reader, out⟩ <;> rfl

end Service

/-- What the method of a call makes of the response. -/
def FsCall.finish : (call : FsCall) → Option MessageReader → call.Out → Int32 × call.Out
  | access path mode, reader, _ =>
      Service.finish readResult (fun _ => (EmptyFilesystem.access path mode, ())) () reader
  | getattr path, reader, attr =>
      Service.finish getattrResponse (EmptyFilesystem.getattr path) attr reader
  | readlink path, reader, out =>
      Service.finish readlinkResponse (EmptyFilesystem.readlink path) out reader
  | symlink target linkpath, reader, _ =>
      Service.finish readResult (fun _ => (EmptyFilesystem.symlink target linkpath, ())) () reader
  | link oldPath newPath, reader, _ =>
      Service.finish readResult (fun _ => (EmptyFilesystem.link oldPath newPath, ())) () reader
  | rename oldPath newPath flags, reader, _ =>
      Service.finish readResult (fun _ => (EmptyFilesystem.rename oldPath newPath flags, ())) ()
        reader
  | chmod path mode, reader, _ =>
      Service.finish readResult (fun _ => (EmptyFilesystem.chmod path mode, ())) () reader
  | chown path uid gid, reader, _ =>
      Service.finish readResult (fun _ => (EmptyFilesystem.chown path uid gid, ())) () reader
  | truncate path size handle, reader, _ =>
      Service.finish readResult (fun _ => (EmptyFilesystem.truncate path size handle, ())) () reader
  | fsync path isDatasync handle, reader, _ =>
      Service.finish readResult (fun _ => (EmptyFilesystem.fsync path isDatasync handle, ())) ()
        reader
  | utimens path tv₀ tv₁ handle, reader, _ =>
      Service.finish readResult (fun _ => (EmptyFilesystem.utimens path tv₀ tv₁ handle, ())) ()
        reader
  | «open» path flags, reader, handle =>
      Service.finish handleResponse (EmptyFilesystem.open path flags) handle reader
  | mknod path mode rdev, reader, _ =>
      Service.finish readResult (fun _ => (EmptyFilesystem.mknod path mode rdev, ())) () reader
  | create path mode, reader, handle =>
      Service.finish handleResponse (EmptyFilesystem.create path mode) handle reader
  | release path handle, reader, _ =>
      Service.finish readResult (fun _ => (EmptyFilesystem.release path handle, ())) () reader
  | unlink path, reader, _ =>
      Service.finish readResult (fun _ => (EmptyFilesystem.unlink path, ())) () reader
  | read path _ offset handle, reader, buffer =>
      Service.finish readResponse (fun buffer => EmptyFilesystem.read path buffer offset handle)
        buffer reader
  | write path buffer offset handle, reader, _ =>
      Service.finish readResult (fun _ => (EmptyFilesystem.write path buffer offset handle, ())) ()
        reader
  | mkdir path mode, reader, _ =>
      Service.finish readResult (fun _ => (EmptyFilesystem.mkdir path mode, ())) () reader
  | readdir path, reader, entries =>
      Service.finish readdirResponse (EmptyFilesystem.readdir path) entries reader
  | rmdir path, reader, _ =>
      Service.finish readResult (fun _ => (EmptyFilesystem.rmdir path, ())) () reader
  | statfs path, reader, statistics =>
      Service.finish statfsResponse (EmptyFilesystem.statfs path) statistics reader
  | getCredentials, _, _ => (0, ())

/-- **A method sends its request and finishes with what `perform` returns.** -/
theorem FsCall.exec_filesystem (perform : MessageWriter → EStateM Exn τ MessageReader)
    {call : FsCall} (hcall : call ≠ .getCredentials) (out : call.Out) (t : τ) :
    call.exec (filesystem perform) out t =
      match perform call.request t with
      | .ok reader t' => .ok (call.finish (some reader) out) t'
      | .error _ t' => .ok (call.finish none out) t' := by
  have hplain (req : MessageWriter) (fallback : Int32) :
      plain (callResult perform req fallback) t =
        match perform req t with
        | .ok reader t' =>
            .ok (Service.finish readResult (fun _ => (fallback, ())) () (some reader)) t'
        | .error _ t' => .ok (Service.finish readResult (fun _ => (fallback, ())) () none) t' := by
    have h := call_eq perform req (readResult : ReadM Unit Int32) (fun _ => (fallback, ())) () t
    cases hperform : perform req t with
    | ok reader t' =>
        rw [hperform] at h
        exact bind_pure_of_ok (bind_pure_of_ok h fun r => r.1) fun result => (result, ())
    | error e t' =>
        rw [hperform] at h
        exact bind_pure_of_ok (bind_pure_of_ok h fun r => r.1) fun result => (result, ())
  cases call with
  | getCredentials => exact absurd rfl hcall
  | getattr path => exact call_eq ..
  | readlink path => exact call_eq ..
  | «open» path flags => exact call_eq ..
  | create path mode => exact call_eq ..
  | readdir path => exact call_eq ..
  | statfs path => exact call_eq ..
  | read path bufferSize offset handle =>
      have hsize : UInt64.ofNat bufferSize.toNat = bufferSize := UInt64.ofNat_toNat
      have h := call_eq perform
        (readRequest path (UInt64.ofNat bufferSize.toNat) offset handle) readResponse
        (fun buffer => EmptyFilesystem.read path buffer offset handle) out t
      rw [hsize] at h
      change Service.call perform (readRequest path (UInt64.ofNat bufferSize.toNat) offset handle)
        _ _ _ _ = _
      rw [hsize]
      exact h
  | _ => exact hplain _ _

/-! ### The provider -/

namespace Provider

variable (p : Provider σ)

/-- The output parameters that a handler passes. -/
def given (s : σ) : (call : FsCall) → call.Out
  | .getattr _ => p.uninitialized s
  | .readlink _ => []
  | .open .. => (-1 : UInt64)
  | .create .. => (-1 : UInt64)
  | .read _ bufferSize _ _ => Vector.replicate bufferSize.toNat 0
  | .readdir _ => []
  | .statfs _ => (⟨0, 0, 0, 0, 0, 0, 0, 0⟩ : Statvfs)
  | .access .. | .symlink .. | .link .. | .rename .. | .chmod .. | .chown .. | .truncate ..
  | .fsync .. | .utimens .. | .mknod .. | .release .. | .unlink .. | .write .. | .mkdir ..
  | .rmdir .. | .getCredentials => ()

/-- The response that a handler writes, for a result and outputs. -/
def respond (writer : MessageWriter) : (call : FsCall) → Int32 × call.Out → MessageWriter
  | .getattr _, r => writer.writeOutput writeAttr r
  | .readlink _, r => writer.writeOutput writeStr r
  | .open .., r => writer.writeOutput writeU64 r
  | .create .., r => writer.writeOutput writeU64 r
  | .read .., r => p.writeRead writer r
  | .readdir _, r => writer.writeOutput writeStrings r
  | .statfs _, r => writer.writeOutput writeStatistics r
  | .access .., r => writer.writeI32 r.1
  | .symlink .., r => writer.writeI32 r.1
  | .link .., r => writer.writeI32 r.1
  | .rename .., r => writer.writeI32 r.1
  | .chmod .., r => writer.writeI32 r.1
  | .chown .., r => writer.writeI32 r.1
  | .truncate .., r => writer.writeI32 r.1
  | .fsync .., r => writer.writeI32 r.1
  | .utimens .., r => writer.writeI32 r.1
  | .mknod .., r => writer.writeI32 r.1
  | .release .., r => writer.writeI32 r.1
  | .unlink .., r => writer.writeI32 r.1
  | .write .., r => writer.writeI32 r.1
  | .mkdir .., r => writer.writeI32 r.1
  | .rmdir .., r => writer.writeI32 r.1
  | .getCredentials, _ => writer

/-- **A handler calls the filesystem and writes what it returned.** -/
theorem serve_eq (writer : MessageWriter) {call : FsCall} (hcall : call ≠ .getCredentials) (s : σ) :
    p.serve writer call s =
      (call.exec p.fs (p.given s call) >>= fun r => pure (p.respond writer call r)) s := by
  have hplain (x : Fs σ Int32) : (x >>= fun result => pure (writer.writeI32 result)) s =
      (plain x >>= fun r => pure (writer.writeI32 r.1)) s := by
    simp [plain]
  cases call with
  | getCredentials => exact absurd rfl hcall
  | getattr path => rfl
  | readlink path => rfl
  | «open» path flags => rfl
  | create path mode => rfl
  | readdir path => rfl
  | statfs path => rfl
  | read path bufferSize offset handle => rfl
  | _ => exact hplain _

/-- The call leaves the state that the operation leaves. -/
theorem finalState_exec {call : FsCall} (hcall : call ≠ .getCredentials) (s : σ) :
    finalState (call.exec p.fs (p.given s call) s) = finalState (p.invoke call s) := by
  have hserve := p.serve_eq (responseHeader call.requestType 0) hcall s
  cases hexec : call.exec p.fs (p.given s call) s with
  | ok r s' =>
      rw [bind_pure_of_ok hexec] at hserve
      obtain ⟨resp, s'', hok, hinvoke, -⟩ | ⟨e, s'', herr, -⟩ :=
        p.serve_cases (responseHeader call.requestType 0) call s
      · rw [hok] at hserve
        injection hserve with _ hstate
        rw [hinvoke]
        exact hstate.symm
      · cases hserve.symm.trans herr
  | error e s' =>
      rw [bind_of_error hexec] at hserve
      obtain ⟨resp, s'', hok, -⟩ | ⟨e', s'', herr, hinvoke⟩ :=
        p.serve_cases (responseHeader call.requestType 0) call s
      · cases hserve.symm.trans hok
      · rw [herr] at hserve
        injection hserve with _ hstate
        rw [hinvoke]
        exact hstate.symm

end Provider

/-! ### Both -/

/-- What arrives of the names of a listing: as many as their count modulo `2^32`. -/
def namesRead (names : List Bytes) : List Bytes := (names.take (names.length % 2 ^ 32)).map clip

/-- What `read` makes of the result of the provider's `read`: the data that arrives is
copied to the buffer when it fits. -/
def dataRead (p : Provider σ) (path : Bytes) (offset handle : UInt64) {n size : ℕ}
    (result : Int32) (data : Vector UInt8 n) (out : Vector UInt8 size) :
    Int32 × Vector UInt8 size :=
  let bytes := clip (p.bytesFrom data result.toInt.toNat)
  if 0 < result then
    if bytes.length ≤ size then (result, overwrite out bytes)
    else EmptyFilesystem.read path out offset handle
  else (result, out)

/-- What arrives of the result and the outputs of a call. -/
def FsCall.received (p : Provider σ) : (call : FsCall) → Int32 × call.decoded.Out → call.Out →
    Int32 × call.Out
  | getattr _, (result, attr), out => (result, if 0 = result then attrRead attr else out)
  | readlink _, (result, target), out => (result, if 0 = result then clip target else out)
  | «open» .., (result, handle), out => (result, if 0 = result then low32 handle else out)
  | create .., (result, handle), out => (result, if 0 = result then low32 handle else out)
  | read path _ offset handle, (result, data), out =>
      dataRead p path offset handle result data out
  | readdir _, (result, names), out =>
      (result, if 0 = result then List.append out (namesRead names) else out)
  | statfs _, (result, statistics), out =>
      (result, if 0 = result then statisticsRead statistics else out)
  | access .., r, _ => r
  | symlink .., r, _ => r
  | link .., r, _ => r
  | rename .., r, _ => r
  | chmod .., r, _ => r
  | chown .., r, _ => r
  | truncate .., r, _ => r
  | fsync .., r, _ => r
  | utimens .., r, _ => r
  | mknod .., r, _ => r
  | release .., r, _ => r
  | unlink .., r, _ => r
  | write .., r, _ => r
  | mkdir .., r, _ => r
  | rmdir .., r, _ => r
  | getCredentials, _, _ => (0, ())

/-- A method that finds what it reads behind the header returns it. -/
theorem finish_of_reads {response : ReadM ω Int32} {payload : Bytes} {y : EStateM Exn ω Int32}
    (h : Reads response payload (onMemory y)) (fallback : ω → Int32 × ω) (out : ω)
    (header rest : Bytes) :
    Service.finish response fallback out (some ⟨header ++ payload ++ rest, header.length⟩) =
      match y out with
      | .ok result out' => (result, out')
      | .error _ out' => fallback out' := by
  have hrun := h header rest out
  unfold Service.finish
  dsimp only
  rw [hrun]
  unfold onMemory
  cases y out <;> rfl

/-- **The method of a call reads what the handler of its request wrote.** -/
theorem finish_respond (p : Provider σ) (writer : MessageWriter) {call : FsCall}
    (hcall : call ≠ .getCredentials) (r : Int32 × call.decoded.Out) (out : call.Out) :
    call.finish (some ⟨(p.respond writer call.decoded r).data, writer.data.length⟩) out =
      call.received p r out := by
  have hresult (fallback : Int32) (r : Int32 × Unit) :
      Service.finish (readResult : ReadM Unit Int32) (fun _ => (fallback, ())) ()
        (some ⟨(writer.writeI32 r.1).data, writer.data.length⟩) = r := by
    have h := finish_of_reads (y := pure r.1) (reads_readResult r.1) (fun _ => (fallback, ())) ()
      writer.data []
    rw [List.append_nil, ← writeI32_data] at h
    exact h
  have houtput {α β : Type} {write : MessageWriter → α → MessageWriter} {bytes : α → Bytes}
      (hbytes : ∀ w a, (write w a).data = w.data ++ bytes a) {response : ReadM β Int32}
      {f : β → β} (result : Int32) (a : α)
      (hreads : Reads response (bytesOfU32 result.toUInt32 ++ if 0 = result then bytes a else [])
        (onMemory fun m => .ok result (if 0 = result then f m else m)))
      (fallback : β → Int32 × β) (out : β) :
      Service.finish response fallback out
          (some ⟨(writer.writeOutput write (result, a)).data, writer.data.length⟩) =
        (result, if 0 = result then f out else out) := by
    have h := finish_of_reads hreads fallback out writer.data []
    rw [List.append_nil, ← writeOutput_data writer write bytes hbytes] at h
    exact h
  have hreaddir (path : Bytes) (result : Int32) (names out : List Bytes) :
      Service.finish readdirResponse (EmptyFilesystem.readdir path) out
          (some ⟨(writer.writeOutput writeStrings (result, names)).data, writer.data.length⟩) =
        (result, if 0 = result then out ++ namesRead names else out) := by
    -- the names beyond the count are written and not read
    have hsplit : bytesOfStrings names =
        (bytesOfU32 (UInt32.ofNat names.length) ++
          (names.take (names.length % 2 ^ 32)).flatMap bytesOfData) ++
          (names.drop (names.length % 2 ^ 32)).flatMap bytesOfData := by
      rw [bytesOfStrings, List.append_assoc, ← List.flatMap_append, List.take_append_drop]
    have hdata : (writer.writeOutput writeStrings (result, names)).data =
        writer.data ++ (bytesOfU32 result.toUInt32 ++ if 0 = result then
          bytesOfU32 (UInt32.ofNat names.length) ++
            (names.take (names.length % 2 ^ 32)).flatMap bytesOfData else []) ++
        if 0 = result then (names.drop (names.length % 2 ^ 32)).flatMap bytesOfData else [] := by
      rw [writeOutput_data writer writeStrings bytesOfStrings writeStrings_data, hsplit]
      split_ifs <;> simp
    rw [hdata]
    exact finish_of_reads (reads_resultThen result fun _ => reads_readStrings_take names)
      (EmptyFilesystem.readdir path) out writer.data _
  have hread (path : Bytes) (offset handle : UInt64) {n size : ℕ} (result : Int32)
      (data : Vector UInt8 n) (out : Vector UInt8 size) :
      Service.finish readResponse (fun buffer => EmptyFilesystem.read path buffer offset handle) out
          (some ⟨(p.writeRead writer (result, data)).data, writer.data.length⟩) =
        dataRead p path offset handle result data out := by
    have h := finish_of_reads (reads_readResponse result (p.bytesFrom data result.toInt.toNat))
      (fun buffer => EmptyFilesystem.read path buffer offset handle) out writer.data []
    rw [List.append_nil, ← p.writeRead_data writer result data] at h
    rw [h]
    unfold dataRead
    dsimp only
    by_cases hpos : 0 < result
    · by_cases hfits : (clip (p.bytesFrom data result.toInt.toNat)).length ≤ size
      · simp only [if_pos hpos, if_pos hfits]
      · simp only [if_pos hpos, if_neg hfits]
    · simp only [if_neg hpos]
  cases call with
  | getCredentials => exact absurd rfl hcall
  | getattr path => exact houtput writeAttr_data r.1 r.2 (reads_getattrResponse r.1 r.2) _ out
  | readlink path => exact houtput writeStr_data r.1 r.2 (reads_readlinkResponse r.1 r.2) _ out
  | «open» path flags => exact houtput writeU64_data r.1 r.2 (reads_handleResponse r.1 r.2) _ out
  | create path mode => exact houtput writeU64_data r.1 r.2 (reads_handleResponse r.1 r.2) _ out
  | statfs path => exact houtput writeStatistics_data r.1 r.2 (reads_statfsResponse r.1 r.2) _ out
  | readdir path => exact hreaddir path r.1 r.2 out
  | read path bufferSize offset handle => exact hread path offset handle r.1 r.2 out
  | _ => exact hresult _ r

theorem FsCall.requestType_ne {call : FsCall} (hcall : call ≠ .getCredentials) :
    call.requestType ≠ .getcreds := by
  cases call with
  | getCredentials => exact absurd rfl hcall
  | _ => nofun

theorem FsCall.decoded_ne {call : FsCall} (hcall : call ≠ .getCredentials) :
    call.decoded ≠ .getCredentials := by
  cases call with
  | getCredentials => exact absurd rfl hcall
  | _ => nofun

/-- `loopback` returns when the provider's filesystem does, with a response of which the
method makes what arrives, and throws when it throws. -/
theorem loopback_cases (p : Provider σ) (id : UInt32) {call : FsCall}
    (hcall : call ≠ .getCredentials) (s : σ) :
    (∃ r s' reader, call.decoded.exec p.fs (p.given s call.decoded) s = .ok r s' ∧
      loopback p id call.request s = .ok reader s' ∧
      ∀ out, call.finish (some reader) out = call.received p r out) ∨
    ∃ e s', call.decoded.exec p.fs (p.given s call.decoded) s = .error e s' ∧
      loopback p id call.request s = .error e s' := by
  have hserve := p.serve_eq (Provider.responseHeader call.requestType id)
    (FsCall.decoded_ne hcall) s
  cases hexec : call.decoded.exec p.fs (p.given s call.decoded) s with
  | ok r s' =>
      rw [bind_pure_of_ok hexec] at hserve
      obtain ⟨resp, s'', hok, -, payload, hdata⟩ | ⟨e, s'', herr, -⟩ :=
        p.serve_cases (Provider.responseHeader call.requestType id) call.decoded s
      · have hsame := hserve.symm.trans hok
        injection hsame with hresp _
        have hloop := loopback_eq p id call (FsCall.requestType_ne hcall) hserve
          (hresp ▸ hdata.symm)
        exact .inl ⟨r, s', _, rfl, hloop, fun out => finish_respond p _ hcall r out⟩
      · cases hserve.symm.trans herr
  | error e s' =>
      rw [bind_of_error hexec] at hserve
      refine .inr ⟨e, s', rfl, ?_⟩
      unfold loopback Provider.handler
      rw [p.onMessage_request call id s]
      unfold onMemory
      dsimp only
      rw [hserve]

/-- A remote call returns what arrives, or answers as without a provider. -/
theorem exec_loopback_cases (p : Provider σ) (id : UInt32) {call : FsCall}
    (hcall : call ≠ .getCredentials) (out : call.Out) (s : σ) :
    (∃ r s', call.decoded.exec p.fs (p.given s call.decoded) s = .ok r s' ∧
      call.exec (filesystem (loopback p id)) out s = .ok (call.received p r out) s') ∨
    ∃ e s', call.decoded.exec p.fs (p.given s call.decoded) s = .error e s' ∧
      call.exec (filesystem (loopback p id)) out s = .ok (call.finish none out) s' := by
  rw [FsCall.exec_filesystem _ hcall]
  obtain ⟨r, s', reader, hexec, hloop, hfinish⟩ | ⟨e, s', hexec, hloop⟩ :=
    loopback_cases p id hcall s
  · refine .inl ⟨r, s', hexec, ?_⟩
    rw [hloop]
    exact congrArg (EStateM.Result.ok · s') (hfinish out)
  · refine .inr ⟨e, s', hexec, ?_⟩
    rw [hloop]

/-- **A remote call is the call of the provider's filesystem as it was decoded**, and
returns what arrives of the outputs; when the filesystem throws, the method answers as
without a provider.  For every provider, every method, all arguments, all output
parameters and every state. -/
theorem exec_remote (p : Provider σ) (id : UInt32) {call : FsCall}
    (hcall : call ≠ .getCredentials) (out : call.Out) (s : σ) :
    call.exec (filesystem (loopback p id)) out s =
      match call.decoded.exec p.fs (p.given s call.decoded) s with
      | .ok r s' => .ok (call.received p r out) s'
      | .error _ s' => .ok (call.finish none out) s' := by
  obtain ⟨r, s', hexec, hremote⟩ | ⟨e, s', hexec, hremote⟩ := exec_loopback_cases p id hcall out s
  · rw [hexec, hremote]
  · rw [hexec, hremote]

/-- A provider whose `open` returns a handle of more than 32 bits. -/
def Provider.wide : Provider Unit :=
  { Provider.empty with
    fs := { EmptyFilesystem.filesystem with «open» := fun _ _ _ => pure (0, 0x100000005) } }

/-- Of the handle the low half arrives. -/
theorem exec_remote_open :
    (FsCall.open [0x2f] 0).exec (filesystem (loopback Provider.wide 1)) (9 : UInt64) () =
      .ok (0, (5 : UInt64)) () := by
  have hcall : FsCall.open [0x2f] 0 ≠ .getCredentials := by decide
  exact exec_remote Provider.wide 1 hcall (9 : UInt64) ()

end Webfuse
