/-
# Messages delimit themselves

What a decoder makes of a message is decided by the bytes it consumed: data that
follows them is not looked at, so that a request or a response may grow fields at
its end, and a message that breaks off before its end is refused wherever it
breaks off.  Every field has the property (`Webfuse.Message.Fields`) and decoders
are sequences of fields, also where the next field depends on the last one: the
length of a string, the number of strings, the output that is only there when the
result says so.
-/

import Webfuse.Message.Fields
import Webfuse.Wire.Arguments

namespace Webfuse

open Basis Service

variable {σ ω α : Type}

/-! ### Requests -/

theorem selfDelimiting_readArguments (t : RequestType) :
    SelfDelimiting (readArguments t : ReadM ω (Option FsCall)) := by
  cases t with
  | unknown => exact .pure _
  | access =>
      exact selfDelimiting_readStr.bind fun _ => selfDelimiting_readAccessMode.bind fun _ =>
        .pure _
  | symlink =>
      exact selfDelimiting_readStr.bind fun _ => selfDelimiting_readStr.bind fun _ => .pure _
  | link =>
      exact selfDelimiting_readStr.bind fun _ => selfDelimiting_readStr.bind fun _ => .pure _
  | rename =>
      exact selfDelimiting_readStr.bind fun _ => selfDelimiting_readStr.bind fun _ =>
        selfDelimiting_readU8.bind fun _ => .pure _
  | chmod =>
      exact selfDelimiting_readStr.bind fun _ => selfDelimiting_readMode.bind fun _ => .pure _
  | chown =>
      exact selfDelimiting_readStr.bind fun _ => selfDelimiting_readU32.bind fun _ =>
        selfDelimiting_readU32.bind fun _ => .pure _
  | truncate =>
      exact selfDelimiting_readStr.bind fun _ => selfDelimiting_readU64.bind fun _ =>
        selfDelimiting_readU64.bind fun _ => .pure _
  | fsync =>
      exact selfDelimiting_readStr.bind fun _ => selfDelimiting_readBool.bind fun _ =>
        selfDelimiting_readU64.bind fun _ => .pure _
  | utimens =>
      exact selfDelimiting_readStr.bind fun _ => selfDelimiting_readTime.bind fun _ =>
        selfDelimiting_readTime.bind fun _ => selfDelimiting_readU64.bind fun _ => .pure _
  | «open» =>
      exact selfDelimiting_readStr.bind fun _ => selfDelimiting_readOpenflags.bind fun _ =>
        .pure _
  | mknod =>
      exact selfDelimiting_readStr.bind fun _ => selfDelimiting_readMode.bind fun _ =>
        selfDelimiting_readU32.bind fun _ => .pure _
  | create =>
      exact selfDelimiting_readStr.bind fun _ => selfDelimiting_readMode.bind fun _ => .pure _
  | release =>
      exact selfDelimiting_readStr.bind fun _ => selfDelimiting_readU64.bind fun _ => .pure _
  | read =>
      exact selfDelimiting_readStr.bind fun _ => selfDelimiting_readU32.bind fun _ =>
        selfDelimiting_readU64.bind fun _ => selfDelimiting_readU64.bind fun _ => .pure _
  | write =>
      exact selfDelimiting_readStr.bind fun _ => selfDelimiting_readBytes.bind fun _ =>
        selfDelimiting_readU64.bind fun _ => selfDelimiting_readU64.bind fun _ => .pure _
  | mkdir =>
      exact selfDelimiting_readStr.bind fun _ => selfDelimiting_readMode.bind fun _ => .pure _
  | getcreds => exact .pure _
  | _ => exact selfDelimiting_readStr.bind fun _ => .pure _

theorem selfDelimiting_decodeRequest : SelfDelimiting (decodeRequest : ReadM ω Request) :=
  selfDelimiting_readU32.bind fun _ => selfDelimiting_readU8.bind fun _ =>
    (selfDelimiting_readArguments _).bind fun _ => .pure _

/-! ### Responses -/

/-- What the response to a call says besides its output. -/
def FsCall.Result : FsCall → Type
  | getCredentials => Bytes
  | _ => Int32

/-- The decoding of the response to a call, behind its header. -/
def FsCall.response : (call : FsCall) → ReadM call.Out call.Result
  | getattr _ => getattrResponse
  | readlink _ => readlinkResponse
  | «open» .. => handleResponse
  | create .. => handleResponse
  | read .. => readResponse
  | readdir _ => readdirResponse
  | statfs _ => statfsResponse
  | getCredentials => (readStr : ReadM Unit Bytes)
  | access .. => (readResult : ReadM Unit Int32)
  | symlink .. => (readResult : ReadM Unit Int32)
  | link .. => (readResult : ReadM Unit Int32)
  | rename .. => (readResult : ReadM Unit Int32)
  | chmod .. => (readResult : ReadM Unit Int32)
  | chown .. => (readResult : ReadM Unit Int32)
  | truncate .. => (readResult : ReadM Unit Int32)
  | fsync .. => (readResult : ReadM Unit Int32)
  | utimens .. => (readResult : ReadM Unit Int32)
  | mknod .. => (readResult : ReadM Unit Int32)
  | release .. => (readResult : ReadM Unit Int32)
  | unlink .. => (readResult : ReadM Unit Int32)
  | write .. => (readResult : ReadM Unit Int32)
  | mkdir .. => (readResult : ReadM Unit Int32)
  | rmdir .. => (readResult : ReadM Unit Int32)

/-- A response as it is decoded: the server reads the header, and the method, or
`finish_authentication`, the rest. -/
def FsCall.decodeResponse (call : FsCall) : ReadM call.Out ((UInt32 × UInt8) × call.Result) := do
  let header ← readHeader
  let result ← call.response
  return (header, result)

theorem selfDelimiting_resultThen {output : ReadM ω Unit} (h : SelfDelimiting output) :
    SelfDelimiting (resultThen output) := by
  refine selfDelimiting_readResult.bind fun result => ?_
  split_ifs
  · exact h.bind fun _ => .pure _
  · exact .pure _

theorem selfDelimiting_readResponse {size : ℕ} :
    SelfDelimiting (readResponse : ReadM (Vector UInt8 size) Int32) := by
  refine selfDelimiting_readResult.bind fun result => ?_
  split_ifs
  · refine selfDelimiting_readBytes.bind fun data => ?_
    split_ifs
    · exact (SelfDelimiting.assign _).bind fun _ => .pure _
    · exact .of_throws fun s => ⟨_, s, rfl⟩
  · exact .pure _

theorem FsCall.selfDelimiting_response (call : FsCall) : SelfDelimiting call.response := by
  cases call with
  | getattr path => exact selfDelimiting_resultThen selfDelimiting_readAttr
  | readlink path =>
      exact selfDelimiting_resultThen (selfDelimiting_readStr.bind fun _ => .assign _)
  | «open» path flags =>
      exact selfDelimiting_resultThen (selfDelimiting_readU64.bind fun _ => .assign _)
  | create path mode =>
      exact selfDelimiting_resultThen (selfDelimiting_readU64.bind fun _ => .assign _)
  | read path bufferSize offset handle => exact selfDelimiting_readResponse
  | readdir path => exact selfDelimiting_resultThen selfDelimiting_readStrings
  | statfs path => exact selfDelimiting_resultThen selfDelimiting_readStatistics
  | getCredentials => exact selfDelimiting_readStr
  | _ => exact selfDelimiting_readResult

theorem FsCall.selfDelimiting_decodeResponse (call : FsCall) :
    SelfDelimiting call.decodeResponse :=
  selfDelimiting_readHeader.bind fun _ => call.selfDelimiting_response.bind fun _ => .pure _

/-! ### Whole messages -/

/-- What a decoder returns for a message and where it stops is decided by the bytes
it consumed, and it throws on every message that breaks off among them. -/
def Delimits (decode : ReadM ω α) : Prop :=
  ∀ (d : Bytes) (m : ω) (a : α) (reader : MessageReader) (m' : ω),
    decode ⟨⟨d, 0⟩, m⟩ = .ok a ⟨reader, m'⟩ →
      reader.data = d ∧ reader.pos ≤ d.length ∧
      (∀ d' : Bytes, d'.take reader.pos = d.take reader.pos →
        decode ⟨⟨d', 0⟩, m⟩ = .ok a ⟨⟨d', reader.pos⟩, m'⟩) ∧
      ∀ q : Bytes, q <+: d.take reader.pos → q.length < reader.pos →
        ∃ e st, decode ⟨⟨q, 0⟩, m⟩ = .error e st

theorem Delimits.of_selfDelimiting {decode : ReadM ω α} (h : SelfDelimiting decode) :
    Delimits decode := by
  rintro d m a ⟨data, n⟩ m' hd
  obtain ⟨hdata, -, hin⟩ := h.moves hd
  simp only at hdata hin
  subst hdata
  refine ⟨rfl, hin (Nat.zero_le _), ?_, ?_⟩
  · intro d' heq
    exact h.extend hd (Nat.zero_le _) heq
  · intro q hq hlt
    -- a prefix of the consumed bytes is the message up to some place among them
    have hpre : q <+: data := hq.trans (List.take_prefix ..)
    rw [List.prefix_iff_eq_take.1 hpre]
    exact h.breaks hd (Nat.zero_le _) (Nat.zero_le _) hlt

/-- **Messages are self-delimiting and extensible.**  `on_message` decodes a request
and then makes of it what it makes; the decoding of every request and of the
response to every call is decided by the bytes it consumes, whatever follows them,
and throws on every message that breaks off among them. -/
theorem messages_delimit :
    (∀ (σ : Type) (p : Provider σ),
      p.onMessage = decodeRequest >>= fun req => onMemory (p.answer req)) ∧
    (∀ σ : Type, Delimits (decodeRequest : ReadM σ Request)) ∧
    ∀ call : FsCall, Delimits call.decodeResponse :=
  ⟨fun _ p => p.onMessage_eq, fun _ => .of_selfDelimiting selfDelimiting_decodeRequest,
    fun call => .of_selfDelimiting call.selfDelimiting_decodeResponse⟩

end Webfuse
