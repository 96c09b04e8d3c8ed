/-
# Requests that are answered

A message is answered when the handler returns: where it throws, the client
writes a line to `cerr` and queues nothing, and whoever waits for the response
waits for the timeout.  There are two ways to throw.  A message that breaks off
within the fields of its type is not decoded (`Complete`), and an operation of the
filesystem may throw itself.  `answered_iff` says that these are all.

In the filesystem of `webfuse_provider` the operations that throw are `symlink`
with an empty target and `get_credentials` without a token and a terminal.
-/

import Webfuse.Client.Callback
import Webfuse.Provider.Main
import Webfuse.Wire.Arguments

namespace Webfuse

open Basis

variable {σ ω α β : Type}

/-! ### Complete requests -/

/-- The fields of a request, behind its header. -/
def RequestType.layout : RequestType → List (Bytes → ℕ)
  | unknown => []
  | access => [Field.string, Field.byte]
  | getattr => [Field.string]
  | readlink => [Field.string]
  | symlink => [Field.string, Field.string]
  | link => [Field.string, Field.string]
  | rename => [Field.string, Field.string, Field.byte]
  | chmod => [Field.string, Field.word]
  | chown => [Field.string, Field.word, Field.word]
  | truncate => [Field.string, Field.double, Field.double]
  | fsync => [Field.string, Field.byte, Field.double]
  | utimens => [Field.string, Field.double, Field.word, Field.double, Field.word, Field.double]
  | «open» => [Field.string, Field.word]
  | mknod => [Field.string, Field.word, Field.word]
  | create => [Field.string, Field.word]
  | release => [Field.string, Field.double]
  | unlink => [Field.string]
  | read => [Field.string, Field.word, Field.double, Field.double]
  | write => [Field.string, Field.string, Field.double, Field.double]
  | mkdir => [Field.string, Field.word]
  | readdir => [Field.string]
  | rmdir => [Field.string]
  | statfs => [Field.string]
  | getcreds => []

/-- All fields of the type of the message are there. -/
def Complete (message : Bytes) : Prop :=
  (extent (getRequestType (typeByte message)).layout (message.drop 5)).isSome

instance (message : Bytes) : Decidable (Complete message) :=
  inferInstanceAs (Decidable (Option.isSome _ = true))

theorem scans_readArguments (t : RequestType) :
    Scans (readArguments t : ReadM ω (Option FsCall)) t.layout := by
  cases t with
  | unknown => exact .pure _
  | access => exact scans_readStr.bind fun _ => scans_readAccessMode.bind fun _ => .pure _
  | symlink => exact scans_readStr.bind fun _ => scans_readStr.bind fun _ => .pure _
  | link => exact scans_readStr.bind fun _ => scans_readStr.bind fun _ => .pure _
  | rename =>
      exact scans_readStr.bind fun _ => scans_readStr.bind fun _ => scans_readU8.bind fun _ =>
        .pure _
  | chmod => exact scans_readStr.bind fun _ => scans_readMode.bind fun _ => .pure _
  | chown =>
      exact scans_readStr.bind fun _ => scans_readU32.bind fun _ => scans_readU32.bind fun _ =>
        .pure _
  | truncate =>
      exact scans_readStr.bind fun _ => scans_readU64.bind fun _ => scans_readU64.bind fun _ =>
        .pure _
  | fsync =>
      exact scans_readStr.bind fun _ => scans_readBool.bind fun _ => scans_readU64.bind fun _ =>
        .pure _
  | utimens =>
      simp only [readArguments, readTime, bind_assoc, pure_bind]
      exact scans_readStr.bind fun _ => scans_readU64.bind fun _ => scans_readU32.bind fun _ =>
        scans_readU64.bind fun _ => scans_readU32.bind fun _ => scans_readU64.bind fun _ =>
        .pure _
  | «open» => exact scans_readStr.bind fun _ => scans_readOpenflags.bind fun _ => .pure _
  | mknod =>
      exact scans_readStr.bind fun _ => scans_readMode.bind fun _ => scans_readU32.bind fun _ =>
        .pure _
  | create => exact scans_readStr.bind fun _ => scans_readMode.bind fun _ => .pure _
  | release => exact scans_readStr.bind fun _ => scans_readU64.bind fun _ => .pure _
  | read =>
      exact scans_readStr.bind fun _ => scans_readU32.bind fun _ => scans_readU64.bind fun _ =>
        scans_readU64.bind fun _ => .pure _
  | write =>
      exact scans_readStr.bind fun _ => scans_readStr.bind fun _ => scans_readU64.bind fun _ =>
        scans_readU64.bind fun _ => .pure _
  | mkdir => exact scans_readStr.bind fun _ => scans_readMode.bind fun _ => .pure _
  | getcreds => exact .pure _
  | _ => exact scans_readStr.bind fun _ => .pure _

/-- **A message is decoded exactly when it is complete.** -/
theorem decodeRequest_iff {message : Bytes} (h : 5 ≤ message.length) :
    (∃ req t, decodeRequest (ω := Unit) ⟨⟨message, 0⟩, ()⟩ = .ok req t) ↔ Complete message := by
  have hheader := readHeader_of_length h ()
  have hargs := scans_readArguments (ω := Unit) (getRequestType (typeByte message)) message 5 () h
  rw [decodeRequest_eq, bind_of_ok hheader, Complete]
  cases hextent : extent (getRequestType (typeByte message)).layout (message.drop 5) with
  | some n =>
      rw [hextent] at hargs
      obtain ⟨call, hcall⟩ := hargs
      exact iff_of_true ⟨_, _, bind_of_ok hcall _⟩ rfl
  | none =>
      rw [hextent] at hargs
      obtain ⟨e, t, herr⟩ := hargs.bind fun call =>
        pure (⟨messageId message, getRequestType (typeByte message), call⟩ : Request)
      refine iff_of_false ?_ (by simp)
      rintro ⟨req, u, hok⟩
      rw [herr] at hok
      cases hok

/-! ### Any filesystem -/

/-- The operation that the message asks for, if any, returns. -/
def OperationReturns (p : Provider σ) (message : Bytes) (s : σ) : Prop :=
  ∀ req t, decodeRequest (ω := Unit) ⟨⟨message, 0⟩, ()⟩ = .ok req t →
    ∀ call, req.call = some call → ∃ s', p.invoke call s = .ok () s'

/-- The last fragment of a message is received, and exactly one response is queued,
with the id of the message. -/
def Answered (p : Provider σ) (context : ClientContext σ) (wsi : ℕ) (fragment : Bytes) : Prop :=
  ∃ resp : MessageWriter,
    (context.onReceive p.handler wsi fragment true).1.requests = context.requests ++ [resp] ∧
      resp.data.take 4 = (context.currentMessage ++ fragment).take 4

/-- A response is queued when the handler returns, and none when it throws. -/
theorem answered_iff_handler (p : Provider σ) (context : ClientContext σ) (wsi : ℕ)
    (fragment : Bytes) :
    Answered p context wsi fragment ↔
      ∃ resp s', p.handler (context.currentMessage ++ fragment) context.state = .ok resp s' ∧
        resp.data.take 4 = (context.currentMessage ++ fragment).take 4 := by
  unfold Answered ClientContext.onReceive
  rw [if_pos rfl]
  cases p.handler (context.currentMessage ++ fragment) context.state with
  | ok resp s' => simp
  | error e s' => simp

/-- A request that is answered is answered under its id. -/
theorem Provider.answer_iff (p : Provider σ) (req : Request) (s : σ) :
    (∃ resp s', p.answer req s = .ok resp s' ∧ resp.data.take 4 = bytesOfU32 req.id) ↔
      ∀ call, req.call = some call → ∃ s', p.invoke call s = .ok () s' := by
  have hid {l : Bytes} (h : (responseHeader req.type req.id).data <+: l) :
      l.take 4 = bytesOfU32 req.id := by
    obtain ⟨payload, rfl⟩ := h
    rw [responseHeader_data, List.append_assoc, List.take_append_of_le_length (by simp)]
    rfl
  unfold answer
  cases req.call with
  | none => exact iff_of_true ⟨_, s, rfl, hid List.prefix_rfl⟩ (by simp)
  | some call =>
      obtain ⟨resp, s', hserve, hinvoke, hpre⟩ | ⟨e, s', hserve, hinvoke⟩ :=
        p.serve_cases (responseHeader req.type req.id) call s
      · refine iff_of_true ⟨resp, s', hserve, hid hpre⟩ ?_
        rintro call' ⟨⟩
        exact ⟨s', hinvoke⟩
      · refine iff_of_false ?_ ?_
        · rintro ⟨resp, s'', hok, -⟩
          exact nomatch hserve.symm.trans hok
        · intro h
          obtain ⟨s'', hok⟩ := h call rfl
          rw [hinvoke] at hok
          cases hok

/-- The handler of a message that is decoded is the answer to the request. -/
theorem Provider.handler_of_ok (p : Provider σ) {d : Bytes} {req : Request} {t : Scan UInt8 Unit}
    (h : decodeRequest ⟨⟨d, 0⟩, ()⟩ = .ok req t) (s : σ) : p.handler d s = p.answer req s := by
  unfold handler
  rw [p.onMessage_of_ok h]
  unfold onMemory
  cases p.answer req s <;> rfl

theorem Provider.handler_of_error (p : Provider σ) {d : Bytes} {e : Exn} {t : Scan UInt8 Unit}
    (h : decodeRequest ⟨⟨d, 0⟩, ()⟩ = .error e t) (s : σ) : ∃ s', p.handler d s = .error e s' := by
  unfold handler
  rw [p.onMessage_of_error h]
  exact ⟨s, rfl⟩

/-- **A message is answered exactly when it is complete and its operation
returns.** -/
theorem answered_iff_complete (p : Provider σ) (context : ClientContext σ) (wsi : ℕ)
    (fragment : Bytes) (h : 5 ≤ (context.currentMessage ++ fragment).length) :
    Answered p context wsi fragment ↔
      Complete (context.currentMessage ++ fragment) ∧
        OperationReturns p (context.currentMessage ++ fragment) context.state := by
  rw [answered_iff_handler, ← decodeRequest_iff h]
  generalize context.currentMessage ++ fragment = message at h ⊢
  unfold OperationReturns
  cases hdecode : decodeRequest (ω := Unit) ⟨⟨message, 0⟩, ()⟩ with
  | error e t =>
      obtain ⟨s', herr⟩ := p.handler_of_error hdecode context.state
      rw [herr]
      simp
  | ok req t =>
      obtain ⟨byte, rest, hmessage, -, -⟩ := decodeRequest_ok hdecode
      have htake : message.take 4 = bytesOfU32 req.id := by
        rw [hmessage, List.take_append_of_le_length (by simp)]
        rfl
      rw [p.handler_of_ok hdecode, htake, p.answer_iff]
      constructor
      · intro hreturns
        refine ⟨⟨req, t, rfl⟩, ?_⟩
        rintro req' t' ⟨⟩
        exact hreturns
      · rintro ⟨-, hreturns⟩
        exact hreturns req t rfl

/-! ### The filesystem of `webfuse_provider` -/

theorem Returning.pure (a : α) : Returning (pure a : Fs σ α) := fun s => ⟨a, s, rfl⟩

theorem Returning.sysCall (x : StateM σ α) : Returning (sysCall x) := fun _ => ⟨_, _, rfl⟩

theorem Returning.bind {x : Fs σ α} {f : α → Fs σ β} (hx : Returning x)
    (hf : ∀ a, Returning (f a)) : Returning (x >>= f) := by
  intro s
  obtain ⟨a, s', hx⟩ := hx s
  obtain ⟨b, s'', hf⟩ := hf a s'
  refine ⟨b, s'', ?_⟩
  rw [bind_of_ok hx]
  exact hf

namespace ProviderMain

variable (sys : Sys σ) (basePath token : Bytes)

theorem returning_status (result : Int32) : Returning (status sys result) := fun s => ⟨_, s, rfl⟩

theorem returning_count (result : Int32) : Returning (count sys result) := fun s => ⟨_, s, rfl⟩

theorem returning_statusOf (x : StateM σ Int32) : Returning (statusOf sys x) :=
  (Returning.sysCall x).bind fun _ => returning_status sys _

theorem returning_opened (x : StateM σ Int32) (handle : UInt64) :
    Returning (opened sys x handle) :=
  (Returning.sysCall x).bind fun _ => (returning_status sys _).bind fun _ => .pure _

theorem returning_read (path : Bytes) {size : ℕ} (buffer : Vector UInt8 size)
    (offset handle : UInt64) : Returning (read sys basePath path buffer offset handle) := by
  unfold read
  split_ifs
  · refine (Returning.sysCall _).bind fun fd => ?_
    split_ifs
    · exact (Returning.sysCall _).bind fun _ => (Returning.sysCall _).bind fun _ =>
        (returning_count sys _).bind fun _ => .pure _
    · exact (returning_count sys _).bind fun _ => .pure _
  · exact (Returning.sysCall _).bind fun _ => (returning_count sys _).bind fun _ => .pure _

theorem returning_write (path buffer : Bytes) (offset handle : UInt64) :
    Returning (write sys basePath path buffer offset handle) := by
  unfold write
  split_ifs
  · refine (Returning.sysCall _).bind fun fd => ?_
    split_ifs
    · exact (Returning.sysCall _).bind fun _ => (Returning.sysCall _).bind fun _ =>
        returning_count sys _
    · exact returning_count sys _
  · exact (Returning.sysCall _).bind fun _ => returning_count sys _

theorem returning_readdir (path : Bytes) (entries : List Bytes) :
    Returning (readdir sys basePath path entries) := by
  refine (Returning.sysCall _).bind fun names => ?_
  cases names with
  | some names => exact .pure _
  | none => exact fun s => ⟨_, s, rfl⟩

/-- Apart from `symlink` and `get_credentials`, every operation returns. -/
theorem returns_others :
    { filesystem sys basePath token with
      symlink := fun _ _ => pure 0, getCredentials := pure [] }.Returns where
  access _ _ := returning_statusOf sys _
  getattr _ _ := (Returning.sysCall _).bind fun _ => (returning_status sys _).bind fun _ => .pure _
  readlink _ _ := (Returning.sysCall _).bind fun _ => (returning_status sys _).bind fun _ => .pure _
  symlink _ _ := .pure _
  link _ _ := returning_statusOf sys _
  rename _ _ _ := returning_statusOf sys _
  chmod _ _ := returning_statusOf sys _
  chown _ _ _ := returning_statusOf sys _
  truncate _ _ _ := returning_statusOf sys _
  fsync _ _ _ := returning_statusOf sys _
  utimens _ _ _ _ := returning_statusOf sys _
  «open» _ _ _ := returning_opened sys _ _
  mknod _ _ _ := returning_statusOf sys _
  create _ _ _ := returning_opened sys _ _
  release _ _ := returning_statusOf sys _
  unlink _ := returning_statusOf sys _
  read path _ buffer offset handle := returning_read sys basePath path buffer offset handle
  write path buffer offset handle := returning_write sys basePath path buffer offset handle
  mkdir _ _ := returning_statusOf sys _
  readdir path entries := returning_readdir sys basePath path entries
  rmdir _ := returning_statusOf sys _
  statfs _ _ := (Returning.sysCall _).bind fun _ => (returning_status sys _).bind fun _ => .pure _
  getCredentials := .pure _

/-- What `webfuse_provider` runs, with the memory its handlers do not write. -/
def provider (uninitialized : σ → Stat) (beyond : ℕ → UInt8) : Provider σ :=
  ⟨filesystem sys basePath token, uninitialized, beyond⟩

/-- Without a token the password is asked for, and read up to its first zero. -/
theorem getCredentials_of_some {token : Bytes} (htoken : token = []) {s : σ} {password : Bytes}
    (hpass : (sys.getpass s).1 = some password) :
    getCredentials sys token s = .ok (cStr password) (sys.getpass s).2 := by
  have hask : sysCall sys.getpass s = .ok (some password) (sys.getpass s).2 := by
    rw [sysCall, hpass]
  unfold getCredentials
  rw [if_neg (not_not.2 htoken), bind_of_ok hask]
  rfl

/-- Where it cannot be asked for, a null pointer is made a string. -/
theorem getCredentials_of_none {token : Bytes} (htoken : token = []) {s : σ}
    (hpass : (sys.getpass s).1 = none) :
    getCredentials sys token s =
      .error ⟨"basic_string: construction from null is not valid"⟩ (sys.getpass s).2 := by
  have hask : sysCall sys.getpass s = .ok none (sys.getpass s).2 := by
    rw [sysCall, hpass]
  unfold getCredentials
  rw [if_neg (not_not.2 htoken), bind_of_ok hask]
  rfl

/-- **The operations that throw** are `symlink` with an empty target, and
`get_credentials` when there is no token and `getpass` fails. -/
theorem invoke_iff (uninitialized : σ → Stat) (beyond : ℕ → UInt8) (call : FsCall) (s : σ) :
    (∃ s', (provider sys basePath token uninitialized beyond).invoke call s = .ok () s') ↔
      (∀ linkpath, call ≠ .symlink [] linkpath) ∧
        (call = .getCredentials → token = [] → (sys.getpass s).1 ≠ none) := by
  have hothers := Provider.invoke_ok ⟨_, uninitialized, beyond⟩
    (returns_others sys basePath token) call s
  cases call with
  | symlink target linkpath =>
      cases target with
      | nil =>
          refine iff_of_false ?_ fun h => h.1 linkpath rfl
          rintro ⟨s', ⟨⟩⟩
      | cons c target => exact iff_of_true ⟨_, rfl⟩ (by simp)
  | getCredentials =>
      change (∃ s', discard (getCredentials sys token) s = .ok () s') ↔ _
      by_cases htoken : token = []
      · cases hpass : (sys.getpass s).1 with
        | some password =>
            have hok := getCredentials_of_some sys htoken hpass
            exact iff_of_true ⟨_, discard_of_ok hok⟩ (by simp)
        | none =>
            rw [discard_of_error (getCredentials_of_none sys htoken hpass)]
            refine iff_of_false ?_ fun h => h.2 rfl htoken rfl
            rintro ⟨s', ⟨⟩⟩
      · have hgiven : getCredentials sys token = pure token := if_pos htoken
        rw [hgiven]
        exact iff_of_true ⟨s, rfl⟩ (by simp [htoken])
  | _ => exact iff_of_true hothers (by simp)

end ProviderMain

/-- A string is empty when its length field is zero. -/
theorem readStr_eq_nil_iff {data l : Bytes} {pos : ℕ} {m : ω} {st : Scan UInt8 ω}
    (h : readStr ⟨⟨data, pos⟩, m⟩ = .ok l st) :
    l = [] ↔ (data.drop pos).take 4 = [0, 0, 0, 0] := by
  obtain ⟨hword, hlen⟩ := readStr_ok h
  rw [← List.length_eq_zero_iff, hlen]
  constructor
  · intro hzero
    have hback := bigEndian_ofBigEndian ((data.drop pos).take 4)
    have hfour : ((data.drop pos).take 4).length = 4 := by
      rw [List.length_take, List.length_drop]
      omega
    rw [hzero, hfour] at hback
    exact hback.symm
  · intro hzero
    rw [hzero]
    rfl

/-- What a message that is decoded asks for, told from its bytes: the arguments are
those of the type byte, and a link target is empty when its length is zero. -/
theorem decodeRequest_call {message : Bytes} {req : Request} {t : Scan UInt8 Unit}
    (h : decodeRequest (ω := Unit) ⟨⟨message, 0⟩, ()⟩ = .ok req t) :
    (∀ call, req.call = some call → call.requestType = getRequestType (typeByte message)) ∧
    (getRequestType (typeByte message) = .getcreds → req.call = some .getCredentials) ∧
    (getRequestType (typeByte message) = .symlink → ∃ target linkpath,
      req.call = some (.symlink target linkpath) ∧
        (target = [] ↔ (message.drop 5).take 4 = [0, 0, 0, 0])) := by
  obtain ⟨byte, rest, hmessage, htype, hcall⟩ := decodeRequest_ok h
  have hbyte : typeByte message = byte := by
    rw [hmessage]
    rfl
  rw [hbyte]
  refine ⟨?_, ?_, ?_⟩
  · intro call hsome
    rw [hsome, htype] at hcall
    split_ifs at hcall with hunknown
    · cases hcall
    · exact Option.some.inj hcall
  all_goals
    intro hkind
    rw [decodeRequest_eq] at h
    obtain ⟨⟨id, byte'⟩, u, hheader, h⟩ := bind_eq_ok h
    obtain ⟨hcursor, rest', hmessage'⟩ := readHeader_ok hheader
    have hsame : byte' = byte := by
      have hlast := hbyte
      rw [hmessage'] at hlast
      exact hlast
    obtain ⟨call, v, hargs, h⟩ := bind_eq_ok h
    injection h with hreq
    subst hreq
    simp only [hsame, hkind] at hargs
  · injection hargs with hnone
    exact hnone.symm
  · obtain ⟨target, w, htarget, hargs⟩ := bind_eq_ok hargs
    obtain ⟨linkpath, w', -, hargs⟩ := bind_eq_ok hargs
    injection hargs with hsome
    refine ⟨target, linkpath, hsome.symm, ?_⟩
    obtain ⟨cursor, m⟩ := u
    simp only at hcursor
    subst hcursor
    exact readStr_eq_nil_iff htarget

/-- In `webfuse_provider` the operation of a complete message returns, unless it makes
a link to nothing or asks for credentials that are not to be had. -/
theorem operationReturns_iff (sys : Sys σ) (basePath token : Bytes) (uninitialized : σ → Stat)
    (beyond : ℕ → UInt8) {message : Bytes} (h : 5 ≤ message.length) (hcomplete : Complete message)
    (s : σ) :
    OperationReturns (ProviderMain.provider sys basePath token uninitialized beyond) message s ↔
      ¬ (typeByte message = RequestType.symlink.toByte ∧
          (message.drop 5).take 4 = [0, 0, 0, 0]) ∧
      ¬ (typeByte message = RequestType.getcreds.toByte ∧ token = [] ∧
          (sys.getpass s).1 = none) := by
  obtain ⟨req, t, hdecode⟩ := (decodeRequest_iff h).2 hcomplete
  obtain ⟨hkind, hcreds, hlink⟩ := decodeRequest_call hdecode
  rw [← getRequestType_eq_iff (by decide), ← getRequestType_eq_iff (by decide)]
  constructor
  · intro hreturns
    refine ⟨?_, ?_⟩
    · rintro ⟨htype, hzero⟩
      obtain ⟨target, linkpath, hcall, hempty⟩ := hlink htype
      have hok := hreturns req t hdecode _ hcall
      rw [ProviderMain.invoke_iff, hempty.2 hzero] at hok
      exact hok.1 linkpath rfl
    · rintro ⟨htype, htoken, hpass⟩
      have hok := hreturns req t hdecode _ (hcreds htype)
      rw [ProviderMain.invoke_iff] at hok
      exact hok.2 rfl htoken hpass
  · rintro ⟨hlinks, hasks⟩ req' t' hdecode' call hcall
    rw [hdecode] at hdecode'
    injection hdecode' with hreq
    subst hreq
    rw [ProviderMain.invoke_iff]
    refine ⟨?_, ?_⟩
    · rintro linkpath rfl
      have htype := (hkind _ hcall).symm
      obtain ⟨target, linkpath', hcall', hempty⟩ := hlink htype
      rw [hcall] at hcall'
      injection hcall' with heq
      injection heq with htarget
      exact hlinks ⟨htype, hempty.1 htarget.symm⟩
    · rintro rfl htoken hpass
      exact hasks ⟨(hkind _ hcall).symm, htoken, hpass⟩

/-- **When a request is answered.**  A provider that receives the last fragment of a
message of at least five bytes queues exactly one response, with the id of the
message, if and only if the payload has all the fields of its type and the
operation of the filesystem returns.  In `webfuse_provider` that is: the payload is
complete, it is no request for a link with an empty target, and no request for
credentials that are neither given nor to be had from a terminal. -/
theorem answered_iff (context : ClientContext σ) (wsi : ℕ) (fragment : Bytes)
    (h : 5 ≤ (context.currentMessage ++ fragment).length) :
    (∀ p : Provider σ, Answered p context wsi fragment ↔
      Complete (context.currentMessage ++ fragment) ∧
        OperationReturns p (context.currentMessage ++ fragment) context.state) ∧
    ∀ (sys : Sys σ) (basePath token : Bytes) (uninitialized : σ → Stat) (beyond : ℕ → UInt8),
      Answered (ProviderMain.provider sys basePath token uninitialized beyond) context wsi
          fragment ↔
        Complete (context.currentMessage ++ fragment) ∧
          ¬ (typeByte (context.currentMessage ++ fragment) = RequestType.symlink.toByte ∧
              ((context.currentMessage ++ fragment).drop 5).take 4 = [0, 0, 0, 0]) ∧
          ¬ (typeByte (context.currentMessage ++ fragment) = RequestType.getcreds.toByte ∧
              token = [] ∧ (sys.getpass context.state).1 = none) := by
  refine ⟨fun p => answered_iff_complete p context wsi fragment h, ?_⟩
  intro sys basePath token uninitialized beyond
  rw [answered_iff_complete _ _ _ _ h]
  exact and_congr_right fun hcomplete =>
    operationReturns_iff sys basePath token uninitialized beyond h hcomplete context.state

/-- A request of a type that nobody knows is answered. -/
theorem answered_iff_unknown :
    5 ≤ ([] ++ [0, 0, 0, 1, 0x7f] : Bytes).length ∧
      Answered Provider.empty ⟨[], [], ()⟩ 1 [0, 0, 0, 1, 0x7f] := by
  refine ⟨by decide, ((answered_iff ⟨[], [], ()⟩ 1 [0, 0, 0, 1, 0x7f] (by decide)).1 _).2
    ⟨by decide, ?_⟩⟩
  rintro req t h call hcall
  injection h with hreq
  subst hreq
  cases hcall

/-- A request for `access` that ends behind its header is not answered, and neither is
a request to `webfuse_provider` to make a link `/a` with an empty target, whatever the
system does. -/
theorem request_unanswered :
    ¬ Answered Provider.empty ⟨[], [], ()⟩ 1 [0, 0, 0, 1, 0x01] ∧
    ∀ (σ : Type) (sys : Sys σ) (s : σ) (basePath token : Bytes) (uninitialized : σ → Stat)
      (beyond : ℕ → UInt8),
      ¬ Answered (ProviderMain.provider sys basePath token uninitialized beyond) ⟨[], [], s⟩ 1
        [0, 0, 0, 1, 0x04, 0, 0, 0, 0, 0, 0, 0, 2, 0x2f, 0x61] := by
  constructor
  · rw [answered_iff_complete _ _ _ _ (by decide)]
    rintro ⟨hcomplete, -⟩
    exact absurd hcomplete (by decide)
  · intro σ sys s basePath token uninitialized beyond
    rw [answered_iff_complete _ _ _ _ (by simp)]
    rintro ⟨hcomplete, hreturns⟩
    have h := (operationReturns_iff sys basePath token uninitialized beyond (by simp)
      hcomplete s).1 hreturns
    exact h.1 ⟨rfl, rfl⟩

end Webfuse
