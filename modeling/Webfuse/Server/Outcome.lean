/-
# The outcomes of a step

What a step of the server can do, once and for all: `Outcome s e s' effects`
lists the ways in which a callback ends, each with what was true before it, the
state after it and its effects, and `step_outcome` says that every step ends in
one of them.  The invariants of the server are proved by going through the
outcomes and never open a callback again; where only one effect matters,
`Outcome.of_write` and its siblings say which step has it.
-/

import Webfuse.Message.Codec
import Webfuse.Server.Handler

namespace Webfuse

open Basis MessageWriter

namespace ServerHandler

/-- The request for credentials, which is the first of a session. -/
def getcreds : MessageWriter := (ofRequest .getcreds).setId 1

/-- The ways in which a step ends. -/
inductive Outcome (s : ServerHandler) : ServerEvent → ServerHandler → List ServerEffect → Prop
  /-- Authentication is disabled. -/
  | filterDisabled {wsi headers verdict} (h : s.authenticator = []) :
      Outcome s (.filterConnection wsi headers verdict) { s with isAuthenticated := true }
        [.returned 0]
  /-- No token is looked for, or none is sent. -/
  | filterWithoutToken {wsi headers verdict} (h : s.authenticator ≠ []) :
      Outcome s (.filterConnection wsi headers verdict) { s with isAuthenticated := false }
        [.returned 0]
  | filterWithToken {wsi headers verdict} (h : s.authenticator ≠ []) (token : Bytes) :
      Outcome s (.filterConnection wsi headers verdict) { s with isAuthenticated := verdict }
        [.authenticate token verdict, .returned (if verdict then 0 else -1)]
  | establishRefused {wsi} (current : Wsi) (h : s.connection = some current) :
      Outcome s (.onEstablished wsi) s [.returned (-1)]
  | establish {wsi} (h : s.connection = none)
      (ha : s.isAuthenticated = true ∨ s.authenticator = []) :
      Outcome s (.onEstablished wsi) { s with connection := some wsi, id := 0 } [.returned 0]
  | establishAsking {wsi} (h : s.connection = none) (ha : s.isAuthenticated = false)
      (hne : s.authenticator ≠ []) :
      Outcome s (.onEstablished wsi)
        { s with connection := some wsi, id := 1, requests := s.requests ++ [getcreds] }
        [.queued none getcreds, .callbackOnWritable (some wsi), .returned 0]
  | receivePart {wsi fragment verdict} :
      Outcome s (.onReceive wsi fragment false verdict)
        { s with currentMessage := s.currentMessage ++ fragment } []
  /-- The message is malformed, or nothing waits for it. -/
  | receiveIgnored {wsi fragment verdict} :
      Outcome s (.onReceive wsi fragment true verdict) { s with currentMessage := [] }
        [.dispatched (s.currentMessage ++ fragment)]
  | receiveAccepted {wsi fragment} (credentials : Bytes) :
      Outcome s (.onReceive wsi fragment true true)
        { s with currentMessage := [], isAuthenticated := true }
        [.dispatched (s.currentMessage ++ fragment), .authenticate credentials true]
  | receiveRejected {wsi fragment} (credentials : Bytes) :
      Outcome s (.onReceive wsi fragment true false)
        { s with currentMessage := [], shutdownRequested := true }
        [.dispatched (s.currentMessage ++ fragment), .authenticate credentials false,
          .callbackOnWritable (some wsi)]
  | receiveAnswer {wsi fragment verdict} (id : UInt32) (promise : Promise) (type : UInt8)
      (rest : Bytes) (hmessage : s.currentMessage ++ fragment = bytesOfU32 id ++ type :: rest)
      (htype : type ≠ ResponseType.getcreds.toByte)
      (hlookup : s.pendingResponses.lookup id = some promise) :
      Outcome s (.onReceive wsi fragment true verdict)
        { s with currentMessage := [], pendingResponses := s.pendingResponses.erase id }
        [.dispatched (s.currentMessage ++ fragment),
          .setValue promise ⟨s.currentMessage ++ fragment, 5⟩]
  /-- The server shuts the connection down, or nothing is queued. -/
  | writableIdle (code : Int32) (h : s.shutdownRequested = true ∨ s.requests = []) :
      Outcome s .onWritable s [.returned code]
  | writableWrite (writer : MessageWriter) (rest : List MessageWriter)
      (h : s.requests = writer :: rest) (hs : s.shutdownRequested = false) :
      Outcome s .onWritable { s with requests := rest }
        (.write s.connection writer.data ::
          if rest = [] then [.returned 0] else [.callbackOnWritable s.connection, .returned 0])
  | closedOther {wsi} (h : s.connection ≠ some wsi) : Outcome s (.onClosed wsi) s []
  | closed {wsi} (h : s.connection = some wsi) :
      Outcome s (.onClosed wsi)
        { s with connection := none, isAuthenticated := false, shutdownRequested := false } []
  | pollIdle (h : s.requests = []) : Outcome s .poll s []
  | pollConnected (current : Wsi) (hr : s.requests ≠ []) (h : s.connection = some current) :
      Outcome s .poll s [.callbackOnWritable (some current)]
  | pollClear (hr : s.requests ≠ []) (h : s.connection = none) :
      Outcome s .poll { s with requests := [], pendingResponses := ∅ }
        (s.pendingResponses.entries.map fun entry => .broken entry.2)
  | performRefused {writer} (h : s.isAuthenticated = false) :
      Outcome s (.perform writer) { s with promises := s.promises + 1 }
        [.setException s.promises ⟨"unauthenticated"⟩]
  | performCollision {writer} (h : s.isAuthenticated = true)
      (hid : s.nextId.id ∈ s.pendingResponses) :
      Outcome s (.perform writer)
        { s with promises := s.promises + 1, id := s.nextId.id,
                 requests := s.requests ++ [writer.setId s.nextId.id] }
        [.queued (some s.promises) (writer.setId s.nextId.id), .broken s.promises]
  | performRegister {writer} (h : s.isAuthenticated = true)
      (hid : s.nextId.id ∉ s.pendingResponses) :
      Outcome s (.perform writer)
        { s with promises := s.promises + 1, id := s.nextId.id,
                 requests := s.requests ++ [writer.setId s.nextId.id],
                 pendingResponses := s.pendingResponses.insert s.nextId.id s.promises }
        [.queued (some s.promises) (writer.setId s.nextId.id), .registered s.nextId.id s.promises]

variable (s : ServerHandler)

theorem filterConnection_outcome (wsi : Wsi) (headers : Headers) (verdict : Bool) :
    Outcome s (.filterConnection wsi headers verdict) (s.filterConnection headers verdict).1
      (s.filterConnection headers verdict).2 := by
  unfold filterConnection authenticateViaHeader
  by_cases h₁ : s.authenticator = []
  · rw [if_pos h₁]
    exact .filterDisabled h₁
  rw [if_neg h₁]
  by_cases h₂ : s.authHeader = []
  · rw [if_pos h₂]
    exact .filterWithoutToken h₁
  rw [if_neg h₂]
  by_cases h₃ : s.getAuthToken headers = []
  · rw [if_pos h₃]
    exact .filterWithoutToken h₁
  · rw [if_neg h₃]
    exact .filterWithToken h₁ _

theorem onEstablished_outcome (wsi : Wsi) :
    Outcome s (.onEstablished wsi) (s.onEstablished wsi).1 (s.onEstablished wsi).2 := by
  unfold onEstablished
  cases hc : s.connection with
  | some current => exact .establishRefused current hc
  | none =>
      dsimp only
      split_ifs with h
      · simp only [Bool.and_eq_true, Bool.not_eq_true', decide_eq_true_eq] at h
        exact .establishAsking hc h.1 h.2
      · refine .establish hc ?_
        by_contra hn
        simp only [not_or, Bool.not_eq_true] at hn
        exact h (by simp [hn.1, hn.2])

theorem onReceive_outcome (wsi : Wsi) (fragment : Bytes) (isFinal verdict : Bool) :
    Outcome s (.onReceive wsi fragment isFinal verdict)
      (s.onReceive wsi fragment isFinal verdict).1
      (s.onReceive wsi fragment isFinal verdict).2 := by
  cases isFinal with
  | false => exact .receivePart
  | true =>
      unfold onReceive dispatch
      simp only [if_true]
      split
      · exact .receiveIgnored
      · rename_i id type st hread
        obtain ⟨hcursor, rest, hmessage⟩ := readHeader_ok hread
        split_ifs with htype
        · unfold finishAuthentication
          split
          · rename_i credentials _ _
            cases verdict with
            | true => exact .receiveAccepted credentials
            | false => exact .receiveRejected credentials
          · exact .receiveIgnored
        · split
          · rename_i promise hlookup
            rw [hcursor]
            exact .receiveAnswer id promise type rest hmessage htype hlookup
          · exact .receiveIgnored

theorem onWritable_outcome : Outcome s .onWritable s.onWritable.1 s.onWritable.2 := by
  unfold onWritable
  split_ifs with h
  · exact .writableIdle _ (.inl h)
  · have hs : s.shutdownRequested = false := by simpa using h
    split
    · rename_i hr
      exact .writableIdle _ (.inr hr)
    · rename_i writer hr
      exact .writableWrite writer [] hr hs
    · rename_i writer rest hne hr
      have hwrite := Outcome.writableWrite writer rest hr hs
      rwa [if_neg hne] at hwrite

theorem onClosed_outcome (wsi : Wsi) :
    Outcome s (.onClosed wsi) (s.onClosed wsi).1 (s.onClosed wsi).2 := by
  unfold onClosed
  split_ifs with h
  · exact .closed h
  · exact .closedOther h

theorem poll_outcome : Outcome s .poll s.poll.1 s.poll.2 := by
  unfold poll
  split_ifs with h
  · exact .pollIdle h
  · split
    · rename_i current hc
      exact .pollConnected current h hc
    · rename_i hc
      exact .pollClear h hc

theorem perform_outcome (writer : MessageWriter) :
    Outcome s (.perform writer) (s.perform writer).1 (s.perform writer).2 := by
  unfold perform
  dsimp only
  split_ifs with h hid
  · exact .performCollision h hid
  · exact .performRegister h hid
  · exact .performRefused (by simpa using h)

/-- **Every step ends in one of the outcomes.** -/
theorem step_outcome (e : ServerEvent) : Outcome s e (s.step e).1 (s.step e).2 := by
  cases e with
  | filterConnection wsi headers verdict => exact s.filterConnection_outcome wsi headers verdict
  | onEstablished wsi => exact s.onEstablished_outcome wsi
  | onReceive wsi fragment isFinal verdict => exact s.onReceive_outcome wsi fragment isFinal verdict
  | onWritable => exact s.onWritable_outcome
  | onClosed wsi => exact s.onClosed_outcome wsi
  | poll => exact s.poll_outcome
  | perform writer => exact s.perform_outcome writer

/-! ### Effects -/

namespace Outcome

variable {s} {s' : ServerHandler} {e : ServerEvent} {effects : List ServerEffect}

/-- A message is dispatched with its last fragment. -/
theorem of_dispatched (ho : s.Outcome e s' effects) {message : Bytes}
    (hm : .dispatched message ∈ effects) :
    ∃ w fragment verdict, e = .onReceive w fragment true verdict ∧
      message = s.currentMessage ++ fragment := by
  cases ho with
  | writableWrite writer rest hr hs => split_ifs at hm <;> simp at hm
  | receiveIgnored => exact ⟨_, _, _, rfl, by simpa using hm⟩
  | receiveAccepted credentials => exact ⟨_, _, _, rfl, by simpa using hm⟩
  | receiveRejected credentials => exact ⟨_, _, _, rfl, by simpa using hm⟩
  | receiveAnswer id promise type rest => exact ⟨_, _, _, rfl, by simpa using hm⟩
  | _ => simp at hm

/-- What is written is the head of the queue, to the connection. -/
theorem of_write (ho : s.Outcome e s' effects) {wsi : Option Wsi} {data : Bytes}
    (hw : .write wsi data ∈ effects) :
    s.connection = wsi ∧ ∃ writer ∈ s.requests, writer.data = data := by
  cases ho with
  | writableWrite writer rest hr hs =>
      obtain ⟨rfl, rfl⟩ : wsi = s.connection ∧ data = writer.data := by
        rcases List.mem_cons.1 hw with hw | hw
        · injection hw with hwsi hdata
          exact ⟨hwsi, hdata⟩
        · split_ifs at hw <;> simp at hw
      exact ⟨rfl, writer, hr ▸ List.mem_cons_self .., rfl⟩
  | _ => simp at hw

/-- A promise is completed by a whole message that begins with the id it waits
for. -/
theorem of_setValue (ho : s.Outcome e s' effects) {p : Promise} {reader : MessageReader}
    (hp : .setValue p reader ∈ effects) :
    ∃ w fragment verdict id, e = .onReceive w fragment true verdict ∧
      reader = ⟨s.currentMessage ++ fragment, 5⟩ ∧ .dispatched reader.data ∈ effects ∧
      reader.data.take 4 = bytesOfU32 id ∧ s.pendingResponses.lookup id = some p := by
  cases ho with
  | receiveAnswer id promise type rest hmessage htype hlookup =>
      rename_i w fragment verdict
      obtain ⟨rfl, rfl⟩ : p = promise ∧ reader = ⟨s.currentMessage ++ fragment, 5⟩ := by
        simpa using hp
      refine ⟨w, fragment, verdict, id, rfl, rfl, List.mem_cons_self .., ?_, hlookup⟩
      simp only [hmessage]
      exact List.take_left' rfl
  | writableWrite writer rest hr hs => split_ifs at hp <;> simp at hp
  | _ => simp at hp

end Outcome

end ServerHandler

/-- **Induction over the runs of the server**, by the outcomes of its steps. -/
theorem server_invariant {authApp authHdr : Bytes} {C : List ServerEntry → ServerEntry → Prop}
    {P : List ServerEntry → ServerHandler → Prop} (h₀ : P [] (.make authApp authHdr))
    (hstep : ∀ h s e s' effects, P h s → s.Outcome e s' effects → C h ⟨s, e, effects⟩ →
      P (h ++ [⟨s, e, effects⟩]) s')
    {evs : List ServerEvent} (hC : (server authApp authHdr).Admits C evs) :
    P ((server authApp authHdr).trace evs) ((server authApp authHdr).state evs) :=
  Machine.invariant h₀ (fun h s e hP hC => hstep h s e _ _ hP (s.step_outcome e) hC) evs hC

end Webfuse
