/-
# One client at a time

When connections do not overlap, the flag is reset by every handshake and speaks
of the one client there is (`ExclusiveInvariant`).  What it does not speak of is
the queue and the waiting promises: `on_closed` leaves both, and only `poll`
drops them, when it comes before the next client and finds something queued.
What is left of one session is therefore there in the next one, also when its
client is not authenticated.

`left_behind` is the induction both results share: a property of what is left
that holds whenever a client is connected without being authenticated, and that
no step without authentication can break, holds until the client is
authenticated.  `answered_only_to_authenticated` and
`written_only_to_authenticated` are its two cases, for the promises and for the
queue.
-/

import Webfuse.Server.History

namespace Webfuse

open Basis History

/-- Connections do not overlap: a handshake begins when there is no client, and
the client that is established and sends messages is the one that began. -/
def NoOverlap (h : List ServerEntry) (x : ServerEntry) : Prop :=
  match x.event with
  | .filterConnection .. => client h = none
  | .onEstablished v => client h = some (v, false)
  | .onReceive v _ _ _ => client h = some (v, true)
  | _ => True

/-- The server knows its one client. -/
structure ExclusiveInvariant (h : List ServerEntry) (s : ServerHandler) : Prop where
  authenticator : s.authenticator ≠ []
  connection : ∀ w, s.connection = some w ↔ client h = some (w, true)
  flag : ∀ w b, client h = some (w, b) → s.isAuthenticated = true → authenticated h w = true

section Step

variable {h : List ServerEntry} {s s' : ServerHandler} {e : ServerEvent}
  {effects : List ServerEffect}

/-- A token that is accepted lets its client through. -/
theorem ServerHandler.Outcome.succeeds_of_accepts {v : Wsi} {headers : Headers} {verdict : Bool}
    (ho : s.Outcome (.filterConnection v headers verdict) s' effects)
    (ha : accepts effects = true) : succeeds effects = true := by
  cases ho <;> simp_all [accepts, succeeds]

/-- There is no connection while the one client waits for its `on_established`. -/
theorem ExclusiveInvariant.not_connected (hI : ExclusiveInvariant h s) {v : Wsi}
    (hclient : client h = some (v, false)) : s.connection = none := by
  rw [Option.eq_none_iff_forall_ne_some]
  intro c hc
  rw [hI.connection c, hclient] at hc
  simp at hc

theorem ExclusiveInvariant.step_connection (hI : ExclusiveInvariant h s)
    (ho : s.Outcome e s' effects) (hC : NoOverlap h ⟨s, e, effects⟩) (w : Wsi) :
    s'.connection = some w ↔ client (h ++ [⟨s, e, effects⟩]) = some (w, true) := by
  have hw := hI.connection w
  rw [ho.connection_eq, client_append]
  cases e with
  | filterConnection v headers verdict =>
      have hnone : client h = none := hC
      simp only [clientStep]
      rw [hw, hnone]
      split_ifs <;> simp
  | onEstablished v => simp [clientStep, hI.not_connected hC]
  | onClosed v =>
      simp only [clientStep]
      by_cases hv : s.connection = some v
      · have hclient := (hI.connection v).1 hv
        simp [hv, hclient]
      · rw [if_neg hv, hw]
        split_ifs with hfst
        · constructor
          · intro hclient
            obtain rfl : w = v := by simpa [hclient] using hfst
            exact absurd (hw.2 hclient) hv
          · nofun
        · exact Iff.rfl
  | onReceive v fragment isFinal verdict => exact hw
  | onWritable => exact hw
  | poll => exact hw
  | perform writer => exact hw

theorem ExclusiveInvariant.step_flag (hI : ExclusiveInvariant h s)
    (ho : s.Outcome e s' effects) (hC : NoOverlap h ⟨s, e, effects⟩) (w : Wsi) (b : Bool)
    (hclient : client (h ++ [⟨s, e, effects⟩]) = some (w, b))
    (hflag : s'.isAuthenticated = true) : authenticated (h ++ [⟨s, e, effects⟩]) w = true := by
  rw [ho.isAuthenticated_eq hI.authenticator] at hflag
  rw [client_append] at hclient
  rw [authenticated_append]
  cases e with
  | filterConnection v headers verdict =>
      have hacc : accepts effects = true := hflag
      obtain ⟨rfl, -⟩ : v = w ∧ false = b := by
        simpa [clientStep, ho.succeeds_of_accepts hacc] using hclient
      simpa [authenticatedStep] using hacc
  | onEstablished v =>
      obtain ⟨rfl, -⟩ : v = w ∧ true = b := by simpa [clientStep] using hclient
      exact hI.flag v false hC hflag
  | onReceive v fragment isFinal verdict =>
      have hv : client h = some (v, true) := hC
      have hvw : client h = some (w, b) := hclient
      obtain ⟨rfl, -⟩ : v = w ∧ true = b := by simpa [hv] using hvw
      simp only [authenticatedStep, if_true, Bool.or_eq_true] at hflag ⊢
      exact hflag.imp_left (hI.flag v true hv)
  | onClosed v =>
      simp only [clientStep] at hclient hflag
      split_ifs at hclient with hfst
      have hne : v ≠ w := by
        rintro rfl
        exact hfst (by rw [hclient]; rfl)
      split_ifs at hflag with hv
      simpa [authenticatedStep, hne] using hI.flag w b hclient hflag
  | onWritable => exact hI.flag w b hclient hflag
  | poll => exact hI.flag w b hclient hflag
  | perform writer => exact hI.flag w b hclient hflag

theorem ExclusiveInvariant.step (hI : ExclusiveInvariant h s) (ho : s.Outcome e s' effects)
    (hC : NoOverlap h ⟨s, e, effects⟩) : ExclusiveInvariant (h ++ [⟨s, e, effects⟩]) s' where
  authenticator := ho.authenticator_eq ▸ hI.authenticator
  connection := hI.step_connection ho hC
  flag := hI.step_flag ho hC

/-- A client that is connected without being authenticated finds `Q`. -/
def Finds (Q : ServerHandler → Prop) (x : ServerEntry) : Prop :=
  match x.event with
  | .onEstablished _ => x.pre.connection = none → x.pre.isAuthenticated = false → Q x.pre
  | _ => True

/-- The step of `left_behind`. -/
theorem finds_step {Q : ServerHandler → Prop} (hI : ExclusiveInvariant h s)
    (hP : ∀ w, client h = some (w, true) → s.isAuthenticated = false → Q s)
    (hQ : s.isAuthenticated = false → s.authenticator ≠ [] → Q s → Q s')
    (ho : s.Outcome e s' effects) (hC : NoOverlap h ⟨s, e, effects⟩)
    (hF : Finds Q ⟨s, e, effects⟩) (w : Wsi)
    (hclient : client (h ++ [⟨s, e, effects⟩]) = some (w, true))
    (hflag : s'.isAuthenticated = false) : Q s' := by
  rw [ho.isAuthenticated_eq hI.authenticator] at hflag
  rw [client_append] at hclient
  cases e with
  | filterConnection v headers verdict =>
      simp only [clientStep] at hclient
      split_ifs at hclient
      simp at hclient
  | onEstablished v => exact hQ hflag hI.authenticator (hF (hI.not_connected hC) hflag)
  | onReceive v fragment isFinal verdict =>
      have hnot : s.isAuthenticated = false := (Bool.or_eq_false_iff.1 hflag).1
      exact hQ hnot hI.authenticator (hP w hclient hnot)
  | onClosed v =>
      simp only [clientStep] at hclient hflag
      split_ifs at hclient with hfst
      have hv : s.connection ≠ some v := by
        intro hv
        rw [(hI.connection v).1 hv] at hfst
        exact hfst rfl
      rw [if_neg hv] at hflag
      exact hQ hflag hI.authenticator (hP w hclient hflag)
  | onWritable => exact hQ hflag hI.authenticator (hP w hclient hflag)
  | poll => exact hQ hflag hI.authenticator (hP w hclient hflag)
  | perform writer => exact hQ hflag hI.authenticator (hP w hclient hflag)

end Step

/-- **What is left behind.**  When every client that is connected without being
authenticated finds `Q`, and no step without authentication breaks `Q`, then `Q`
holds while a client is connected that is not authenticated. -/
theorem left_behind {Q : ServerHandler → Prop}
    (hQ : ∀ s e s' effects, s.Outcome e s' effects → s.isAuthenticated = false →
      s.authenticator ≠ [] → Q s → Q s')
    {authApp authHdr : Bytes} (ha : authApp ≠ []) {evs : List ServerEvent}
    (hC : (server authApp authHdr).Admits (fun h x => NoOverlap h x ∧ Finds Q x) evs) :
    ExclusiveInvariant ((server authApp authHdr).trace evs) ((server authApp authHdr).state evs) ∧
      ∀ w, client ((server authApp authHdr).trace evs) = some (w, true) →
        ((server authApp authHdr).state evs).isAuthenticated = false →
          Q ((server authApp authHdr).state evs) := by
  have hinit : ExclusiveInvariant [] (.make authApp authHdr) := by
    refine ⟨ha, fun w => ?_, nofun⟩
    constructor <;> nofun
  refine server_invariant (P := fun h s => ExclusiveInvariant h s ∧
    ∀ w, client h = some (w, true) → s.isAuthenticated = false → Q s) ⟨hinit, nofun⟩ ?_ hC
  rintro h s e s' effects ⟨hI, hP⟩ ho ⟨hC, hF⟩
  exact ⟨hI.step ho hC, finds_step hI hP (hQ s e s' effects ho) ho hC hF⟩

/-! ### Promises -/

/-- No promise waits for an answer. -/
def NothingPending (s : ServerHandler) : Prop := s.pendingResponses = ∅

/-- Without authentication no promise is registered. -/
theorem nothingPending_step (s : ServerHandler) (e : ServerEvent) (s' : ServerHandler)
    (effects : List ServerEffect) (ho : s.Outcome e s' effects) (hflag : s.isAuthenticated = false)
    (_ : s.authenticator ≠ []) (hQ : NothingPending s) : NothingPending s' := by
  unfold NothingPending at hQ ⊢
  cases ho with
  | receiveAnswer id promise type rest hmessage htype hlookup =>
      rw [hQ, AList.lookup_empty] at hlookup
      cases hlookup
  | pollClear => rfl
  | performRegister h hid =>
      rw [hflag] at h
      cases h
  | _ => exact hQ

/-- **No promise is completed by a client that is not authenticated**, in every
run without overlap in which a client that is connected without being
authenticated finds no promise waiting. -/
theorem answered_only_to_authenticated {authApp authHdr : Bytes} (ha : authApp ≠ [])
    {evs : List ServerEvent} {w : Wsi} {fragment : Bytes} {isFinal verdict : Bool}
    (hC : (server authApp authHdr).Admits (fun h x => NoOverlap h x ∧ Finds NothingPending x)
      (evs ++ [.onReceive w fragment isFinal verdict]))
    {promise : Promise} {reader : MessageReader}
    (hset : .setValue promise reader ∈
      (((server authApp authHdr).state evs).onReceive w fragment isFinal verdict).2) :
    authenticated ((server authApp authHdr).trace evs) w = true := by
  obtain ⟨hevs, hlast, -⟩ := (Machine.admits_append_singleton _ _).1 hC
  obtain ⟨hI, hP⟩ := left_behind nothingPending_step ha hevs
  have hclient : client ((server authApp authHdr).trace evs) = some (w, true) := hlast
  refine hI.flag w true hclient ?_
  by_contra hflag
  have hempty := hP w hclient (by simpa using hflag)
  unfold NothingPending at hempty
  have ho := ((server authApp authHdr).state evs).onReceive_outcome w fragment isFinal verdict
  obtain ⟨_, _, _, id, -, -, -, -, hlookup⟩ := ho.of_setValue hset
  rw [hempty, AList.lookup_empty] at hlookup
  cases hlookup

/-- A client with an accepted token, and a request for it. -/
def tokenRun : List ServerEvent :=
  [.filterConnection 1 .token true, .onEstablished 1, .perform (.ofRequest .unlink)]

/-- The client of `tokenRun` answers the request. -/
theorem answered_only_to_authenticated_token :
    authenticated ((server [1] [0x68]).trace tokenRun) 1 = true := by
  have hC : (server [1] [0x68]).Admits (fun h x => NoOverlap h x ∧ Finds NothingPending x)
      (tokenRun ++ [.onReceive 1 [0, 0, 0, 1, 0x8f] true false]) :=
    ⟨⟨rfl, trivial⟩, ⟨rfl, fun _ hflag => absurd hflag (by decide)⟩, ⟨trivial, trivial⟩,
      ⟨rfl, trivial⟩, trivial⟩
  have hset : .setValue 0 ⟨[0, 0, 0, 1, 0x8f], 5⟩ ∈ (((server [1] [0x68]).state
      tokenRun).onReceive 1 [0, 0, 0, 1, 0x8f] true false).2 := by decide
  exact answered_only_to_authenticated (by decide) hC hset

/-- The client of `tokenRun` is closed before it answers, and a client comes that
sends no credentials.  `poll` finds nothing queued. -/
def unansweredRun : List ServerEvent :=
  tokenRun ++
    [.onWritable, .onClosed 1, .poll, .filterConnection 2 .empty false, .onEstablished 2]

/-- The second client completes the promise of the first. -/
theorem answered_by_next_client :
    (server [1] [0x68]).Admits NoOverlap
        (unansweredRun ++ [.onReceive 2 [0, 0, 0, 1, 0x8f] true false]) ∧
      .setValue 0 ⟨[0, 0, 0, 1, 0x8f], 5⟩ ∈ (((server [1] [0x68]).state
        unansweredRun).onReceive 2 [0, 0, 0, 1, 0x8f] true false).2 ∧
      authenticated ((server [1] [0x68]).trace unansweredRun) 2 = false := by
  refine ⟨⟨rfl, rfl, trivial, trivial, trivial, trivial, rfl, rfl, rfl, trivial⟩, ?_, rfl⟩
  decide

/-! ### Queue -/

/-- A request for credentials, by its type byte. -/
def IsGetcreds (data : Bytes) : Prop := data[4]? = some RequestType.getcreds.toByte

instance (data : Bytes) : Decidable (IsGetcreds data) := by
  unfold IsGetcreds
  infer_instance

/-- Nothing is queued but requests for credentials. -/
def OnlyGetcreds (s : ServerHandler) : Prop := ∀ writer ∈ s.requests, IsGetcreds writer.data

/-- Without authentication nothing else is queued. -/
theorem onlyGetcreds_step (s : ServerHandler) (e : ServerEvent) (s' : ServerHandler)
    (effects : List ServerEffect) (ho : s.Outcome e s' effects) (hflag : s.isAuthenticated = false)
    (_ : s.authenticator ≠ []) (hQ : OnlyGetcreds s) : OnlyGetcreds s' := by
  cases ho with
  | establishAsking hc hf hne =>
      intro writer hw
      rcases List.mem_append.1 hw with hw | hw
      · exact hQ writer hw
      · obtain rfl : writer = ServerHandler.getcreds := by simpa using hw
        decide
  | writableWrite writer rest hr hs =>
      intro writer' hw
      exact hQ writer' (hr ▸ List.mem_cons_of_mem writer hw)
  | pollClear => nofun
  | performCollision h hid =>
      rw [hflag] at h
      cases h
  | performRegister h hid =>
      rw [hflag] at h
      cases h
  | _ => exact hQ

/-- **Nothing but a request for credentials is written to a client that is not
authenticated**, in every run without overlap in which a client that is
connected without being authenticated finds nothing else queued. -/
theorem written_only_to_authenticated {authApp authHdr : Bytes} (ha : authApp ≠ [])
    {evs : List ServerEvent}
    (hC : (server authApp authHdr).Admits (fun h x => NoOverlap h x ∧ Finds OnlyGetcreds x)
      (evs ++ [.onWritable]))
    {w : Wsi} {data : Bytes} (hdata : ¬ IsGetcreds data)
    (hwrite : .write (some w) data ∈ ((server authApp authHdr).state evs).onWritable.2) :
    authenticated ((server authApp authHdr).trace evs) w = true := by
  obtain ⟨hevs, -⟩ := (Machine.admits_append_singleton _ _).1 hC
  obtain ⟨hI, hP⟩ := left_behind onlyGetcreds_step ha hevs
  have ho := ((server authApp authHdr).state evs).onWritable_outcome
  obtain ⟨hw, writer, hqueued, rfl⟩ := ho.of_write hwrite
  have hclient := (hI.connection w).1 hw
  refine hI.flag w true hclient ?_
  by_contra hflag
  exact hdata (hP w hclient (by simpa using hflag) writer hqueued)

/-- The request of `tokenRun` is written to its client. -/
theorem written_only_to_authenticated_token :
    authenticated ((server [1] [0x68]).trace tokenRun) 1 = true := by
  have hC : (server [1] [0x68]).Admits (fun h x => NoOverlap h x ∧ Finds OnlyGetcreds x)
      (tokenRun ++ [.onWritable]) :=
    ⟨⟨rfl, trivial⟩, ⟨rfl, fun _ hflag => absurd hflag (by decide)⟩, ⟨trivial, trivial⟩,
      ⟨trivial, trivial⟩, trivial⟩
  have hwrite : .write (some 1) [0, 0, 0, 1, 0x0f] ∈
      ((server [1] [0x68]).state tokenRun).onWritable.2 := by decide
  exact written_only_to_authenticated (by decide) hC (by decide) hwrite

/-- The client of `tokenRun` is closed before its request is written, and a client
comes that sends no credentials. -/
def unwrittenRun : List ServerEvent :=
  tokenRun ++ [.onClosed 1, .filterConnection 2 .empty false, .onEstablished 2]

/-- The second client receives the request for the first. -/
theorem written_to_next_client :
    (server [1] [0x68]).Admits NoOverlap (unwrittenRun ++ [.onWritable]) ∧
      .write (some 2) [0, 0, 0, 1, 0x0f] ∈
        ((server [1] [0x68]).state unwrittenRun).onWritable.2 ∧
      ¬ IsGetcreds [0, 0, 0, 1, 0x0f] ∧
      authenticated ((server [1] [0x68]).trace unwrittenRun) 2 = false := by
  refine ⟨⟨rfl, rfl, trivial, trivial, rfl, rfl, trivial, trivial⟩, ?_, ?_, rfl⟩
  · decide
  · decide

end Webfuse
