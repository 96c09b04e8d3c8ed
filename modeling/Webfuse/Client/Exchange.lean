/-
# The provider's side of the exchange

What the provider should have written is computed from the events alone: the
messages of the current connection are the concatenations of its fragments, and
the responses are what the handler returns for them, in the state it has reached
(`Session`).  `provider_exchange` compares the callback with that: what is
written on a connection is a prefix of its responses, and while a response
waits, a writable callback is on its way.
-/

import Webfuse.Client.Callback

namespace Webfuse

open Basis

variable {σ : Type}

namespace Client

/-! ### What should happen -/

/-- The current connection, or the last one: the fragments of the message that is
being received, the responses to the messages before it, each with the `wsi` the
message came on, and the state of the handler. -/
structure Session (σ : Type) where
  fragments : List Bytes
  responses : List (ℕ × Bytes)
  state : σ

/-- An event seen by the session. -/
def Session.step (handler : Bytes → EStateM Exn σ MessageWriter) (session : Session σ) :
    ClientEvent → Session σ
  | .established _ => ⟨[], [], session.state⟩
  | .receive wsi fragment isFinal =>
      if isFinal then
        match handler (session.fragments ++ [fragment]).flatten session.state with
        | .ok writer state => ⟨[], session.responses ++ [(wsi, writer.data)], state⟩
        | .error _ state => ⟨[], session.responses, state⟩
      else { session with fragments := session.fragments ++ [fragment] }
  | _ => session

/-- The session after a run. -/
def sessionOf (handler : Bytes → EStateM Exn σ MessageWriter) (state : σ)
    (h : List (ClientEntry σ)) : Session σ :=
  h.foldl (fun session x => session.step handler x.event) ⟨[], [], state⟩

/-- A step seen by the connection. -/
def connectedStep (connected : Option ℕ) (x : ClientEntry σ) : Option ℕ :=
  match x.event with
  | .established wsi => some wsi
  | .closed _ => none
  | .connectionError _ => none
  | _ => connected

/-- The connection that is established and not closed. -/
def connected (h : List (ClientEntry σ)) : Option ℕ := h.foldl connectedStep none

/-- A step seen by what is written on the current connection, or the last one. -/
def writtenStep (data : List (ℕ × Bytes)) (x : ClientEntry σ) : List (ℕ × Bytes) :=
  match x.event with
  | .established _ => []
  | _ => data ++ x.effects.filterMap fun
      | .write wsi data => some (wsi, data)
      | _ => none

/-- What was written during the current connection, or the last one, each with the
`wsi` it was written on. -/
def writtenOn (h : List (ClientEntry σ)) : List (ℕ × Bytes) := h.foldl writtenStep []

/-- A step seen by the writable callback. -/
def armedStep (armed : Bool) (x : ClientEntry σ) : Bool :=
  match x.event with
  | .closed _ => false
  | .connectionError _ => false
  | .writeable wsi => x.effects.contains (.callbackOnWritable wsi)
  | .receive wsi _ _ => armed || x.effects.contains (.callbackOnWritable wsi)
  | .established _ => armed

/-- A writable callback was asked for and has not come yet. -/
def armed (h : List (ClientEntry σ)) : Bool := h.foldl armedStep false

/-- Connections do not overlap: one is established or fails when there is none,
and messages, writable callbacks and the end come from the one there is. -/
def ClientContract (h : List (ClientEntry σ)) (x : ClientEntry σ) : Prop :=
  match x.event with
  | .established _ => connected h = none
  | .connectionError _ => connected h = none
  | .closed wsi => connected h = some wsi
  | .receive wsi _ _ => connected h = some wsi
  | .writeable wsi => connected h = some wsi

/-! ### What does happen -/

/-- The callback and the session.  Without a connection nothing is kept; with one,
what is written and what is queued are the responses. -/
structure ClientInvariant (handler : Bytes → EStateM Exn σ MessageWriter) (state : σ)
    (h : List (ClientEntry σ)) (context : ClientContext σ) : Prop where
  handled : context.state = (sessionOf handler state h).state
  written : writtenOn h <+: (sessionOf handler state h).responses
  idle : connected h = none → context.requests = [] ∧ context.currentMessage = []
  queue : ∀ wsi, connected h = some wsi →
    writtenOn h ++ context.requests.map (fun writer => (wsi, writer.data)) =
      (sessionOf handler state h).responses
  buffer : ∀ wsi, connected h = some wsi →
    context.currentMessage = (sessionOf handler state h).fragments.flatten
  arms : context.requests ≠ [] → armed h = true

section Step

variable {handler : Bytes → EStateM Exn σ MessageWriter} {state : σ} {h : List (ClientEntry σ)}
  {context : ClientContext σ}

theorem sessionOf_append (x : ClientEntry σ) :
    sessionOf handler state (h ++ [x]) = (sessionOf handler state h).step handler x.event := by
  simp [sessionOf]

theorem connected_append (x : ClientEntry σ) :
    connected (h ++ [x]) = connectedStep (connected h) x := by
  simp [connected]

theorem writtenOn_append (x : ClientEntry σ) :
    writtenOn (h ++ [x]) = writtenStep (writtenOn h) x := by
  simp [writtenOn]

theorem armed_append (x : ClientEntry σ) : armed (h ++ [x]) = armedStep (armed h) x := by
  simp [armed]

/-- The invariant within a connection. -/
theorem ClientInvariant.of_connected {wsi : ℕ} (hwsi : connected h = some wsi)
    (handled : context.state = (sessionOf handler state h).state)
    (queue : writtenOn h ++ context.requests.map (fun writer => (wsi, writer.data)) =
      (sessionOf handler state h).responses)
    (buffer : context.currentMessage = (sessionOf handler state h).fragments.flatten)
    (arms : context.requests ≠ [] → armed h = true) :
    ClientInvariant handler state h context := by
  refine ⟨handled, ⟨_, queue⟩, ?_, ?_, fun _ _ => buffer, arms⟩
  · rw [hwsi]
    nofun
  · intro wsi' hwsi'
    obtain rfl : wsi = wsi' := by simpa [hwsi] using hwsi'
    exact queue

theorem ClientInvariant.step_established (hI : ClientInvariant handler state h context) (wsi : ℕ)
    (hnone : connected h = none) :
    ClientInvariant handler state
      (h ++ [⟨context, .established wsi, [.connectionListener true]⟩]) context := by
  obtain ⟨hreq, hmsg⟩ := hI.idle hnone
  constructor
  · rw [sessionOf_append]
    exact hI.handled
  · rw [sessionOf_append, writtenOn_append]
    exact List.prefix_rfl
  · rw [connected_append]
    nofun
  · intro _ _
    rw [sessionOf_append, writtenOn_append, hreq]
    rfl
  · intro _ _
    rw [sessionOf_append, hmsg]
    rfl
  · intro hne
    exact absurd hreq hne

/-- The connection fails or ends. -/
theorem ClientInvariant.step_closed (hI : ClientInvariant handler state h context)
    {e : ClientEvent} (he : (∃ wsi, e = .connectionError wsi) ∨ ∃ wsi, e = .closed wsi) :
    ClientInvariant handler state (h ++ [⟨context, e, context.onClosed.2⟩])
      context.onClosed.1 := by
  have hsession : sessionOf handler state (h ++ [⟨context, e, context.onClosed.2⟩]) =
      sessionOf handler state h := by
    rw [sessionOf_append]
    obtain ⟨wsi, rfl⟩ | ⟨wsi, rfl⟩ := he <;> rfl
  have hwritten : writtenOn (h ++ [⟨context, e, context.onClosed.2⟩]) = writtenOn h := by
    rw [writtenOn_append]
    obtain ⟨wsi, rfl⟩ | ⟨wsi, rfl⟩ := he <;> exact List.append_nil _
  have hnone : connected (h ++ [⟨context, e, context.onClosed.2⟩]) = none := by
    rw [connected_append]
    obtain ⟨wsi, rfl⟩ | ⟨wsi, rfl⟩ := he <;> rfl
  constructor
  · rw [hsession]
    exact hI.handled
  · rw [hsession, hwritten]
    exact hI.written
  · intro _
    exact ⟨rfl, rfl⟩
  · intro wsi hwsi
    rw [hnone] at hwsi
    cases hwsi
  · intro wsi hwsi
    rw [hnone] at hwsi
    cases hwsi
  · intro hne
    exact absurd rfl hne

theorem ClientInvariant.step_receive (hI : ClientInvariant handler state h context) (wsi : ℕ)
    (fragment : Bytes) (isFinal : Bool) (hwsi : connected h = some wsi) :
    ClientInvariant handler state
      (h ++ [⟨context, .receive wsi fragment isFinal,
        (context.onReceive handler wsi fragment isFinal).2⟩])
      (context.onReceive handler wsi fragment isFinal).1 := by
  have hmessage : ((sessionOf handler state h).fragments ++ [fragment]).flatten =
      context.currentMessage ++ fragment := by
    rw [List.flatten_append, ← hI.buffer wsi hwsi, List.flatten_singleton]
  have hqueue := hI.queue wsi hwsi
  have hconnected (effects : List ClientEffect) :
      connected (h ++ [⟨context, .receive wsi fragment isFinal, effects⟩]) = some wsi := by
    rw [connected_append]
    exact hwsi
  cases isFinal with
  | false =>
      refine .of_connected (hconnected _) ?_ ?_ ?_ ?_
      · rw [sessionOf_append]
        exact hI.handled
      · rw [sessionOf_append, writtenOn_append]
        simpa [writtenStep, ClientContext.onReceive, Session.step] using hqueue
      · rw [sessionOf_append]
        exact hmessage.symm
      · intro hne
        rw [armed_append]
        simp [armedStep, hI.arms hne]
  | true =>
      have hstep : (sessionOf handler state h).step handler (.receive wsi fragment true) =
          match handler (context.currentMessage ++ fragment) context.state with
          | .ok writer state' =>
              ⟨[], (sessionOf handler state h).responses ++ [(wsi, writer.data)], state'⟩
          | .error _ state' => ⟨[], (sessionOf handler state h).responses, state'⟩ := by
        rw [Session.step, if_pos rfl, hmessage, hI.handled]
      unfold ClientContext.onReceive
      simp only [if_true]
      cases hhandler : handler (context.currentMessage ++ fragment) context.state with
      | ok writer state' =>
          rw [hhandler] at hstep
          refine .of_connected (hconnected _) ?_ ?_ ?_ ?_
          · rw [sessionOf_append, hstep]
          · rw [sessionOf_append, writtenOn_append, hstep]
            simp [writtenStep, ← hqueue]
          · rw [sessionOf_append, hstep]
            rfl
          · intro _
            rw [armed_append]
            simp [armedStep]
      | error e state' =>
          rw [hhandler] at hstep
          refine .of_connected (hconnected _) ?_ ?_ ?_ ?_
          · rw [sessionOf_append, hstep]
          · rw [sessionOf_append, writtenOn_append, hstep]
            simpa [writtenStep] using hqueue
          · rw [sessionOf_append, hstep]
            rfl
          · intro hne
            rw [armed_append]
            simp [armedStep, hI.arms hne]

/-- A writable callback touches the queue alone. -/
theorem ClientInvariant.of_writeable (hI : ClientInvariant handler state h context) {wsi : ℕ}
    (hwsi : connected h = some wsi) {requests : List MessageWriter} {effects : List ClientEffect}
    (queue : writtenStep (writtenOn h) ⟨context, .writeable wsi, effects⟩ ++
        requests.map (fun writer => (wsi, writer.data)) =
      (sessionOf handler state h).responses)
    (arms : requests ≠ [] → armedStep (armed h) ⟨context, .writeable wsi, effects⟩ = true) :
    ClientInvariant handler state (h ++ [⟨context, .writeable wsi, effects⟩])
      { context with requests } := by
  have hsession : sessionOf handler state (h ++ [⟨context, .writeable wsi, effects⟩]) =
      sessionOf handler state h := by
    rw [sessionOf_append]
    rfl
  have hconnected : connected (h ++ [⟨context, .writeable wsi, effects⟩]) = some wsi := by
    rw [connected_append]
    exact hwsi
  refine .of_connected hconnected ?_ ?_ ?_ ?_
  · rw [hsession]
    exact hI.handled
  · rw [hsession, writtenOn_append]
    exact queue
  · rw [hsession]
    exact hI.buffer wsi hwsi
  · rw [armed_append]
    exact arms

theorem ClientInvariant.step_writeable (hI : ClientInvariant handler state h context) (wsi : ℕ)
    (hwsi : connected h = some wsi) :
    ClientInvariant handler state
      (h ++ [⟨context, .writeable wsi, (context.onWriteable wsi).2⟩])
      (context.onWriteable wsi).1 := by
  have hqueue := hI.queue wsi hwsi
  unfold ClientContext.onWriteable
  split
  · rename_i hr
    refine hI.of_writeable hwsi ?_ fun hne => absurd hr hne
    simpa [writtenStep] using hqueue
  · rename_i writer hr
    refine hI.of_writeable hwsi ?_ fun hne => absurd rfl hne
    simpa [writtenStep, hr] using hqueue
  · rename_i writer rest hne hr
    refine hI.of_writeable hwsi ?_ fun _ => ?_
    · simpa [writtenStep, hr] using hqueue
    · simp [armedStep]

end Step

/-- The invariant holds after every run whose connections do not overlap. -/
theorem clientInvariant {handler : Bytes → EStateM Exn σ MessageWriter} {state : σ}
    {evs : List ClientEvent} (hC : (wsClient handler state).Admits ClientContract evs) :
    ClientInvariant handler state ((wsClient handler state).trace evs)
      ((wsClient handler state).state evs) := by
  refine Machine.invariant ?_ ?_ evs hC
  · exact ⟨rfl, List.prefix_rfl, fun _ => ⟨rfl, rfl⟩, nofun, nofun, fun hne => absurd rfl hne⟩
  · intro h context e hI hC
    cases e with
    | established wsi => exact hI.step_established wsi hC
    | connectionError wsi => exact hI.step_closed (.inl ⟨wsi, rfl⟩)
    | closed wsi => exact hI.step_closed (.inr ⟨wsi, rfl⟩)
    | receive wsi fragment isFinal => exact hI.step_receive wsi fragment isFinal hC
    | writeable wsi => exact hI.step_writeable wsi hC

/-- **The exchange on the provider's side.**  Over any number of connections that
do not overlap, what is written on a connection is a prefix of the responses of
`on_message` to the messages received on it, in order; and while a response is
queued a writable callback has been asked for and has not come. -/
theorem provider_exchange (p : Provider σ) (s : σ) {evs : List ClientEvent}
    (hC : (wsClient p.handler s).Admits ClientContract evs) :
    writtenOn ((wsClient p.handler s).trace evs) <+:
        (sessionOf p.handler s ((wsClient p.handler s).trace evs)).responses ∧
      (((wsClient p.handler s).state evs).requests ≠ [] →
        armed ((wsClient p.handler s).trace evs) = true) := by
  have hI := clientInvariant hC
  exact ⟨hI.written, hI.arms⟩

/-- A request in two fragments and its response, after a connection that was closed
in the middle of a message. -/
def unlinkRun : List ClientEvent :=
  [.established 1, .receive 1 [0xff] false, .closed 1, .connectionError 2, .established 3,
    .receive 3 [0, 0, 0, 7, 0x0f] false, .receive 3 [0, 0, 0, 1, 0x2f] true, .writeable 3]

theorem provider_exchange_unlink :
    writtenOn ((wsClient Provider.empty.handler ()).trace unlinkRun) =
        [(3, [0, 0, 0, 7, 0x8f, 0xff, 0xff, 0xff, 0xff])] ∧
      writtenOn ((wsClient Provider.empty.handler ()).trace unlinkRun) <+:
        (sessionOf Provider.empty.handler ()
          ((wsClient Provider.empty.handler ()).trace unlinkRun)).responses := by
  have hC : (wsClient Provider.empty.handler ()).Admits ClientContract unlinkRun :=
    ⟨rfl, rfl, rfl, rfl, rfl, rfl, rfl, rfl, trivial⟩
  exact ⟨by decide, (provider_exchange Provider.empty () hC).1⟩

end Client

end Webfuse
