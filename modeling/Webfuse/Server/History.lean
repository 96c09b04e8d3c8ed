/-
# What happened to a client

The claims about the server speak of what happened in a run so far: which client
is between `on_established` and `on_closed`, whose token was accepted, which
fragments of a message have come.  Each is a fold over the steps of the run,
from the events and the effects alone, never from the state of the server; that
the state agrees is something to prove (`session_iff`).

A `wsi` is a pointer and may be used again, so everything that is known of a
client ends with its `on_closed`.
-/

import Webfuse.Server.Outcome

namespace Webfuse

open Basis

/-- The authenticator was asked and said yes. -/
def accepts (effects : List ServerEffect) : Bool :=
  effects.any fun
    | .authenticate _ verdict => verdict
    | _ => false

/-- The callback returned zero. -/
def succeeds (effects : List ServerEffect) : Bool := effects.contains (.returned 0)

namespace History

/-- A step seen by the session of `w`. -/
def sessionStep (w : Wsi) (b : Bool) (x : ServerEntry) : Bool :=
  match x.event with
  | .onEstablished v => if v = w then b || succeeds x.effects else b
  | .onClosed v => if v = w then false else b
  | _ => b

/-- `on_established(w)` returned zero, and `w` is not closed since. -/
def session (h : List ServerEntry) (w : Wsi) : Bool := h.foldl (sessionStep w) false

/-- A step seen by the handshake of `w`. -/
def filteredStep (w : Wsi) (b : Bool) (x : ServerEntry) : Bool :=
  match x.event with
  | .filterConnection v _ _ => if v = w then true else b
  | .onEstablished v => if v = w then false else b
  | .onClosed v => if v = w then false else b
  | _ => b

/-- `filter_connection(w)` was called, and neither `on_established(w)` nor
`on_closed(w)` since. -/
def filtered (h : List ServerEntry) (w : Wsi) : Bool := h.foldl (filteredStep w) false

/-- A step seen by the authentication of `w`. -/
def authenticatedStep (w : Wsi) (b : Bool) (x : ServerEntry) : Bool :=
  match x.event with
  | .filterConnection v _ _ => if v = w then accepts x.effects else b
  | .onReceive v _ _ _ => if v = w then b || accepts x.effects else b
  | .onClosed v => if v = w then false else b
  | _ => b

/-- `w` itself was authenticated: the token of its handshake was accepted, or
credentials that it sent later. -/
def authenticated (h : List ServerEntry) (w : Wsi) : Bool := h.foldl (authenticatedStep w) false

/-- A step seen by a client that waits for its `on_established`. -/
def overtakenStep (w : Wsi) (b : Bool) (x : ServerEntry) : Bool :=
  match x.event with
  | .filterConnection v _ _ => if v = w then false else b || accepts x.effects
  | _ => b

/-- The token of another client was accepted since `filter_connection(w)`. -/
def overtaken (h : List ServerEntry) (w : Wsi) : Bool := h.foldl (overtakenStep w) false

/-- A step seen by the message that `w` is sending. -/
def fragmentsStep (w : Wsi) (l : List Bytes) (x : ServerEntry) : List Bytes :=
  match x.event with
  | .onReceive v fragment isFinal _ =>
      if v = w then if isFinal then [] else l ++ [fragment] else l
  | .onEstablished v => if v = w ∧ succeeds x.effects then [] else l
  | .onClosed v => if v = w then [] else l
  | _ => l

/-- The fragments of a message of which `w` has not sent the last. -/
def fragments (h : List ServerEntry) (w : Wsi) : List Bytes := h.foldl (fragmentsStep w) []

/-- A step seen by the one client of a run whose connections do not overlap. -/
def clientStep (client : Option (Wsi × Bool)) (x : ServerEntry) : Option (Wsi × Bool) :=
  match x.event with
  | .filterConnection v _ _ => if succeeds x.effects then some (v, false) else none
  | .onEstablished v => some (v, true)
  | .onClosed v => if client.map Prod.fst = some v then none else client
  | _ => client

/-- The client between its `filter_connection` and its `on_closed`, and whether
it is established.  A handshake that is refused is over. -/
def client (h : List ServerEntry) : Option (Wsi × Bool) := h.foldl clientStep none

variable (h : List ServerEntry) (x : ServerEntry) (w : Wsi)

@[simp] theorem session_append : session (h ++ [x]) w = sessionStep w (session h w) x := by
  simp [session]

@[simp] theorem filtered_append : filtered (h ++ [x]) w = filteredStep w (filtered h w) x := by
  simp [filtered]

@[simp] theorem authenticated_append :
    authenticated (h ++ [x]) w = authenticatedStep w (authenticated h w) x := by
  simp [authenticated]

@[simp] theorem overtaken_append : overtaken (h ++ [x]) w = overtakenStep w (overtaken h w) x := by
  simp [overtaken]

@[simp] theorem fragments_append : fragments (h ++ [x]) w = fragmentsStep w (fragments h w) x := by
  simp [fragments]

@[simp] theorem client_append : client (h ++ [x]) = clientStep (client h) x := by
  simp [client]

end History

open History

/-- A handshake without any header. -/
def Headers.empty : Headers := ⟨⟨0, 0, []⟩, ⟨0, 0, []⟩, fun _ => ⟨0, 0, []⟩⟩

/-- A handshake with the token `"t"` in the header the server looks at. -/
def Headers.token : Headers := ⟨⟨0, 0, []⟩, ⟨0, 0, []⟩, fun _ => ⟨1, 1, [0x74, 0]⟩⟩

/-! ### The connection -/

/-- What libwebsockets promises: `filter_connection(w)` comes before
`on_established(w)`, and messages come from a client whose `on_established`
returned zero. -/
def LwsContract (h : List ServerEntry) (x : ServerEntry) : Prop :=
  match x.event with
  | .onEstablished w => filtered h w = true
  | .onReceive w _ _ _ => session h w = true
  | _ => True

namespace ServerHandler.Outcome

variable {s s' : ServerHandler} {e : ServerEvent} {effects : List ServerEffect}

theorem authenticator_eq (ho : s.Outcome e s' effects) : s'.authenticator = s.authenticator := by
  cases ho <;> rfl

/-- Only `on_established` and `on_closed` change the connection. -/
theorem connection_eq : s.Outcome e s' effects →
    s'.connection = match e with
      | .onEstablished v => some (s.connection.getD v)
      | .onClosed v => if s.connection = some v then none else s.connection
      | _ => s.connection := by
  intro ho
  cases ho <;> simp_all

/-- `on_established` returns zero when there was no connection. -/
theorem succeeds_iff {v : Wsi} (ho : s.Outcome (.onEstablished v) s' effects) :
    succeeds effects = true ↔ s.connection = none := by
  cases ho <;> simp_all [succeeds]

/-- Only the two authentications and `on_closed` change the flag. -/
theorem isAuthenticated_eq : s.Outcome e s' effects → s.authenticator ≠ [] →
    s'.isAuthenticated = match e with
      | .filterConnection .. => accepts effects
      | .onReceive .. => s.isAuthenticated || accepts effects
      | .onClosed v => if s.connection = some v then false else s.isAuthenticated
      | _ => s.isAuthenticated := by
  intro ho hne
  cases ho <;> simp_all [accepts]

/-- Only `on_receive` changes the message that is put together. -/
theorem currentMessage_eq : s.Outcome e s' effects →
    s'.currentMessage = match e with
      | .onReceive _ fragment isFinal _ => if isFinal then [] else s.currentMessage ++ fragment
      | _ => s.currentMessage := by
  intro ho
  cases ho <;> simp_all

end ServerHandler.Outcome

/-- The client in session, if any, is the connection of the server. -/
def SessionIsConnection (h : List ServerEntry) (s : ServerHandler) : Prop :=
  ∀ w, session h w = true ↔ s.connection = some w

theorem SessionIsConnection.init (authApp authHdr : Bytes) :
    SessionIsConnection [] (.make authApp authHdr) := by
  intro w
  constructor <;> nofun

/-- **`connection` is the client in session**, in every run. -/
theorem SessionIsConnection.step {h : List ServerEntry} {s s' : ServerHandler} {e : ServerEvent}
    {effects : List ServerEffect} (hS : SessionIsConnection h s) (ho : s.Outcome e s' effects) :
    SessionIsConnection (h ++ [⟨s, e, effects⟩]) s' := by
  intro w
  have hw := hS w
  rw [session_append, ho.connection_eq]
  cases e with
  | onEstablished v =>
      have hsucc := ho.succeeds_iff
      cases hc : s.connection with
      | none =>
          have hnot : session h w = false := by simpa [hc] using hw
          simp [sessionStep, hnot, hsucc.2 hc]
      | some c =>
          have hfail : succeeds effects = false := by simpa [hc] using hsucc
          simpa [sessionStep, hfail, hc] using hw
  | onClosed v =>
      simp only [sessionStep]
      by_cases hv : v = w
      · subst hv
        by_cases hc : s.connection = some v <;> simp [hc]
      · rw [if_neg hv, hw]
        split_ifs with hc
        · simp [hc, hv]
        · exact Iff.rfl
  | _ => exact hw

end Webfuse
