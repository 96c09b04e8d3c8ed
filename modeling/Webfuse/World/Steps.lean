/-
# Steps and the traffic

What each kind of step does to the traffic, with the traffic after it written out: a
request is queued, written, received, executed and answered, a response is written and
received, and the ends of a connection come and go.  `Webfuse.World.Linearizable` makes
steps of the object of these, `Webfuse.World.Progress` counts them.
-/

import Webfuse.World.Traffic

namespace Webfuse

open Basis MessageWriter

variable {σ : Type}

/-- What the callers of `perform` see of an effect. -/
def ServerEffect.observed? : ServerEffect → Option Observed
  | queued (some promise) writer => some (.invoked promise writer)
  | setException promise e => some (.refused promise e)
  | setValue promise reader => some (.returned promise reader)
  | broken promise => some (.broken promise)
  | _ => none

def WorldEffect.observed? : WorldEffect → Option Observed
  | server o => o.observed?
  | client _ => none

/-- What the callers of `perform` see of a step. -/
def observed (x : WorldEntry σ) : List Observed := x.effects.filterMap WorldEffect.observed?

theorem observed_server (effects : List ServerEffect) :
    (effects.map WorldEffect.server).filterMap WorldEffect.observed? =
      effects.filterMap ServerEffect.observed? := by
  rw [List.filterMap_map]
  rfl

/-- The provider is asked for credentials in the step, and returns these. -/
def Issues (p : Provider σ) (w : World σ) (e : WorldEvent) (credentials : Bytes) : Prop :=
  ∃ size id s', e = .deliverRequest size true ∧
    w.client.currentMessage ++ (lastPiece w.toProvider).1 =
      (FsCall.getCredentials.request.setId id).data ∧
    p.fs.getCredentials w.client.state = .ok credentials s'

section Step

variable {p : Provider σ} {issued : Bytes → Prop} {w : World σ} {t : Traffic}

/-! ### Steps of the service -/

theorem onServer_eq {e : ServerEvent} {s' : ServerHandler} {effects : List ServerEffect}
    (h : w.server.step e = (s', effects)) :
    w.onServer e =
      ({ w with
          server := s'
          toProvider :=
            if w.wsi.isSome then w.toProvider ++ effects.filterMap ServerEffect.written?
            else w.toProvider },
        effects.map .server) := by
  simp only [World.onServer, h]

/-- A step of the service that writes nothing. -/
theorem onServer_of_silent {e : ServerEvent} {s' : ServerHandler} (effects : List ServerEffect)
    (h : w.server.step e = (s', effects)) (hw : effects.filterMap ServerEffect.written? = []) :
    w.onServer e = ({ w with server := s' }, effects.map .server) := by
  rw [onServer_eq h, hw, List.append_nil, ite_self]

/-- A step that changes nothing the traffic depends on. -/
theorem Tracks.quiet (hT : Tracks issued w t) {s' : ServerHandler}
    (hrequests : s'.requests = w.server.requests)
    (hmessage : s'.currentMessage = w.server.currentMessage)
    (hconnection : s'.connection = w.server.connection)
    (hpending : s'.pendingResponses = w.server.pendingResponses)
    (hpromises : w.server.promises ≤ s'.promises) : Tracks issued { w with server := s' } t where
  located :=
    { hT.located with
      queued := hrequests ▸ hT.located.queued
      arriving := hmessage ▸ hT.located.arriving
      serverSettled := by
        rw [hmessage, hconnection]
        exact hT.located.serverSettled
      serverClosed := by
        rw [hconnection]
        exact hT.located.serverClosed }
  booked := hT.booked.part (.refl t) (fun h => hconnection ▸ h) hpending hpromises

/-- A request is queued. -/
theorem Tracks.performed (hT : Tracks issued w t) {call : FsCall} (hcall : call ≠ .getCredentials)
    (hid : w.server.nextId.id ∉ w.server.pendingResponses) :
    Tracks issued { w with
        server := { w.server with
          promises := w.server.promises + 1
          id := w.server.nextId.id
          requests := w.server.requests ++ [call.request.setId w.server.nextId.id]
          pendingResponses := w.server.pendingResponses.insert w.server.nextId.id
            w.server.promises } }
      { t with queued := t.queued ++ [⟨some w.server.promises, w.server.nextId.id, call⟩] } where
  located := { hT.located with queued := by simp [hT.located.queued, Sent.message] }
  booked := hT.booked.perform hcall hid rfl rfl rfl

/-- The head of the queue is the first of the requests to be written. -/
theorem Tracks.queued_eq (hT : Tracks issued w t) {writer : MessageWriter}
    {rest : List MessageWriter} (hr : w.server.requests = writer :: rest) :
    ∃ m queued, t.queued = m :: queued ∧ writer.data = m.message ∧
      rest.map MessageWriter.data = queued.map Sent.message := by
  have h := hT.located.queued
  rw [hr, List.map_cons] at h
  obtain ⟨m, queued, hqueued, hm, hrest⟩ := List.map_eq_cons_iff.1 h.symm
  exact ⟨m, queued, hqueued, hm.symm, hrest.symm⟩

/-- A request is written to a provider that is there. -/
theorem Tracks.written (hT : Tracks issued w t) {writer : MessageWriter} {rest : List MessageWriter}
    {m : Sent} {queued : List Sent} (hqueued : t.queued = m :: queued)
    (hm : writer.data = m.message)
    (hrest : rest.map MessageWriter.data = queued.map Sent.message) (hwsi : w.wsi ≠ none) :
    Tracks issued { w with
        server := { w.server with requests := rest }
        toProvider := w.toProvider ++ [writer.data] }
      { t with flying := t.flying ++ [m], queued := queued } := by
  refine ⟨?_, Booked.of_sublist hT.booked ?_ ?_ ?_ hT.booked.replies id rfl le_rfl⟩
  · exact { hT.located with
      queued := hrest
      flying := by
        simp [assembled_append hT.located.clientSettled, hT.located.flying, hm]
      clientSettled := hT.located.clientSettled.append _
      clientClosed := fun h => absurd h hwsi }
  · simp [Traffic.tags, hqueued]
  · exact hqueued ▸ List.sublist_cons_self ..
  · simpa [hqueued] using hT.booked.sent

/-! ### Steps of the provider -/

/-- Only a request for credentials is answered as one. -/
theorem getResponseType_toByte_eq_iff (call : FsCall) :
    (getResponseType call.requestType).toByte = ResponseType.getcreds.toByte ↔
      call = .getCredentials := by
  constructor
  · intro h
    by_contra hne
    refine getResponseType_toByte_ne ?_ h
    cases call with
    | getCredentials => exact absurd rfl hne
    | _ => nofun
  · rintro rfl
    rfl

/-- A part of a request arrives. -/
theorem Tracks.receive_part (hT : Tracks issued w t) (size : ℕ) (hne : w.toProvider ≠ []) :
    Tracks issued { w with
      toProvider := (piece size w.toProvider).2
      client := { w.client with
        currentMessage := w.client.currentMessage ++ (piece size w.toProvider).1 } } t := by
  refine ⟨?_, hT.booked⟩
  exact { hT.located with
    flying := (assembled_piece _ size hne).trans hT.located.flying
    clientSettled := .piece _ size hne
    clientClosed := fun h => absurd (hT.located.clientClosed h).1 hne }

/-- The first of the requests on their way is complete with its last piece. -/
theorem Tracks.flying_eq (hT : Tracks issued w t) (hne : w.toProvider ≠ []) :
    ∃ m flying, t.flying = m :: flying ∧
      w.client.currentMessage ++ (lastPiece w.toProvider).1 = m.message ∧
      (lastPiece w.toProvider).2 = flying.map Sent.message := by
  have h := hT.located.flying
  rw [assembled_lastPiece _ hne] at h
  obtain ⟨m, flying, hflying, hm, hrest⟩ := List.map_eq_cons_iff.1 h.symm
  exact ⟨m, flying, hflying, hm.symm, hrest.symm⟩

/-- What a request is answered with. -/
theorem Sent.Proper.reply {m : Sent} (hm : m.Proper) {s s' : σ} {resp : MessageWriter}
    (hrun : p.handler m.message s = .ok resp s')
    (hissued : m.call = .getCredentials → ∀ credentials,
      p.fs.getCredentials s = .ok credentials s' → issued credentials) :
    Reply.Proper issued ⟨m.promise, m.id, resp.data⟩ := by
  obtain ⟨promise, id, call⟩ := m
  by_cases hcall : call = .getCredentials
  · subst hcall
    obtain ⟨credentials, hok, hdata⟩ := p.handler_getcreds_ok hrun
    exact ⟨_, _, hdata, iff_of_true (hm.2 rfl) rfl,
      fun _ => ⟨credentials, hissued rfl credentials hok, rfl⟩⟩
  · obtain ⟨resp', s'', payload, hok, hdata⟩ | ⟨e, s'', herr⟩ := p.handler_cases id call s
    · injection hrun.symm.trans hok with hresp _
      exact ⟨_, payload, hresp ▸ hdata, hm.trans (getResponseType_toByte_eq_iff _).symm,
        fun hnone => absurd (hm.1 hnone) hcall⟩
    · cases hrun.symm.trans herr

/-- A request is executed, and its response is queued. -/
theorem Tracks.executed (hT : Tracks issued w t) {m : Sent} {flying : List Sent}
    (hflying : t.flying = m :: flying) {channel : List Bytes}
    (hchannel : channel = flying.map Sent.message) (hwsi : w.wsi ≠ none) {resp : MessageWriter}
    {s' : σ} (hrun : p.handler m.message w.client.state = .ok resp s')
    (hissued : m.call = .getCredentials → ∀ credentials,
      p.fs.getCredentials w.client.state = .ok credentials s' → issued credentials) :
    Tracks issued { w with client := ⟨[], w.client.requests ++ [resp], s'⟩, toProvider := channel }
      { t with flying := flying, leaving := t.leaving ++ [⟨m.promise, m.id, resp.data⟩] } := by
  have hproper : m.Proper := hT.booked.sent m (by simp [hflying])
  have htags : ({ t with flying := flying
                         leaving := t.leaving ++ [⟨m.promise, m.id, resp.data⟩] } : Traffic).tags =
      t.tags := by
    simp [Traffic.tags, hflying, Reply.tag, Sent.tag]
  refine ⟨?_, hT.booked.move htags (List.Sublist.refl _) ?_ ?_⟩
  · exact { hT.located with
      flying := (assembled_nil _).trans hchannel
      leaving := by simp [hT.located.leaving]
      clientSettled := .nil _
      clientClosed := fun h => absurd h hwsi }
  · intro m' hm'
    refine hT.booked.sent m' ?_
    rw [hflying]
    exact List.mem_cons_of_mem _ hm'
  · intro r hr
    rw [← List.append_assoc] at hr
    rcases List.mem_append.1 hr with hr | hr
    · exact hT.booked.replies r hr
    · obtain rfl := List.mem_singleton.1 hr
      exact hproper.reply hrun hissued

/-- A request throws, and there is no response. -/
theorem Tracks.threw (hT : Tracks issued w t) {m : Sent} {flying : List Sent}
    (hflying : t.flying = m :: flying) {channel : List Bytes}
    (hchannel : channel = flying.map Sent.message) (hwsi : w.wsi ≠ none) (s' : σ) :
    Tracks issued { w with client := ⟨[], w.client.requests, s'⟩, toProvider := channel }
      { t with flying := flying } := by
  have hpart : ({ t with flying := flying } : Traffic).Part t :=
    { Traffic.Part.refl t with flying := hflying ▸ List.sublist_cons_self .. }
  refine ⟨?_, hT.booked.part hpart id rfl le_rfl⟩
  exact { hT.located with
    flying := (assembled_nil _).trans hchannel
    clientSettled := .nil _
    clientClosed := fun h => absurd h hwsi }

/-- What a step of the provider makes of the world when it writes nothing. -/
theorem onClient_of_silent {handler : Bytes → EStateM Exn σ MessageWriter} {e : ClientEvent}
    {client : ClientContext σ} (effects : List ClientEffect)
    (h : w.client.callback handler e = (client, effects))
    (hw : effects.filterMap ClientEffect.written? = []) :
    w.onClient handler e = ({ w with client := client }, effects.map .client) := by
  simp only [World.onClient, h, hw, List.append_nil, ite_self]

/-- A step of the provider at the last piece of a request that returns. -/
theorem onClient_executed (wsi size : ℕ) {m : Sent}
    (hm : w.client.currentMessage ++ (lastPiece w.toProvider).1 = m.message)
    {resp : MessageWriter} {s' : σ} (hrun : p.handler m.message w.client.state = .ok resp s') :
    { w with toProvider := (delivered size true w.toProvider).2 }.onClient p.handler
        (.receive wsi (delivered size true w.toProvider).1 true) =
      ({ w with
          client := ⟨[], w.client.requests ++ [resp], s'⟩
          toProvider := (lastPiece w.toProvider).2 },
        [.client (.callbackOnWritable wsi)]) := by
  have hcallback : w.client.callback p.handler (.receive wsi (lastPiece w.toProvider).1 true) =
      (⟨[], w.client.requests ++ [resp], s'⟩, [.callbackOnWritable wsi]) := by
    simp only [ClientContext.callback, ClientContext.onReceive, if_true, hm, hrun]
  exact onClient_of_silent (w := { w with toProvider := (lastPiece w.toProvider).2 }) _ hcallback
    rfl

/-- A step of the provider at the last piece of a request that throws. -/
theorem onClient_threw (wsi size : ℕ) {m : Sent}
    (hm : w.client.currentMessage ++ (lastPiece w.toProvider).1 = m.message) {e : Exn} {s' : σ}
    (hrun : p.handler m.message w.client.state = .error e s') :
    { w with toProvider := (delivered size true w.toProvider).2 }.onClient p.handler
        (.receive wsi (delivered size true w.toProvider).1 true) =
      ({ w with
          client := ⟨[], w.client.requests, s'⟩, toProvider := (lastPiece w.toProvider).2 },
        []) := by
  have hcallback : w.client.callback p.handler (.receive wsi (lastPiece w.toProvider).1 true) =
      (⟨[], w.client.requests, s'⟩, []) := by
    simp only [ClientContext.callback, ClientContext.onReceive, if_true, hm, hrun]
  exact onClient_of_silent (w := { w with toProvider := (lastPiece w.toProvider).2 }) _ hcallback
    rfl

/-- The head of the queue is the first of the responses to be written. -/
theorem Tracks.leaving_eq (hT : Tracks issued w t) {writer : MessageWriter}
    {rest : List MessageWriter} (hr : w.client.requests = writer :: rest) :
    ∃ r leaving, t.leaving = r :: leaving ∧ writer.data = r.data ∧
      rest.map MessageWriter.data = leaving.map Reply.data := by
  have h := hT.located.leaving
  rw [hr, List.map_cons] at h
  obtain ⟨r, leaving, hleaving, hwriter, hrest⟩ := List.map_eq_cons_iff.1 h.symm
  exact ⟨r, leaving, hleaving, hwriter.symm, hrest.symm⟩

/-- A response is written to a service that is there. -/
theorem Tracks.responded (hT : Tracks issued w t) {writer : MessageWriter}
    {rest : List MessageWriter} {r : Reply} {leaving : List Reply}
    (hleaving : t.leaving = r :: leaving) (hwriter : writer.data = r.data)
    (hrest : rest.map MessageWriter.data = leaving.map Reply.data) (hwsi : w.wsi ≠ none)
    (hconnection : w.server.connection ≠ none) :
    Tracks issued { w with
        client := { w.client with requests := rest }
        toService := w.toService ++ [writer.data] }
      { t with arriving := t.arriving ++ [r], leaving := leaving } := by
  refine ⟨?_, hT.booked.move ?_ (List.Sublist.refl _) hT.booked.sent ?_⟩
  · exact { hT.located with
      leaving := hrest
      arriving := by
        simp [assembled_append (hT.located.serverSettled hconnection), hT.located.arriving,
          hwriter]
      serverSettled := fun h => (hT.located.serverSettled h).append _
      clientClosed := fun h => absurd h hwsi
      serverClosed := fun h => absurd h hconnection }
  · simp [Traffic.tags, hleaving]
  · simpa [hleaving] using hT.booked.replies

/-! ### Responses -/

/-- A message that begins with an id and a type is dispatched by them. -/
theorem ServerHandler.dispatch_eq (s : ServerHandler) (wsi : Wsi) (id : UInt32) (type : UInt8)
    (rest : Bytes) (verdict : Bool) :
    s.dispatch wsi (bytesOfU32 id ++ type :: rest) verdict =
      if type = ResponseType.getcreds.toByte then
        s.finishAuthentication wsi ⟨bytesOfU32 id ++ type :: rest, 5⟩ verdict
      else
        match s.pendingResponses.lookup id with
        | some promise =>
            ({ s with pendingResponses := s.pendingResponses.erase id },
              [.setValue promise ⟨bytesOfU32 id ++ type :: rest, 5⟩])
        | none => (s, []) := by
  have hread := (reads_readHeader (ω := Unit) id type).from_start rest ()
  have hlist : bytesOfU32 id ++ [type] ++ rest = bytesOfU32 id ++ type :: rest := by simp
  rw [hlist] at hread
  unfold dispatch
  rw [hread]
  rfl

/-- What the end of an authentication has for effects. -/
def authenticationEffects (wsi : Wsi) (token : Bytes) (verdict : Bool) : List ServerEffect :=
  .authenticate token verdict :: if verdict then [] else [.callbackOnWritable (some wsi)]

theorem authenticationEffects_silent (wsi : Wsi) (token : Bytes) (verdict : Bool) :
    (authenticationEffects wsi token verdict).filterMap ServerEffect.written? = [] ∧
      (authenticationEffects wsi token verdict).filterMap ServerEffect.observed? = [] := by
  cases verdict <;> exact ⟨rfl, rfl⟩

/-- The end of an authentication asks the authenticator about the credentials that were
sent.  It touches no request, and no connection unless they are rejected. -/
theorem ServerHandler.finishAuthentication_eq (s : ServerHandler) (wsi : Wsi) (id : UInt32)
    (credentials : Bytes) (verdict : Bool) :
    s.finishAuthentication wsi
        ⟨bytesOfU32 id ++ ResponseType.getcreds.toByte :: bytesOfData credentials, 5⟩ verdict =
      ({ s with
          isAuthenticated := s.isAuthenticated || verdict
          shutdownRequested := s.shutdownRequested || !verdict },
        authenticationEffects wsi (clip credentials) verdict) := by
  have hread := (reads_readStr (ω := Unit) credentials).to_end
    (bytesOfU32 id ++ [ResponseType.getcreds.toByte]) ()
  have hlist : bytesOfU32 id ++ [ResponseType.getcreds.toByte] ++ bytesOfData credentials =
      bytesOfU32 id ++ ResponseType.getcreds.toByte :: bytesOfData credentials := by simp
  have hlen : (bytesOfU32 id ++ [ResponseType.getcreds.toByte]).length = 5 := rfl
  rw [hlist, hlen] at hread
  unfold finishAuthentication
  rw [hread]
  dsimp only [pure, EStateM.pure]
  cases verdict with
  | true => simp [authenticationEffects]
  | false => simp [authenticationEffects]

/-- The first of the responses on their way is complete with its last piece. -/
theorem Tracks.arriving_eq (hT : Tracks issued w t) (hne : w.toService ≠ []) :
    ∃ r arriving, t.arriving = r :: arriving ∧
      w.server.currentMessage ++ (lastPiece w.toService).1 = r.data ∧
      (lastPiece w.toService).2 = arriving.map Reply.data := by
  have h := hT.located.arriving
  rw [assembled_lastPiece _ hne] at h
  obtain ⟨r, arriving, harriving, hr, hrest⟩ := List.map_eq_cons_iff.1 h.symm
  exact ⟨r, arriving, harriving, hr.symm, hrest.symm⟩

/-- The buffer is empty behind a message. -/
theorem Located.arrived (hL : Located w t) {arriving : List Reply} {channel : List Bytes}
    (hchannel : channel = arriving.map Reply.data) (hconnection : w.server.connection ≠ none)
    {s' : ServerHandler} (hrequests : s'.requests = w.server.requests)
    (hmessage : s'.currentMessage = []) (hsame : s'.connection = w.server.connection) :
    Located { w with server := s', toService := channel } { t with arriving := arriving } :=
  { hL with
    queued := hrequests ▸ hL.queued
    arriving := by
      rw [hmessage, assembled_nil]
      exact hchannel
    serverSettled := fun _ => hmessage ▸ .nil _
    serverClosed := fun h => absurd (hsame ▸ h) hconnection }

/-- A part of a response arrives. -/
theorem Tracks.response_part (hT : Tracks issued w t) (size : ℕ) (hne : w.toService ≠ [])
    (hconnection : w.server.connection ≠ none) :
    Tracks issued { w with
      toService := (piece size w.toService).2
      server := { w.server with
        currentMessage := w.server.currentMessage ++ (piece size w.toService).1 } } t := by
  refine ⟨?_, hT.booked.part (.refl t) id rfl le_rfl⟩
  exact { hT.located with
    arriving := (assembled_piece _ size hne).trans hT.located.arriving
    serverSettled := fun _ => .piece _ size hne
    serverClosed := fun h => absurd h hconnection }

/-- A response to a request finds its promise. -/
theorem Tracks.dispatch_some (hT : Tracks issued w t) (hconnection : w.server.connection ≠ none)
    (wsi : Wsi) (verdict : Bool) {r : Reply} {arriving : List Reply}
    (harriving : t.arriving = r :: arriving) {q : Promise} (hpromise : r.promise = some q) :
    w.server.pendingResponses.lookup r.id = some q ∧
      { w.server with currentMessage := [] }.dispatch wsi r.data verdict =
        ({ w.server with
            currentMessage := [], pendingResponses := w.server.pendingResponses.erase r.id },
          [.setValue q ⟨r.data, 5⟩]) := by
  obtain ⟨type, rest, hdata, htype, -⟩ := hT.booked.replies r (by simp [harriving])
  have hne : type ≠ ResponseType.getcreds.toByte := by
    intro h
    rw [htype.2 h] at hpromise
    cases hpromise
  have hlookup : w.server.pendingResponses.lookup r.id = some q :=
    hT.booked.registered hconnection r.tag (by simp [Traffic.tags, harriving]) q hpromise
  have hdispatch := { w.server with currentMessage := [] }.dispatch_eq wsi r.id type rest verdict
  rw [← hdata, if_neg hne, hlookup] at hdispatch
  exact ⟨hlookup, hdispatch⟩

/-- A response to the request for credentials ends the authentication. -/
theorem Tracks.dispatch_none (hT : Tracks issued w t) (wsi : Wsi) (verdict : Bool) {r : Reply}
    {arriving : List Reply} (harriving : t.arriving = r :: arriving) (hpromise : r.promise = none) :
    ∃ credentials, issued credentials ∧
      { w.server with currentMessage := [] }.dispatch wsi r.data verdict =
        ({ w.server with
            currentMessage := [], isAuthenticated := w.server.isAuthenticated || verdict
            shutdownRequested := w.server.shutdownRequested || !verdict },
          authenticationEffects wsi (clip credentials) verdict) := by
  obtain ⟨type, rest, hdata, htype, hcreds⟩ := hT.booked.replies r (by simp [harriving])
  obtain ⟨credentials, hissued, rfl⟩ := hcreds hpromise
  obtain rfl := htype.1 hpromise
  have hdispatch := { w.server with currentMessage := [] }.dispatch_eq wsi r.id
    ResponseType.getcreds.toByte (bytesOfData credentials) verdict
  rw [if_pos rfl, ServerHandler.finishAuthentication_eq, ← hdata] at hdispatch
  exact ⟨credentials, hissued, hdispatch⟩

/-- A step of the service at the last piece of a response. -/
theorem onServer_received {r : Reply} (wsi : Wsi) (verdict : Bool)
    (hr : w.server.currentMessage ++ (lastPiece w.toService).1 = r.data) {s' : ServerHandler}
    {effects : List ServerEffect}
    (hdispatch : { w.server with currentMessage := [] }.dispatch wsi r.data verdict = (s', effects))
    (hwritten : effects.filterMap ServerEffect.written? = []) :
    { w with toService := (lastPiece w.toService).2 }.onServer
        (.onReceive wsi (lastPiece w.toService).1 true verdict) =
      ({ w with server := s', toService := (lastPiece w.toService).2 },
        WorldEffect.server (.dispatched r.data) :: effects.map .server) := by
  have hstep : w.server.step (.onReceive wsi (lastPiece w.toService).1 true verdict) =
      (s', .dispatched r.data :: effects) := by
    change (_, _ :: _) = _
    rw [hr, hdispatch]
  exact onServer_of_silent (w := { w with toService := (lastPiece w.toService).2 }) _ hstep
    (by rw [List.filterMap_cons_none rfl, hwritten])

/-- A response leaves the traffic and its promise is resolved. -/
theorem Tracks.answered (hT : Tracks issued w t) (hconnection : w.server.connection ≠ none)
    {r : Reply} {arriving : List Reply} (harriving : t.arriving = r :: arriving)
    {channel : List Bytes} (hchannel : channel = arriving.map Reply.data) {q : Promise}
    (hpromise : r.promise = some q) :
    Tracks issued { w with
        server := { w.server with
          currentMessage := [], pendingResponses := w.server.pendingResponses.erase r.id }
        toService := channel } { t with arriving := arriving } :=
  ⟨hT.located.arrived hchannel hconnection rfl rfl rfl,
    hT.booked.answer harriving hpromise hconnection rfl rfl⟩

/-- A response to `getcreds` leaves the traffic. -/
theorem Tracks.authenticated (hT : Tracks issued w t) (hconnection : w.server.connection ≠ none)
    {r : Reply} {arriving : List Reply} (harriving : t.arriving = r :: arriving)
    {channel : List Bytes} (hchannel : channel = arriving.map Reply.data)
    (isAuthenticated shutdownRequested : Bool) :
    Tracks issued { w with
        server := { w.server with
          currentMessage := [], isAuthenticated := isAuthenticated
          shutdownRequested := shutdownRequested }
        toService := channel } { t with arriving := arriving } := by
  have hpart : ({ t with arriving := arriving } : Traffic).Part t :=
    { Traffic.Part.refl t with arriving := harriving ▸ List.sublist_cons_self .. }
  exact ⟨hT.located.arrived hchannel hconnection rfl rfl rfl, hT.booked.part hpart id rfl le_rfl⟩

/-! ### Connections -/

/-- With both ends closed there is nothing on its way. -/
theorem Tracks.closed_eq (hT : Tracks issued w t) (hconnection : w.server.connection = none)
    (hwsi : w.wsi = none) :
    t = ⟨[], [], [], t.queued⟩ ∧ w.client.currentMessage = [] ∧ w.toProvider = [] ∧
      w.toService = [] := by
  obtain ⟨hprovider, hrequests⟩ := hT.located.clientClosed hwsi
  have hservice := hT.located.serverClosed hconnection
  have harriving := hT.located.arriving
  have hflying := hT.located.flying
  have hleaving := hT.located.leaving
  rw [hservice] at harriving
  rw [hprovider] at hflying
  rw [hrequests] at hleaving
  refine ⟨?_, hT.located.clientSettled hprovider, hprovider, hservice⟩
  obtain ⟨arriving, leaving, flying, queued⟩ := t
  obtain rfl : arriving = [] := List.map_eq_nil_iff.1 harriving.symm
  obtain rfl : leaving = [] := List.map_eq_nil_iff.1 hleaving.symm
  obtain rfl : flying = [] := List.map_eq_nil_iff.1 hflying.symm
  rfl

/-- A service that is connected again knows of what it still has to write. -/
theorem Booked.reconnect {s s' : ServerHandler} {queued : List Sent}
    (hB : Booked issued s ⟨[], [], [], queued⟩)
    (hpending : s'.pendingResponses = s.pendingResponses)
    (hpromises : s'.promises = s.promises) : Booked issued s' ⟨[], [], [], queued⟩ := by
  have hregistered : ∀ m ∈ queued, Registered s' m.tag := fun m hm =>
    (hB.registeredQueued m hm).congr hpending
  exact {
    sent := hB.sent
    replies := hB.replies
    once := hB.once
    made := hpromises ▸ hB.made
    registered := by
      rintro - tag htag
      obtain ⟨m, hm, rfl⟩ := List.mem_map.1 htag
      exact hregistered m hm
    registeredQueued := hregistered
    pendingInj := hpending ▸ hB.pendingInj
    pendingMade := by
      rw [hpending, hpromises]
      exact hB.pendingMade }

/-- The request for credentials joins the traffic. -/
theorem Booked.ask {s : ServerHandler} {t : Traffic} (hB : Booked issued s t) (id : UInt32) :
    Booked issued s { t with queued := t.queued ++ [⟨none, id, .getCredentials⟩] } := by
  have hask : Registered s (Sent.tag ⟨none, id, .getCredentials⟩) := nofun
  have hpromises : ({ t with queued := t.queued ++ [⟨none, id, .getCredentials⟩] } :
      Traffic).promises = t.promises := by
    rw [Traffic.promises, tags_queue, List.filterMap_append]
    exact List.append_nil _
  exact {
    sent := by
      intro m hm
      rw [← List.append_assoc] at hm
      rcases List.mem_append.1 hm with hm | hm
      · exact hB.sent m hm
      · obtain rfl := List.mem_singleton.1 hm
        exact iff_of_true rfl rfl
    replies := hB.replies
    once := hpromises ▸ hB.once
    made := hpromises ▸ hB.made
    registered := by
      intro hs tag htag
      rw [tags_queue] at htag
      rcases List.mem_append.1 htag with htag | htag
      · exact hB.registered hs tag htag
      · obtain rfl := List.mem_singleton.1 htag
        exact hask
    registeredQueued := by
      intro m hm
      rcases List.mem_append.1 hm with hm | hm
      · exact hB.registeredQueued m hm
      · obtain rfl := List.mem_singleton.1 hm
        exact hask
    pendingInj := hB.pendingInj
    pendingMade := hB.pendingMade }

end Step

end Webfuse
