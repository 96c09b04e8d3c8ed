/-
# Calls of the service take effect at once

Whatever the threads of the service, the provider and the network do, the callers of
`perform` see what they could see of the object of `Webfuse.World.Atomic`
(`world_linearizable`): every call that returns has returned what its execution
returned, and the calls were executed one at a time, in the order of their invocation,
each after it was invoked and before it returned.

Two things are asked of a run.  No request is given an id under which a promise is
still waiting, which takes `2^32 - 1` requests or a promise that was left over by an
earlier connection.  And no connection starts with a part of a message that an earlier
one left in the buffer of the service.
-/

import Webfuse.World.Steps

namespace Webfuse

open Basis MessageWriter

variable {σ : Type}

/-- The id of a new request is free, and a new connection finds no part of a message. -/
def WorldContract (_ : List (WorldEntry σ)) (x : WorldEntry σ) : Prop :=
  match x.event with
  | .perform _ =>
      x.pre.server.isAuthenticated = true →
        x.pre.server.nextId.id ∉ x.pre.server.pendingResponses
  | .connect _ _ => x.pre.server.connection = none → x.pre.server.currentMessage = []
  | _ => True

/-- The step is one of the object. -/
def Advance (p : Provider σ) (s : σ) (issued : Bytes → Prop) (w : World σ) (t : Traffic)
    (r : World σ × List WorldEffect) : Prop :=
  ∃ t', Tracks issued r.1 t' ∧
    (atomic p s).Run (t.atomic w) (r.2.filterMap WorldEffect.observed?) (t'.atomic r.1)

section Step

variable {p : Provider σ} {s : σ} {issued : Bytes → Prop} {w : World σ} {t : Traffic}

theorem Tracks.advance_refl (hT : Tracks issued w t) : Advance p s issued w t (w, []) :=
  ⟨t, hT, .refl⟩

/-! ### Steps of the service -/

/-- A promise that is registered under a free id is one more. -/
theorem unresolved_insert {l : AList fun _ : UInt32 => Promise} {id : UInt32} (hid : id ∉ l)
    (q : Promise) :
    {q' | ∃ id', (l.insert id q).lookup id' = some q'} =
      insert q {q' | ∃ id', l.lookup id' = some q'} := by
  ext q'
  constructor
  · rintro ⟨id', h⟩
    by_cases hne : id' = id
    · subst hne
      rw [AList.lookup_insert] at h
      exact .inl (Option.some.inj h).symm
    · rw [AList.lookup_insert_ne hne] at h
      exact .inr ⟨id', h⟩
  · rintro (rfl | ⟨id', h⟩)
    · exact ⟨id, AList.lookup_insert _⟩
    · refine ⟨id', ?_⟩
      rw [AList.lookup_insert_ne, h]
      rintro rfl
      rw [AList.lookup_eq_none.2 hid] at h
      cases h

/-- Of promises under different ids one is erased. -/
theorem unresolved_erase {l : AList fun _ : UInt32 => Promise} {id : UInt32} {q : Promise}
    (hlookup : l.lookup id = some q)
    (hinj : ∀ id id' q, l.lookup id = some q → l.lookup id' = some q → id = id') :
    {q' | ∃ id', (l.erase id).lookup id' = some q'} =
      {q' | ∃ id', l.lookup id' = some q'} \ {q} := by
  ext q'
  constructor
  · rintro ⟨id', h⟩
    have hid : id' ≠ id := by
      rintro rfl
      simp at h
    rw [AList.lookup_erase_ne hid] at h
    refine ⟨⟨id', h⟩, ?_⟩
    rintro rfl
    exact hid (hinj _ _ _ h hlookup)
  · rintro ⟨⟨id', h⟩, hq'⟩
    refine ⟨id', ?_⟩
    rw [AList.lookup_erase_ne, h]
    rintro rfl
    rw [hlookup] at h
    exact hq' (Option.some.inj h).symm

theorem Tracks.advance_quiet (hT : Tracks issued w t) {e : ServerEvent} {s' : ServerHandler}
    {effects : List ServerEffect} (h : w.server.step e = (s', effects))
    (hwritten : effects.filterMap ServerEffect.written? = [])
    (hobserved : effects.filterMap ServerEffect.observed? = [])
    (hrequests : s'.requests = w.server.requests)
    (hmessage : s'.currentMessage = w.server.currentMessage)
    (hconnection : s'.connection = w.server.connection)
    (hpending : s'.pendingResponses = w.server.pendingResponses)
    (hpromises : s'.promises = w.server.promises) : Advance p s issued w t (w.onServer e) := by
  rw [onServer_of_silent _ h hwritten]
  refine ⟨t, hT.quiet hrequests hmessage hconnection hpending hpromises.ge, ?_⟩
  have hsame : t.atomic { w with server := s' } = t.atomic w := by
    simp [Traffic.atomic, hpending, hpromises]
  rw [observed_server, hobserved, hsame]
  exact .refl

theorem Tracks.advance_filterConnection (hT : Tracks issued w t) (wsi : Wsi) (headers : Headers)
    (verdict : Bool) :
    Advance p s issued w t (w.onServer (.filterConnection wsi headers verdict)) := by
  have ho := w.server.step_outcome (.filterConnection wsi headers verdict)
  cases hstep : w.server.step (.filterConnection wsi headers verdict) with
  | mk s' effects =>
      rw [hstep] at ho
      cases ho with
      | filterDisabled h => exact hT.advance_quiet hstep rfl rfl rfl rfl rfl rfl rfl
      | filterWithoutToken h => exact hT.advance_quiet hstep rfl rfl rfl rfl rfl rfl rfl
      | filterWithToken h token => exact hT.advance_quiet hstep rfl rfl rfl rfl rfl rfl rfl

/-- The queue and the promises are dropped; what is on its way stays there. -/
theorem Tracks.advance_pollClear (hT : Tracks issued w t)
    (hconnection : w.server.connection = none) :
    Advance p s issued w t
      ({ w with server := { w.server with requests := [], pendingResponses := ∅ } },
        (w.server.pendingResponses.entries.map fun entry =>
          WorldEffect.server (.broken entry.2))) := by
  let t' : Traffic := { t with queued := [] }
  have hpart : t'.Part t := { Traffic.Part.refl t with queued := List.nil_sublist _ }
  have hentry {id : UInt32} {q : Promise} :
      w.server.pendingResponses.lookup id = some q ↔ ⟨id, q⟩ ∈ w.server.pendingResponses.entries :=
    AList.mem_lookup_iff
  -- the promises that are broken are those that were waiting, once each
  have hnodup : (w.server.pendingResponses.entries.map fun entry => entry.2).Nodup := by
    refine List.Nodup.map_on ?_ w.server.pendingResponses.nodupKeys.nodup
    rintro ⟨id, q⟩ h ⟨id', q'⟩ h' hq
    obtain rfl : q = q' := hq
    rw [hT.booked.pendingInj id id' q (hentry.2 h) (hentry.2 h')]
  have hopen : ∀ q ∈ w.server.pendingResponses.entries.map fun entry => entry.2,
      q ∈ (t'.atomic w).unresolved := by
    intro q hq
    obtain ⟨⟨id, q⟩, h, rfl⟩ := List.mem_map.1 hq
    exact ⟨id, hentry.2 h⟩
  have hnone : ({ t'.atomic w with
      unresolved := (t'.atomic w).unresolved \
        {q | q ∈ w.server.pendingResponses.entries.map fun entry => entry.2} } : Atomic σ) =
      t'.atomic { w with server := { w.server with requests := [], pendingResponses := ∅ } } := by
    have hempty : (t'.atomic w).unresolved \
        {q | q ∈ w.server.pendingResponses.entries.map fun entry => entry.2} = ∅ := by
      refine Set.sdiff_eq_empty.2 ?_
      rintro q ⟨id, h⟩
      exact List.mem_map.2 ⟨⟨id, q⟩, hentry.1 h, rfl⟩
    rw [hempty]
    simp [Traffic.atomic]
  refine ⟨t', ⟨?_, ?_⟩, ?_⟩
  · exact { hT.located with queued := rfl }
  · have hB : Booked issued w.server t' := hT.booked.part hpart id rfl le_rfl
    exact { hB with
      registered := fun h => absurd hconnection h
      registeredQueued := fun m hm => absurd hm List.not_mem_nil
      pendingInj := fun id id' q h => absurd h (by simp)
      pendingMade := fun id q h => absurd h (by simp) }
  · have hlabels : (w.server.pendingResponses.entries.map fun entry =>
        WorldEffect.server (.broken entry.2)).filterMap WorldEffect.observed? =
          (w.server.pendingResponses.entries.map fun entry => entry.2).map Observed.broken := by
      simp [List.filterMap_map, Function.comp_def, WorldEffect.observed?, ServerEffect.observed?]
    rw [hlabels]
    have hlose : (atomic p s).Run (t.atomic w) [] (t'.atomic w) :=
      .single (hpart.step p rfl rfl rfl)
    refine hlose.tail ?_
    rw [← hnone]
    exact Atomic.Step.abandon hnodup hopen

theorem Tracks.advance_poll (hT : Tracks issued w t) :
    Advance p s issued w t (w.onServer .poll) := by
  have ho := w.server.step_outcome .poll
  cases hstep : w.server.step .poll with
  | mk s' effects =>
      rw [hstep] at ho
      cases ho with
      | pollIdle h => exact hT.advance_quiet hstep rfl rfl rfl rfl rfl rfl rfl
      | pollConnected current hr h => exact hT.advance_quiet hstep rfl rfl rfl rfl rfl rfl rfl
      | pollClear hr h =>
          have hsilent : (w.server.pendingResponses.entries.map fun entry =>
              ServerEffect.broken entry.2).filterMap ServerEffect.written? = [] := by
            simp [List.filterMap_map, Function.comp_def, ServerEffect.written?]
          rw [onServer_of_silent _ hstep hsilent, List.map_map]
          exact hT.advance_pollClear h

/-- A request is queued, or refused. -/
theorem Tracks.advance_perform (hT : Tracks issued w t) {call : FsCall}
    (hcall : call ≠ .getCredentials)
    (hid : w.server.isAuthenticated = true →
      w.server.nextId.id ∉ w.server.pendingResponses) :
    Advance p s issued w t (w.onServer (.perform call.request)) := by
  have ho := w.server.step_outcome (.perform call.request)
  cases hstep : w.server.step (.perform call.request) with
  | mk s' effects =>
      rw [hstep] at ho
      cases ho with
      | performRefused h =>
          rw [onServer_of_silent _ hstep rfl]
          refine ⟨t, hT.quiet rfl rfl rfl rfl (Nat.le_succ _), Lts.Run.single ?_⟩
          exact Atomic.Step.refuse _
      | performCollision h hin => exact absurd hin (hid h)
      | performRegister h hout =>
          rw [onServer_of_silent _ hstep rfl]
          refine ⟨_, hT.performed hcall hout, Lts.Run.single ?_⟩
          change Atomic.Step p _ [_] _
          have hinvoke := Atomic.Step.invoke (p := p) (a := t.atomic w) w.server.nextId.id call
            hcall
          simpa [Traffic.atomic, Sent.invocation?, unresolved_insert hout] using hinvoke

/-- The head of the queue is on its way, or is lost when the provider is not there. -/
theorem Tracks.advance_write (hT : Tracks issued w t) {writer : MessageWriter}
    {rest : List MessageWriter} (hr : w.server.requests = writer :: rest) :
    ∃ t', Tracks issued { w with
          server := { w.server with requests := rest }
          toProvider := if w.wsi.isSome then w.toProvider ++ [writer.data] else w.toProvider } t' ∧
      (atomic p s).Run (t.atomic w) [] (t'.atomic { w with
          server := { w.server with requests := rest }
          toProvider := if w.wsi.isSome then w.toProvider ++ [writer.data]
            else w.toProvider }) := by
  obtain ⟨m, queued, hqueued, hm, hrest⟩ := hT.queued_eq hr
  by_cases hwsi : w.wsi.isSome
  · simp only [if_pos hwsi]
    refine ⟨_, hT.written hqueued hm hrest (Option.isSome_iff_ne_none.1 hwsi), ?_⟩
    have hsame : ({ t with flying := t.flying ++ [m], queued := queued } : Traffic).atomic
        { w with
          server := { w.server with requests := rest }
          toProvider := w.toProvider ++ [writer.data] } = t.atomic w := by
      simp [Traffic.atomic, hqueued]
    rw [hsame]
    exact .refl
  · simp only [if_neg hwsi]
    have hpart : ({ t with queued := queued } : Traffic).Part t :=
      { Traffic.Part.refl t with queued := hqueued ▸ List.sublist_cons_self .. }
    refine ⟨{ t with queued := queued }, ⟨?_, ?_⟩, .single (hpart.step p rfl rfl rfl)⟩
    · exact { hT.located with queued := hrest }
    · exact hT.booked.part hpart id rfl le_rfl

theorem Tracks.advance_writable (hT : Tracks issued w t) :
    Advance p s issued w t (w.onServer .onWritable) := by
  have ho := w.server.step_outcome .onWritable
  cases hstep : w.server.step .onWritable with
  | mk s' effects =>
      rw [hstep] at ho
      cases ho with
      | writableIdle code h => exact hT.advance_quiet hstep rfl rfl rfl rfl rfl rfl rfl
      | writableWrite writer rest hr hs =>
          obtain ⟨t', hT', hrun⟩ := hT.advance_write (p := p) (s := s) hr
          have hwritten : (ServerEffect.write w.server.connection writer.data ::
              if rest = [] then [.returned 0]
              else [.callbackOnWritable w.server.connection, .returned 0]).filterMap
                ServerEffect.written? = [writer.data] := by
            split_ifs <;> rfl
          have hobserved : (ServerEffect.write w.server.connection writer.data ::
              if rest = [] then [.returned 0]
              else [.callbackOnWritable w.server.connection, .returned 0]).filterMap
                ServerEffect.observed? = [] := by
            split_ifs <;> rfl
          rw [onServer_eq hstep, hwritten]
          refine ⟨t', hT', ?_⟩
          rw [observed_server, hobserved]
          exact hrun

/-! ### Steps of the provider -/

/-- A request is executed, and its response is queued. -/
theorem Tracks.advance_executed (hT : Tracks issued w t) {m : Sent} {flying : List Sent}
    (hflying : t.flying = m :: flying) {channel : List Bytes}
    (hchannel : channel = flying.map Sent.message) (hwsi : w.wsi ≠ none) {resp : MessageWriter}
    {s' : σ} (hrun : p.handler m.message w.client.state = .ok resp s')
    (hissued : m.call = .getCredentials → ∀ credentials,
      p.fs.getCredentials w.client.state = .ok credentials s' → issued credentials)
    (effects : List ClientEffect) :
    Advance p s issued w t
      ({ w with client := ⟨[], w.client.requests ++ [resp], s'⟩, toProvider := channel },
        effects.map .client) := by
  have hproper : m.Proper := hT.booked.sent m (by simp [hflying])
  refine ⟨_, hT.executed hflying hchannel hwsi hrun hissued, ?_⟩
  have hlabels : (effects.map WorldEffect.client).filterMap WorldEffect.observed? = [] := by
    simp [List.filterMap_map, Function.comp_def, WorldEffect.observed?]
  rw [hlabels]
  refine Lts.Run.single ?_
  change Atomic.Step p _ _ _
  obtain ⟨promise, id, call⟩ := m
  cases promise with
  | none =>
      obtain rfl : call = .getCredentials := hproper.1 rfl
      have hfinal := p.finalState_handler_getcreds id w.client.state
      have hstate : finalState (p.fs.getCredentials w.client.state) = s' :=
        hfinal.symm.trans (congrArg finalState hrun)
      have hask := Atomic.Step.askCredentials (p := p) (a := t.atomic w) s' hstate
      simpa [Traffic.atomic, hflying, List.filterMap_cons, Sent.invocation?, Reply.answer?]
        using hask
  | some q =>
      have hcall : call ≠ .getCredentials := fun h => Option.some_ne_none q (hproper.2 h)
      have hhead : (t.atomic w).waiting =
          ⟨q, id, call⟩ :: (flying ++ t.queued).filterMap Sent.invocation? := by
        simp [Traffic.atomic, hflying, Sent.invocation?]
      have hexec := Atomic.Step.execute hhead (p.loopback_of_ok hcall hrun)
      simpa [Traffic.atomic, Reply.answer?] using hexec

/-- A request is executed and throws. -/
theorem Tracks.advance_threw (hT : Tracks issued w t) {m : Sent} {flying : List Sent}
    (hflying : t.flying = m :: flying) {channel : List Bytes}
    (hchannel : channel = flying.map Sent.message) (hwsi : w.wsi ≠ none) {e : Exn} {s' : σ}
    (hrun : p.handler m.message w.client.state = .error e s') :
    Advance p s issued w t
      ({ w with client := ⟨[], w.client.requests, s'⟩, toProvider := channel }, []) := by
  have hproper : m.Proper := hT.booked.sent m (by simp [hflying])
  refine ⟨_, hT.threw hflying hchannel hwsi s', Lts.Run.single ?_⟩
  change Atomic.Step p _ _ _
  obtain ⟨promise, id, call⟩ := m
  cases promise with
  | none =>
      obtain rfl : call = .getCredentials := hproper.1 rfl
      have hfinal := p.finalState_handler_getcreds id w.client.state
      have hstate : finalState (p.fs.getCredentials w.client.state) = s' :=
        hfinal.symm.trans (congrArg finalState hrun)
      have hask := Atomic.Step.askCredentials (p := p) (a := t.atomic w) s' hstate
      simpa [Traffic.atomic, hflying, List.filterMap_cons, Sent.invocation?] using hask
  | some q =>
      have hhead : (t.atomic w).waiting =
          ⟨q, id, call⟩ :: (flying ++ t.queued).filterMap Sent.invocation? := by
        simp [Traffic.atomic, hflying, Sent.invocation?]
      have hthrow := Atomic.Step.throw hhead (p.loopback_of_error hrun)
      simpa [Traffic.atomic] using hthrow

/-- A piece of a request arrives at the provider. -/
theorem Tracks.advance_deliverRequest (hT : Tracks issued w t) {wsi : ℕ} (hwsi : w.wsi = some wsi)
    (size : ℕ) (isFinal : Bool) (hne : w.toProvider ≠ [])
    (hissued : ∀ credentials, Issues p w (.deliverRequest size isFinal) credentials →
      issued credentials) :
    Advance p s issued w t
      ({ w with toProvider := (delivered size isFinal w.toProvider).2 }.onClient
      p.handler (.receive wsi (delivered size isFinal w.toProvider).1 isFinal)) := by
  have hsome : w.wsi ≠ none := by simp [hwsi]
  cases isFinal with
  | false =>
      rw [onClient_of_silent [] rfl rfl]
      exact ⟨t, hT.receive_part size hne, .refl⟩
  | true =>
      obtain ⟨m, flying, hflying, hm, hchannel⟩ := hT.flying_eq hne
      cases hrun : p.handler m.message w.client.state with
      | ok resp s' =>
          rw [onClient_executed wsi size hm hrun]
          refine hT.advance_executed hflying hchannel hsome hrun ?_ [.callbackOnWritable wsi]
          intro hcall credentials hok
          refine hissued credentials ⟨size, m.id, s', rfl, ?_, hok⟩
          rw [hm, Sent.message, hcall]
      | error e s' =>
          rw [onClient_threw wsi size hm hrun]
          exact hT.advance_threw hflying hchannel hsome hrun

/-- The first response is on its way, or is lost when the service is not there. -/
theorem Tracks.advance_respond (hT : Tracks issued w t) {writer : MessageWriter}
    {rest : List MessageWriter} (hr : w.client.requests = writer :: rest) (hwsi : w.wsi ≠ none) :
    ∃ t', Tracks issued { w with
          client := { w.client with requests := rest }
          toService := if w.server.connection.isSome then w.toService ++ [writer.data]
            else w.toService } t' ∧
      (atomic p s).Run (t.atomic w) [] (t'.atomic { w with
          client := { w.client with requests := rest }
          toService := if w.server.connection.isSome then w.toService ++ [writer.data]
            else w.toService }) := by
  obtain ⟨r, leaving, hleaving, hwriter, hrest⟩ := hT.leaving_eq hr
  by_cases hconnection : w.server.connection.isSome
  · simp only [if_pos hconnection]
    refine ⟨_, hT.responded hleaving hwriter hrest hwsi
      (Option.isSome_iff_ne_none.1 hconnection), ?_⟩
    have hsame : ({ t with arriving := t.arriving ++ [r], leaving := leaving } : Traffic).atomic
        { w with
          client := { w.client with requests := rest }
          toService := w.toService ++ [writer.data] } = t.atomic w := by
      simp [Traffic.atomic, hleaving]
    rw [hsame]
    exact .refl
  · simp only [if_neg hconnection]
    have hpart : ({ t with leaving := leaving } : Traffic).Part t :=
      { Traffic.Part.refl t with leaving := hleaving ▸ List.sublist_cons_self .. }
    refine ⟨{ t with leaving := leaving }, ⟨?_, hT.booked.part hpart id rfl le_rfl⟩,
      .single (hpart.step p rfl rfl rfl)⟩
    exact { hT.located with
      leaving := hrest
      clientClosed := fun h => absurd h hwsi }

theorem Tracks.advance_writeable (hT : Tracks issued w t) {wsi : ℕ} (hwsi : w.wsi = some wsi) :
    Advance p s issued w t (w.onClient p.handler (.writeable wsi)) := by
  have hsome : w.wsi ≠ none := by simp [hwsi]
  unfold World.onClient ClientContext.callback ClientContext.onWriteable
  cases hr : w.client.requests with
  | nil =>
      refine ⟨t, ?_, .refl⟩
      simpa [ClientEffect.written?] using hT
  | cons writer rest =>
      obtain ⟨t', hT', hrun⟩ := hT.advance_respond (p := p) (s := s) hr hsome
      cases rest with
      | nil => exact ⟨t', hT', hrun⟩
      | cons next rest => exact ⟨t', hT', hrun⟩

/-- A response is complete: a promise is kept, or an authentication ends. -/
theorem Tracks.advance_received (hT : Tracks issued w t) {wsi : Wsi}
    (hconnection : w.server.connection = some wsi) (verdict : Bool) (hne : w.toService ≠ []) :
    Advance p s issued w t ({ w with toService := (lastPiece w.toService).2 }.onServer
      (.onReceive wsi (lastPiece w.toService).1 true verdict)) := by
  have hsome : w.server.connection ≠ none := by simp [hconnection]
  obtain ⟨r, arriving, harriving, hr, hchannel⟩ := hT.arriving_eq hne
  cases hpromise : r.promise with
  | none =>
      obtain ⟨credentials, -, hdispatch⟩ := hT.dispatch_none wsi verdict harriving hpromise
      obtain ⟨hwritten, hobserved⟩ := authenticationEffects_silent wsi (clip credentials) verdict
      have hpart : ({ t with arriving := arriving } : Traffic).Part t :=
        { Traffic.Part.refl t with arriving := harriving ▸ List.sublist_cons_self .. }
      have hlabels : (WorldEffect.server (.dispatched r.data) ::
          (authenticationEffects wsi (clip credentials) verdict).map .server).filterMap
            WorldEffect.observed? = [] := by
        rw [List.filterMap_cons_none rfl, observed_server, hobserved]
      rw [onServer_received wsi verdict hr hdispatch hwritten]
      refine ⟨_, hT.authenticated hsome harriving hchannel _ _, ?_⟩
      rw [hlabels]
      exact .single (hpart.step p rfl rfl rfl)
  | some q =>
      obtain ⟨hlookup, hdispatch⟩ := hT.dispatch_some hsome wsi verdict harriving hpromise
      rw [onServer_received wsi verdict hr hdispatch rfl]
      refine ⟨_, hT.answered hsome harriving hchannel hpromise, Lts.Run.single ?_⟩
      change Atomic.Step p _ [_] _
      have hhead : (t.atomic w).answers =
          (q, ⟨r.data, 5⟩) :: (arriving ++ t.leaving).filterMap Reply.answer? := by
        simp [Traffic.atomic, harriving, Reply.answer?, hpromise]
      have hanswer := Atomic.Step.answer (p := p) hhead ⟨r.id, hlookup⟩
      simpa [Traffic.atomic, unresolved_erase hlookup hT.booked.pendingInj] using hanswer

/-- A piece of a response arrives at the service. -/
theorem Tracks.advance_deliverResponse (hT : Tracks issued w t) {wsi : Wsi}
    (hconnection : w.server.connection = some wsi) (size : ℕ) (isFinal verdict : Bool)
    (hne : w.toService ≠ []) :
    Advance p s issued w t ({ w with toService := (delivered size isFinal w.toService).2 }.onServer
      (.onReceive wsi (delivered size isFinal w.toService).1 isFinal verdict)) := by
  cases isFinal with
  | false =>
      rw [onServer_of_silent [] rfl rfl]
      exact ⟨t, hT.response_part size hne (by simp [hconnection]), .refl⟩
  | true => exact hT.advance_received hconnection verdict hne

/-! ### Connections -/

/-- What was on its way to the service is lost. -/
theorem Tracks.advance_serverClosed (hT : Tracks issued w t) {wsi : Wsi}
    (hconnection : w.server.connection = some wsi) :
    Advance p s issued w t ({ w with toService := [] }.onServer (.onClosed wsi)) := by
  have hstep : w.server.step (.onClosed wsi) =
      ({ w.server with connection := none, isAuthenticated := false, shutdownRequested := false },
        []) := if_pos hconnection
  have hworld := onServer_of_silent (w := { w with toService := [] }) _ hstep rfl
  have hpart : ({ t with arriving := [] } : Traffic).Part t :=
    { Traffic.Part.refl t with arriving := List.nil_sublist _ }
  refine hworld ▸ ?_
  refine ⟨{ t with arriving := [] }, ⟨?_, hT.booked.part hpart nofun rfl le_rfl⟩,
    .single (hpart.step p rfl rfl rfl)⟩
  exact { hT.located with
    arriving := rfl
    serverSettled := fun h => absurd rfl h
    serverClosed := fun _ => rfl }

/-- What was on its way to the provider is lost, and what the provider has of it. -/
theorem Tracks.advance_clientClosed (hT : Tracks issued w t) (wsi : ℕ) :
    Advance p s issued w t
      ({ w with toProvider := [], wsi := none }.onClient p.handler (.closed wsi)) := by
  have hpart : ({ t with flying := [], leaving := [] } : Traffic).Part t :=
    { Traffic.Part.refl t with flying := List.nil_sublist _, leaving := List.nil_sublist _ }
  rw [onClient_of_silent [.connectionListener false] rfl rfl]
  refine ⟨{ t with flying := [], leaving := [] },
    ⟨?_, hT.booked.part hpart id rfl le_rfl⟩, .single (hpart.step p rfl rfl rfl)⟩
  exact { hT.located with
    flying := rfl
    leaving := rfl
    clientSettled := .nil _
    clientClosed := fun _ => ⟨rfl, rfl⟩ }

/-- Both ends of a new connection. -/
theorem Tracks.advance_connect (hT : Tracks issued w t) (hconnection : w.server.connection = none)
    (hwsi : w.wsi = none) (hmessage : w.server.currentMessage = []) (wsi : Wsi) (wsi' : ℕ) :
    Advance p s issued w t (w.connect p.handler wsi wsi') := by
  obtain ⟨ht, hclient, -, -⟩ := hT.closed_eq hconnection hwsi
  have hB : Booked issued w.server ⟨[], [], [], t.queued⟩ := ht ▸ hT.booked
  have hleaving : w.client.requests.map MessageWriter.data = [] := by
    rw [(hT.located.clientClosed hwsi).2]
    rfl
  -- the queue as it is after the handshake, and whether credentials are asked for
  have hlocated {s' : ServerHandler} {queued : List Sent}
      (hqueued : s'.requests.map MessageWriter.data = queued.map Sent.message)
      (hbuffer : s'.currentMessage = []) :
      Located { w with server := s', wsi := some wsi', toProvider := [], toService := [] }
        ⟨[], [], [], queued⟩ := {
    queued := hqueued
    flying := rfl
    leaving := hleaving
    arriving := rfl
    clientSettled := fun _ => hclient
    serverSettled := fun _ _ => hbuffer
    clientClosed := nofun
    serverClosed := fun _ => rfl }
  have ho := w.server.step_outcome (.onEstablished wsi)
  cases hstep : w.server.step (.onEstablished wsi) with
  | mk s' effects =>
      rw [hstep] at ho
      have hconnect (hwritten : effects.filterMap ServerEffect.written? = []) :
          w.connect p.handler wsi wsi' =
            ({ w with server := s', wsi := some wsi', toProvider := [], toService := [] },
              effects.map WorldEffect.server ++ [.client (.connectionListener true)]) := by
        unfold World.connect
        rw [onServer_of_silent (w := { w with toProvider := [], toService := [] }) _ hstep hwritten]
        dsimp only
        rw [onClient_of_silent [.connectionListener true] rfl rfl]
        rfl
      cases ho with
      | establishRefused current h =>
          rw [hconnection] at h
          cases h
      | establish h ha =>
          rw [hconnect rfl]
          refine ⟨⟨[], [], [], t.queued⟩, ⟨hlocated hT.located.queued hmessage,
            hB.reconnect rfl rfl⟩, ?_⟩
          have hsame : (⟨[], [], [], t.queued⟩ : Traffic).atomic
              { w with
                server := { w.server with connection := some wsi, id := 0 }, wsi := some wsi'
                toProvider := [], toService := [] } = t.atomic w := by
            rw [ht]
            rfl
          rw [hsame]
          exact .refl
      | establishAsking h ha hne =>
          rw [hconnect rfl]
          refine ⟨⟨[], [], [], t.queued ++ [⟨none, 1, .getCredentials⟩]⟩,
            ⟨hlocated (by simp [hT.located.queued]; rfl) hmessage,
              Booked.reconnect (s := w.server) (hB.ask 1) rfl rfl⟩, ?_⟩
          have hsame : (⟨[], [], [], t.queued ++ [⟨none, 1, .getCredentials⟩]⟩ :
              Traffic).atomic { w with
                server := { w.server with
                  connection := some wsi, id := 1
                  requests := w.server.requests ++ [ServerHandler.getcreds] }
                wsi := some wsi', toProvider := [], toService := [] } = t.atomic w := by
            rw [ht]
            simp [Traffic.atomic, Sent.invocation?]
          rw [hsame]
          exact .refl

end Step

/-! ### Runs -/

/-- A world holds some traffic, and the object is what it makes of it. -/
def Embodies (w : World σ) (a : Atomic σ) : Prop :=
  ∃ t, Tracks AnyCredentials w t ∧ a = t.atomic w

/-- **Every step is one of the object.** -/
theorem Tracks.advance {p : Provider σ} {s : σ} {issued : Bytes → Prop} {w : World σ}
    {t : Traffic} (hT : Tracks issued w t) (e : WorldEvent) {h : List (WorldEntry σ)}
    (hC : WorldContract h ⟨w, e, (w.step p.handler e).2⟩)
    (hissued : ∀ credentials, Issues p w e credentials → issued credentials) :
    Advance p s issued w t (w.step p.handler e) := by
  cases e with
  | perform call =>
      simp only [World.step]
      split_ifs with hcall
      · exact hT.advance_refl
      · exact hT.advance_perform hcall hC
  | poll => exact hT.advance_poll
  | filterConnection wsi headers verdict => exact hT.advance_filterConnection wsi headers verdict
  | connect wsi wsi' =>
      simp only [World.step]
      split_ifs with hclosed
      · exact hT.advance_connect hclosed.1 hclosed.2 (hC hclosed.1) wsi wsi'
      · exact hT.advance_refl
  | writable =>
      simp only [World.step]
      split_ifs with hclosed
      · exact hT.advance_refl
      · exact hT.advance_writable
  | writeable =>
      simp only [World.step]
      cases hwsi : w.wsi with
      | none => exact hT.advance_refl
      | some wsi => exact hT.advance_writeable hwsi
  | deliverRequest size isFinal =>
      simp only [World.step]
      cases hwsi : w.wsi with
      | none => exact hT.advance_refl
      | some wsi =>
          dsimp only
          split_ifs with hne
          · exact hT.advance_refl
          · exact hwsi ▸ hT.advance_deliverRequest hwsi size isFinal hne hissued
  | deliverResponse size isFinal verdict =>
      simp only [World.step]
      cases hconnection : w.server.connection with
      | none => exact hT.advance_refl
      | some wsi =>
          dsimp only
          split_ifs with hne
          · exact hT.advance_refl
          · exact hT.advance_deliverResponse hconnection size isFinal verdict hne
  | serverClosed =>
      simp only [World.step]
      cases hconnection : w.server.connection with
      | none => exact hT.advance_refl
      | some wsi => exact hT.advance_serverClosed hconnection
  | clientClosed =>
      simp only [World.step]
      cases hwsi : w.wsi with
      | none => exact hT.advance_refl
      | some wsi => exact hT.advance_clientClosed wsi

/-- At the start there is no traffic. -/
theorem Tracks.init {issued : Bytes → Prop} (p : Provider σ) (s : σ) (authApp authHdr : Bytes) :
    Tracks issued (world p s authApp authHdr).init ⟨[], [], [], []⟩ where
  located := ⟨rfl, rfl, rfl, rfl, .nil _, fun _ => .nil _, fun _ => ⟨rfl, rfl⟩, fun _ => rfl⟩
  booked := ⟨nofun, nofun, List.nodup_nil, nofun, fun _ => nofun, nofun, nofun, nofun⟩

/-- The service and its provider refine the object. -/
theorem world_refinement (p : Provider σ) (s : σ) (authApp authHdr : Bytes) :
    Refinement (world p s authApp authHdr) (atomic p s) WorldContract observed Embodies where
  init := by
    refine ⟨⟨[], [], [], []⟩, .init p s authApp authHdr, ?_⟩
    simp [atomic, Traffic.atomic, world, ServerHandler.make]
  step h w e a := by
    rintro ⟨t, hT, rfl⟩ hC
    obtain ⟨t', hT', hrun⟩ := hT.advance (s := s) e hC fun _ _ => trivial
    exact ⟨_, hrun, t', hT', rfl⟩

/-- **The calls of the service take effect at once.**  In every run of the service and
its provider, whatever is called when and whatever the network does, what the callers
of `perform` see could have been seen of the object that executes one call at a time,
and the filesystem of the provider is in the state the object is in. -/
theorem world_linearizable (p : Provider σ) (s : σ) (authApp authHdr : Bytes)
    {evs : List WorldEvent} (hC : (world p s authApp authHdr).Admits WorldContract evs) :
    ∃ a, (atomic p s).Run (atomic p s).init
        (((world p s authApp authHdr).trace evs).flatMap observed) a ∧
      a.state = ((world p s authApp authHdr).state evs).client.state := by
  obtain ⟨a, hrun, t, -, rfl⟩ := (world_refinement p s authApp authHdr).run hC
  exact ⟨_, hrun, rfl⟩

/-- Two calls are made before the first is answered, and the messages arrive in
pieces. -/
def overlappingRun : List WorldEvent :=
  [.filterConnection 1 .empty true, .connect 1 7,
    .perform (.unlink [0x2f]), .perform (.access [0x2f] 0), .poll, .writable, .writable,
    .deliverRequest 3 false, .deliverRequest 0 true, .writeable, .deliverRequest 0 true,
    .deliverResponse 6 false false, .deliverResponse 0 true false, .writeable,
    .deliverResponse 0 true false]

theorem world_linearizable_overlapping :
    ∃ a, (atomic Provider.empty ()).Run (atomic Provider.empty ()).init
      [.invoked 0 ((FsCall.unlink [0x2f]).request.setId 1),
        .invoked 1 ((FsCall.access [0x2f] 0).request.setId 2),
        .returned 0 ⟨[0, 0, 0, 1, 0x8f, 0xff, 0xff, 0xff, 0xff], 5⟩,
        .returned 1 ⟨[0, 0, 0, 2, 0x81, 0, 0, 0, 0], 5⟩] a := by
  have hC : (world Provider.empty () [] []).Admits WorldContract overlappingRun := by
    refine ⟨trivial, fun _ => rfl, fun _ => ?_, fun _ => ?_, trivial, trivial, trivial, trivial,
      trivial, trivial, trivial, trivial, trivial, trivial, trivial, trivial⟩ <;> decide
  have hseen : ((world Provider.empty () [] []).trace overlappingRun).flatMap observed =
      [.invoked 0 ((FsCall.unlink [0x2f]).request.setId 1),
        .invoked 1 ((FsCall.access [0x2f] 0).request.setId 2),
        .returned 0 ⟨[0, 0, 0, 1, 0x8f, 0xff, 0xff, 0xff, 0xff], 5⟩,
        .returned 1 ⟨[0, 0, 0, 2, 0x81, 0, 0, 0, 0], 5⟩] := by
    decide
  obtain ⟨a, hrun, -⟩ := world_linearizable Provider.empty () [] [] hC
  exact ⟨a, hseen ▸ hrun⟩

end Webfuse
