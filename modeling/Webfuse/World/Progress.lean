/-
# Every call is answered

While the connection is up, the traffic is a pipeline of four stages: the service
writes a request, the provider receives it and executes it, the provider writes the
response and the service receives it.  A call that is made joins it at the back and has
at most four stages to pass for itself and for every request before it.  No step moves
it back, and whatever else happens, a step of the stage that the front of the traffic is
at moves it on (`Tracks.closer`).

What is asked of the network is that it makes the callbacks it was asked for and
delivers what was written (`FairRound`).  That is enough, as both ends ask when they
have to: the loop of the service polls, and `poll` asks for a callback while anything is
queued; the provider asks when it queues a response and when it leaves one in the queue
(`Poised.step`).  So every call whose own operation returns is answered (`world_answers`).
-/

import Webfuse.Basis.Fairness
import Webfuse.Basis.Pipeline
import Webfuse.World.Sequential

namespace Webfuse

open Basis MessageWriter

variable {σ : Type}

/-- The requests and responses on their way, each with the number of stages it has to
pass. -/
def Traffic.stages (t : Traffic) : List (Option Promise × ℕ) :=
  t.arriving.map (fun r => (r.promise, 1)) ++ (t.leaving.map (fun r => (r.promise, 2)) ++
    (t.flying.map (fun m => (m.promise, 3)) ++ t.queued.map fun m => (m.promise, 4)))

theorem Traffic.forall_stages {t : Traffic} {P : Option Promise × ℕ → Prop} :
    (∀ x ∈ t.stages, P x) ↔
      (∀ r ∈ t.arriving, P (r.promise, 1)) ∧ (∀ r ∈ t.leaving, P (r.promise, 2)) ∧
        (∀ m ∈ t.flying, P (m.promise, 3)) ∧ ∀ m ∈ t.queued, P (m.promise, 4) := by
  simp only [Traffic.stages, List.forall_mem_append, List.forall_mem_map]

/-- The stage that gets its turn with an event. -/
def WorldEvent.stage : WorldEvent → Option ℕ
  | deliverResponse _ true _ => some 1
  | writeable => some 2
  | deliverRequest _ true => some 3
  | writable => some 4
  | _ => none

/-- The stage of the front gets its turn. -/
def Serves (e : WorldEvent) (l : List (Option Promise × ℕ)) : Prop :=
  ∃ x, l.head? = some x ∧ e.stage = some x.2

/-- The connection is up at both ends and is to stay so. -/
structure World.Up (w : World σ) : Prop where
  provider : w.wsi ≠ none
  service : w.server.connection ≠ none
  running : w.server.shutdownRequested = false

/-- The connection does not end, and nobody is rejected. -/
def Calm : WorldEvent → Prop
  | .serverClosed => False
  | .clientClosed => False
  | .deliverResponse _ _ verdict => verdict = true
  | _ => True

/-- The requests of `t'` that are made for `q` are among those of `t`. -/
def Kept (q : Promise) (t t' : Traffic) : Prop :=
  ∀ m ∈ t'.flying ++ t'.queued, m.promise = some q → m ∈ t.flying ++ t.queued

/-- The promise is kept in the step, or comes closer. -/
def Closer (q : Promise) (e : WorldEvent) (t : Traffic) (r : World σ × List WorldEffect) : Prop :=
  (∃ reader, .returned q reader ∈ r.2.filterMap WorldEffect.observed?) ∨
    ∃ t', r.1.Up ∧ Tracks AnyCredentials r.1 t' ∧ Kept q t t' ∧
      Progress (some q) t.stages t'.stages ∧
      (Serves e t.stages → rank (some q) t'.stages < rank (some q) t.stages)

section Closer

variable {p : Provider σ} {w : World σ} {t t' : Traffic} {q : Promise} {e : WorldEvent}
  {r : World σ × List WorldEffect}

theorem Kept.refl (q : Promise) (t : Traffic) : Kept q t t := fun _ hm _ => hm

theorem Kept.of_subset (h : t'.flying ++ t'.queued ⊆ t.flying ++ t.queued) : Kept q t t' :=
  fun _ hm _ => h hm

/-- An event that serves the front is one for the first entry that is at its stage. -/
theorem Serves.front {l₁ l₂ : List (Option Promise × ℕ)} {x : Option Promise} {k : ℕ}
    (h : Serves e (l₁ ++ (x, k) :: l₂)) (hstage : e.stage = some k)
    (hfront : ∀ y ∈ l₁, y.2 ≠ k) : l₁ = [] := by
  obtain ⟨y, hhead, hy⟩ := h
  cases l₁ with
  | nil => rfl
  | cons z l₁ =>
      obtain rfl : z = y := by simpa using hhead
      rw [hstage] at hy
      exact absurd (Option.some.inj hy).symm (hfront z (List.mem_cons_self ..))

/-- The traffic stays as it is in a step that does not serve its front. -/
theorem Closer.stay (hq : Underway (some q) t.stages) (hup : r.1.Up)
    (hT : Tracks AnyCredentials r.1 t) (hserves : ¬ Serves e t.stages) : Closer q e t r :=
  .inr ⟨t, hup, hT, .refl q t, .refl hq, fun h => absurd h hserves⟩

section Move

variable {l₁ l₂ : List (Option Promise × ℕ)} {x : Option Promise} {k : ℕ}

/-- A request or a response passes the stage that gets its turn. -/
theorem Closer.advance (hq : Underway (some q) t.stages) (hup : r.1.Up)
    (hT : Tracks AnyCredentials r.1 t')
    (hkept : Kept q t t') (hbefore : t.stages = l₁ ++ (x, k + 1) :: l₂)
    (hafter : t'.stages = l₁ ++ (x, k) :: l₂) (hstage : e.stage = some (k + 1))
    (hfront : ∀ y ∈ l₁, y.2 ≠ k + 1) : Closer q e t r := by
  refine .inr ⟨t', hup, hT, hkept, ?_, ?_⟩
  · rw [hbefore, hafter]
    exact progress_advance (hbefore ▸ hq)
  · intro hserves
    obtain rfl := (hbefore ▸ hserves).front hstage hfront
    rw [hbefore, hafter]
    exact rank_advance_lt nofun

/-- A request or a response that is not waited for leaves at the stage that gets its
turn. -/
theorem Closer.leave (hq : Underway (some q) t.stages) (hup : r.1.Up)
    (hT : Tracks AnyCredentials r.1 t')
    (hkept : Kept q t t') (hbefore : t.stages = l₁ ++ (x, k + 1) :: l₂)
    (hafter : t'.stages = l₁ ++ l₂) (hx : x ≠ some q) (hstage : e.stage = some (k + 1))
    (hfront : ∀ y ∈ l₁, y.2 ≠ k + 1) : Closer q e t r := by
  obtain ⟨hprogress, hlt⟩ := progress_leave (hbefore ▸ hq) hx
  refine .inr ⟨t', hup, hT, hkept, ?_, ?_⟩
  · rwa [hbefore, hafter]
  · intro hserves
    rw [hbefore, hafter]
    exact hlt ((hbefore ▸ hserves).front hstage hfront)

end Move

/-- An event of no stage serves none. -/
theorem not_serves {l : List (Option Promise × ℕ)} (h : e.stage = none) : ¬ Serves e l := by
  rintro ⟨x, -, hx⟩
  rw [h] at hx
  cases hx

/-- A stage at which nothing is is not that of the front. -/
theorem not_serves_of_forall {l : List (Option Promise × ℕ)} {k : ℕ} (h : e.stage = some k)
    (hl : ∀ x ∈ l, x.2 ≠ k) : ¬ Serves e l := by
  rintro ⟨x, hhead, hx⟩
  rw [h] at hx
  exact hl x (List.mem_of_mem_head? hhead) (Option.some.inj hx).symm

/-! ### Steps -/

/-- The request of a call whose operation returns is answered. -/
theorem Provider.handler_returns {m : Sent} (h : Returning (p.invoke m.call.decoded)) (s : σ) :
    ∃ resp s', p.handler m.message s = .ok resp s' := by
  unfold Sent.message
  rw [p.handler_request]
  obtain ⟨resp, s', hserve, -⟩ | ⟨e, s', -, hinvoke⟩ :=
    p.serve_cases (responseHeader m.call.requestType m.id) m.call.decoded s
  · exact ⟨resp, s', hserve⟩
  · obtain ⟨_, s'', hok⟩ := h s
    rw [hinvoke] at hok
    cases hok

/-- What waits in the traffic was promised. -/
theorem Tracks.lt_promises (hT : Tracks AnyCredentials w t) (hq : Underway (some q) t.stages) :
    q < w.server.promises := by
  refine hT.booked.made q ?_
  obtain ⟨n, hn⟩ := hq
  have hall : ∀ x ∈ t.stages, ∀ q, x.1 = some q → q ∈ t.promises := by
    refine Traffic.forall_stages.2 ⟨?_, ?_, ?_, ?_⟩ <;> intro y hy q hpromise <;>
      exact List.mem_filterMap.2 ⟨y.tag, by simp [Traffic.tags, List.mem_map_of_mem, hy], hpromise⟩
  exact hall _ hn q rfl

/-- Nothing is at the stage of a queue or a channel that is empty. -/
theorem Tracks.queued_nil_iff (hT : Tracks AnyCredentials w t) :
    t.queued = [] ↔ w.server.requests = [] := by
  rw [← List.map_eq_nil_iff (f := Sent.message), ← hT.located.queued, List.map_eq_nil_iff]

theorem Tracks.leaving_nil_iff (hT : Tracks AnyCredentials w t) :
    t.leaving = [] ↔ w.client.requests = [] := by
  rw [← List.map_eq_nil_iff (f := Reply.data), ← hT.located.leaving, List.map_eq_nil_iff]

theorem Tracks.flying_nil_iff (hT : Tracks AnyCredentials w t) :
    t.flying = [] ↔ w.toProvider = [] := by
  rw [← List.map_eq_nil_iff (f := Sent.message), ← hT.located.flying, assembled_eq_nil]

theorem Tracks.arriving_nil_iff (hT : Tracks AnyCredentials w t) :
    t.arriving = [] ↔ w.toService = [] := by
  rw [← List.map_eq_nil_iff (f := Reply.data), ← hT.located.arriving, assembled_eq_nil]

theorem not_serves_writable (h : t.queued = []) : ¬ Serves .writable t.stages :=
  not_serves_of_forall rfl (Traffic.forall_stages.2 (by simp [h]))

theorem not_serves_writeable (h : t.leaving = []) : ¬ Serves .writeable t.stages :=
  not_serves_of_forall rfl (Traffic.forall_stages.2 (by simp [h]))

theorem not_serves_deliverRequest (h : t.flying = []) (size : ℕ) (isFinal : Bool) :
    ¬ Serves (.deliverRequest size isFinal) t.stages := by
  cases isFinal with
  | false => exact not_serves rfl
  | true => exact not_serves_of_forall rfl (Traffic.forall_stages.2 (by simp [h]))

theorem not_serves_deliverResponse (h : t.arriving = []) (size : ℕ) (isFinal verdict : Bool) :
    ¬ Serves (.deliverResponse size isFinal verdict) t.stages := by
  cases isFinal with
  | false => exact not_serves rfl
  | true => exact not_serves_of_forall rfl (Traffic.forall_stages.2 (by simp [h]))

/-- A request that is queued joins the traffic at its back. -/
theorem Tracks.closer_perform (hT : Tracks AnyCredentials w t) (hup : w.Up)
    (hq : Underway (some q) t.stages) {call : FsCall} (hcall : call ≠ .getCredentials)
    (hid : w.server.isAuthenticated = true → w.server.nextId.id ∉ w.server.pendingResponses) :
    Closer q (.perform call) t (w.onServer (.perform call.request)) := by
  have ho := w.server.step_outcome (.perform call.request)
  cases hstep : w.server.step (.perform call.request) with
  | mk s' effects =>
      rw [hstep] at ho
      cases ho with
      | performRefused h =>
          rw [onServer_of_silent _ hstep rfl]
          exact .stay hq ⟨hup.provider, hup.service, hup.running⟩
            (hT.quiet rfl rfl rfl rfl (Nat.le_succ _)) (not_serves rfl)
      | performCollision h hin => exact absurd hin (hid h)
      | performRegister h hout =>
          rw [onServer_of_silent _ hstep rfl]
          refine .inr ⟨_, ⟨hup.provider, hup.service, hup.running⟩, hT.performed hcall hout, ?_, ?_,
            fun h => absurd h (not_serves rfl)⟩
          · intro m hm hpromise
            rw [← List.append_assoc] at hm
            rcases List.mem_append.1 hm with hm | hm
            · exact hm
            · obtain rfl := List.mem_singleton.1 hm
              cases hpromise
              exact absurd (hT.lt_promises hq) (lt_irrefl _)
          · have hjoin := Progress.join hq [(some w.server.promises, 4)]
            simpa [Traffic.stages] using hjoin

theorem Tracks.closer_poll (hT : Tracks AnyCredentials w t) (hup : w.Up)
    (hq : Underway (some q) t.stages) :
    Closer q .poll t (w.onServer .poll) := by
  have ho := w.server.step_outcome .poll
  cases hstep : w.server.step .poll with
  | mk s' effects =>
      rw [hstep] at ho
      cases ho with
      | pollIdle h =>
          rw [onServer_of_silent _ hstep rfl]
          exact .stay hq hup hT (not_serves rfl)
      | pollConnected current hr h =>
          rw [onServer_of_silent _ hstep rfl]
          exact .stay hq hup hT (not_serves rfl)
      | pollClear hr h => exact absurd h hup.service

theorem Tracks.closer_filterConnection (hT : Tracks AnyCredentials w t) (hup : w.Up)
    (hq : Underway (some q) t.stages) (wsi : Wsi) (headers : Headers) (verdict : Bool) :
    Closer q (.filterConnection wsi headers verdict) t
      (w.onServer (.filterConnection wsi headers verdict)) := by
  have ho := w.server.step_outcome (.filterConnection wsi headers verdict)
  cases hstep : w.server.step (.filterConnection wsi headers verdict) with
  | mk s' effects =>
      rw [hstep] at ho
      have hstay (isAuthenticated : Bool) (hwritten : effects.filterMap ServerEffect.written? = [])
          (hs : s' = { w.server with isAuthenticated := isAuthenticated }) :
          Closer q (.filterConnection wsi headers verdict) t
            (w.onServer (.filterConnection wsi headers verdict)) := by
        subst hs
        rw [onServer_of_silent _ hstep hwritten]
        exact .stay hq ⟨hup.provider, hup.service, hup.running⟩ (hT.quiet rfl rfl rfl rfl le_rfl)
          (not_serves rfl)
      cases ho with
      | filterDisabled h => exact hstay true rfl rfl
      | filterWithoutToken h => exact hstay false rfl rfl
      | filterWithToken h token => exact hstay verdict rfl rfl

/-- The first request that is queued is written. -/
theorem Tracks.closer_writable (hT : Tracks AnyCredentials w t) (hup : w.Up)
    (hq : Underway (some q) t.stages) :
    Closer q .writable t (w.onServer .onWritable) := by
  have ho := w.server.step_outcome .onWritable
  cases hstep : w.server.step .onWritable with
  | mk s' effects =>
      rw [hstep] at ho
      cases ho with
      | writableIdle code h =>
          rw [onServer_of_silent _ hstep rfl]
          rcases h with h | h
          · exact absurd (hup.running.symm.trans h) Bool.false_ne_true
          · exact .stay hq hup hT (not_serves_writable (hT.queued_nil_iff.2 h))
      | writableWrite writer rest hr hs =>
          obtain ⟨m, queued, hqueued, hm, hrest⟩ := hT.queued_eq hr
          have hwritten : (ServerEffect.write w.server.connection writer.data ::
              if rest = [] then [.returned 0]
              else [.callbackOnWritable w.server.connection, .returned 0]).filterMap
                ServerEffect.written? = [writer.data] := by
            split_ifs <;> rfl
          have hbefore : t.stages = (t.arriving.map (fun r => (r.promise, 1)) ++
              (t.leaving.map (fun r => (r.promise, 2)) ++ t.flying.map fun m => (m.promise, 3))) ++
                (m.promise, 4) :: queued.map fun m => (m.promise, 4) := by
            simp [Traffic.stages, hqueued]
          rw [onServer_eq hstep, hwritten, if_pos (Option.isSome_iff_ne_none.2 hup.provider)]
          refine .advance hq ⟨hup.provider, hup.service, hup.running⟩
            (hT.written hqueued hm hrest hup.provider) (.of_subset ?_) hbefore ?_ rfl ?_
          · simp [hqueued]
          · simp [Traffic.stages]
          · simp only [List.forall_mem_append, List.forall_mem_map]
            simp

/-- The first request on its way is executed, or a part of it arrives. -/
theorem Tracks.closer_deliverRequest (hT : Tracks AnyCredentials w t) (hup : w.Up)
    (hreturns : ∀ m ∈ t.flying ++ t.queued, m.promise = some q →
      Returning (p.invoke m.call.decoded)) (hq : Underway (some q) t.stages) (wsi : ℕ) (size : ℕ)
    (isFinal : Bool) (hne : w.toProvider ≠ []) :
    Closer q (.deliverRequest size isFinal) t
      ({ w with toProvider := (delivered size isFinal w.toProvider).2 }.onClient
        p.handler (.receive wsi (delivered size isFinal w.toProvider).1 isFinal)) := by
  cases isFinal with
  | false =>
      rw [onClient_of_silent [] rfl rfl]
      exact .stay hq ⟨hup.provider, hup.service, hup.running⟩ (hT.receive_part size hne)
        (not_serves rfl)
  | true =>
      obtain ⟨m, flying, hflying, hm, hchannel⟩ := hT.flying_eq hne
      have hbefore : t.stages = (t.arriving.map (fun r => (r.promise, 1)) ++
          t.leaving.map fun r => (r.promise, 2)) ++
            (m.promise, 3) :: (flying.map (fun m => (m.promise, 3)) ++
              t.queued.map fun m => (m.promise, 4)) := by
        simp [Traffic.stages, hflying]
      have hfront : ∀ y ∈ t.arriving.map (fun r => (r.promise, 1)) ++
          t.leaving.map fun r => (r.promise, 2), y.2 ≠ 3 := by
        simp only [List.forall_mem_append, List.forall_mem_map]
        simp
      have hsubset : flying ++ t.queued ⊆ t.flying ++ t.queued := by simp [hflying]
      cases hrun : p.handler m.message w.client.state with
      | ok resp s' =>
          rw [onClient_executed wsi size hm hrun]
          refine .advance hq ⟨hup.provider, hup.service, hup.running⟩
            (hT.executed hflying hchannel hup.provider hrun fun _ _ _ => trivial)
            (.of_subset hsubset) hbefore ?_ rfl hfront
          simp [Traffic.stages]
      | error e s' =>
          rw [onClient_threw wsi size hm hrun]
          refine .leave hq ⟨hup.provider, hup.service, hup.running⟩
            (hT.threw hflying hchannel hup.provider s') (.of_subset hsubset) hbefore ?_ ?_ rfl
            hfront
          · simp [Traffic.stages]
          · intro hpromise
            obtain ⟨resp, s'', hok⟩ :=
              p.handler_returns (hreturns m (by simp [hflying]) hpromise) w.client.state
            cases hrun.symm.trans hok

/-- The first response that is queued is written. -/
theorem Tracks.closer_writeable (hT : Tracks AnyCredentials w t) (hup : w.Up)
    (hq : Underway (some q) t.stages) (handler : Bytes → EStateM Exn σ MessageWriter) (wsi : ℕ) :
    Closer q .writeable t (w.onClient handler (.writeable wsi)) := by
  cases hr : w.client.requests with
  | nil =>
      have hcallback : w.client.callback handler (.writeable wsi) = (w.client, []) := by
        simp only [ClientContext.callback, ClientContext.onWriteable, hr]
      rw [onClient_of_silent [] hcallback rfl]
      exact .stay hq hup hT (not_serves_writeable (hT.leaving_nil_iff.2 hr))
  | cons writer rest =>
      obtain ⟨r, leaving, hleaving, hwriter, hrest⟩ := hT.leaving_eq hr
      have hworld : (w.onClient handler (.writeable wsi)).1 = { w with
          client := { w.client with requests := rest }
          toService := w.toService ++ [writer.data] } := by
        have hsome := Option.isSome_iff_ne_none.2 hup.service
        cases rest <;> simp [World.onClient, ClientContext.callback, ClientContext.onWriteable, hr,
          hsome, ClientEffect.written?]
      have hT' := hT.responded hleaving hwriter hrest hup.provider hup.service
      rw [← hworld] at hT'
      have hbefore : t.stages = t.arriving.map (fun r => (r.promise, 1)) ++
          (r.promise, 2) :: (leaving.map (fun r => (r.promise, 2)) ++
            (t.flying.map (fun m => (m.promise, 3)) ++ t.queued.map fun m => (m.promise, 4))) := by
        simp [Traffic.stages, hleaving]
      refine .advance hq (hworld ▸ ⟨hup.provider, hup.service, hup.running⟩) hT' (.refl q t) hbefore
        ?_ rfl ?_
      · simp [Traffic.stages]
      · simp only [List.forall_mem_map]
        simp

/-- The first response is received, or a part of it. -/
theorem Tracks.closer_deliverResponse (hT : Tracks AnyCredentials w t) (hup : w.Up)
    (hq : Underway (some q) t.stages) (wsi : Wsi) (size : ℕ) (isFinal : Bool)
    (hne : w.toService ≠ []) :
    Closer q (.deliverResponse size isFinal true) t
      ({ w with toService := (delivered size isFinal w.toService).2 }.onServer
        (.onReceive wsi (delivered size isFinal w.toService).1 isFinal true)) := by
  cases isFinal with
  | false =>
      rw [onServer_of_silent [] rfl rfl]
      exact .stay hq ⟨hup.provider, hup.service, hup.running⟩
        (hT.response_part size hne hup.service) (not_serves rfl)
  | true =>
      obtain ⟨r, arriving, harriving, hr, hchannel⟩ := hT.arriving_eq hne
      have hbefore : t.stages =
          [] ++ (r.promise, 1) :: ({ t with arriving := arriving } : Traffic).stages := by
        simp [Traffic.stages, harriving]
      change Closer q _ t ({ w with toService := (lastPiece w.toService).2 }.onServer
        (.onReceive wsi (lastPiece w.toService).1 true true))
      cases hpromise : r.promise with
      | none =>
          obtain ⟨credentials, -, hdispatch⟩ := hT.dispatch_none wsi true harriving hpromise
          rw [onServer_received wsi true hr hdispatch rfl]
          refine .leave hq ⟨hup.provider, hup.service, (Bool.or_false _).trans hup.running⟩
            (hT.authenticated hup.service harriving hchannel _ _)
            (.refl q t) hbefore rfl ?_ rfl nofun
          simp [hpromise]
      | some q' =>
          obtain ⟨hlookup, hdispatch⟩ := hT.dispatch_some hup.service wsi true harriving hpromise
          rw [onServer_received wsi true hr hdispatch rfl]
          by_cases hself : q' = q
          · subst hself
            exact .inl ⟨⟨r.data, 5⟩, List.mem_cons_self ..⟩
          · refine .leave hq ⟨hup.provider, hup.service, hup.running⟩
              (hT.answered hup.service harriving hchannel hpromise) (.refl q t) hbefore rfl ?_ rfl
              nofun
            rw [hpromise]
            exact fun h => hself (Option.some.inj h)

/-- **Every step keeps the promise or brings it closer**, and one that serves the front
does. -/
theorem Tracks.closer (hT : Tracks AnyCredentials w t) (hup : w.Up)
    (hreturns : ∀ m ∈ t.flying ++ t.queued, m.promise = some q →
      Returning (p.invoke m.call.decoded))
    (hq : Underway (some q) t.stages) (e : WorldEvent) (he : Calm e) {h : List (WorldEntry σ)}
    (hC : WorldContract h ⟨w, e, (w.step p.handler e).2⟩) :
    Closer q e t (w.step p.handler e) := by
  cases e with
  | perform call =>
      simp only [World.step]
      split_ifs with hcall
      · exact .stay hq hup hT (not_serves rfl)
      · exact hT.closer_perform hup hq hcall hC
  | poll => exact hT.closer_poll hup hq
  | filterConnection wsi headers verdict =>
      exact hT.closer_filterConnection hup hq wsi headers verdict
  | connect wsi wsi' =>
      simp only [World.step]
      rw [if_neg fun h => hup.service h.1]
      exact .stay hq hup hT (not_serves rfl)
  | writable =>
      simp only [World.step]
      rw [if_neg hup.service]
      exact hT.closer_writable hup hq
  | writeable =>
      simp only [World.step]
      cases hwsi : w.wsi with
      | none => exact absurd hwsi hup.provider
      | some wsi => exact hT.closer_writeable hup hq _ wsi
  | deliverRequest size isFinal =>
      simp only [World.step]
      cases hwsi : w.wsi with
      | none => exact absurd hwsi hup.provider
      | some wsi =>
          dsimp only
          split_ifs with hne
          · exact .stay hq hup hT
              (not_serves_deliverRequest (hT.flying_nil_iff.2 hne) size isFinal)
          · exact hwsi ▸ hT.closer_deliverRequest hup hreturns hq wsi size isFinal hne
  | deliverResponse size isFinal verdict =>
      obtain rfl : verdict = true := he
      simp only [World.step]
      cases hconnection : w.server.connection with
      | none => exact absurd hconnection hup.service
      | some wsi =>
          dsimp only
          split_ifs with hne
          · exact .stay hq hup hT
              (not_serves_deliverResponse (hT.arriving_nil_iff.2 hne) size isFinal true)
          · exact hT.closer_deliverResponse hup hq wsi size isFinal hne
  | serverClosed => exact he.elim
  | clientClosed => exact he.elim

end Closer

/-! ### Callbacks that are asked for -/

/-- The provider has asked for a writable callback, and none was made since. -/
def Asked (h : List (WorldEntry σ)) : Prop :=
  ∃ (h₁ : List (WorldEntry σ)) (x : WorldEntry σ) (h₂ : List (WorldEntry σ)) (wsi : ℕ),
    h = h₁ ++ x :: h₂ ∧ WorldEffect.client (.callbackOnWritable wsi) ∈ x.effects ∧
      ∀ y ∈ h₂, y.event ≠ .writeable

/-- A provider with responses is connected and has asked for a callback. -/
def Poised (h : List (WorldEntry σ)) (w : World σ) : Prop :=
  w.client.requests ≠ [] → w.wsi ≠ none ∧ Asked h

section Poised

variable {handler : Bytes → EStateM Exn σ MessageWriter} {h : List (WorldEntry σ)} {w : World σ}

theorem Asked.append (hA : Asked h) {x : WorldEntry σ} (hx : x.event ≠ .writeable) :
    Asked (h ++ [x]) := by
  obtain ⟨h₁, y, h₂, wsi, rfl, hasks, hnone⟩ := hA
  refine ⟨h₁, y, h₂ ++ [x], wsi, by simp, hasks, ?_⟩
  intro z hz
  rcases List.mem_append.1 hz with hz | hz
  · exact hnone z hz
  · obtain rfl := List.mem_singleton.1 hz
    exact hx

theorem asked_last {x : WorldEntry σ} (wsi : ℕ)
    (hx : .client (.callbackOnWritable wsi) ∈ x.effects) : Asked (h ++ [x]) :=
  ⟨h, x, [], wsi, rfl, hx, fun _ hy => absurd hy List.not_mem_nil⟩

/-- A step that leaves the provider as it is. -/
theorem Poised.frame (hP : Poised h w) {x : WorldEntry σ} {w' : World σ}
    (hx : x.event ≠ .writeable) (hrequests : w'.client.requests = w.client.requests)
    (hwsi : w.wsi ≠ none → w'.wsi ≠ none) : Poised (h ++ [x]) w' := by
  intro hne
  obtain ⟨hsome, hasked⟩ := hP (hrequests ▸ hne)
  exact ⟨hwsi hsome, hasked.append hx⟩

theorem Poised.of_nil {w : World σ} (hnil : w.client.requests = []) : Poised h w :=
  fun hne => absurd hnil hne

/-- A callback is made: what is left in the queue is asked for again. -/
theorem Poised.writeable (hP : Poised h w) :
    Poised (h ++ [⟨w, .writeable, (w.step handler .writeable).2⟩])
      (w.step handler .writeable).1 := by
  simp only [World.step]
  cases hwsi : w.wsi with
  | none =>
      refine .of_nil ?_
      by_contra hne
      exact (hP hne).1 hwsi
  | some wsi =>
      cases hr : w.client.requests with
      | nil =>
          refine .of_nil ?_
          simp [World.onClient, ClientContext.callback, ClientContext.onWriteable, hr]
      | cons writer rest =>
          cases rest with
          | nil =>
              refine .of_nil ?_
              simp [World.onClient, ClientContext.callback, ClientContext.onWriteable, hr]
          | cons next rest =>
              refine fun _ => ⟨?_, asked_last wsi ?_⟩
              · simp [World.onClient, hwsi]
              · simp [World.onClient, ClientContext.callback, ClientContext.onWriteable, hr]

/-- **The provider asks for a callback as long as it has something to write.** -/
theorem Poised.step (hP : Poised h w) (e : WorldEvent) :
    Poised (h ++ [⟨w, e, (w.step handler e).2⟩]) (w.step handler e).1 := by
  by_cases he : e = .writeable
  · subst he
    exact hP.writeable
  cases e with
  | perform call =>
      simp only [World.step]
      split_ifs with hcall
      · exact hP.frame he rfl id
      · exact hP.frame he rfl id
  | poll => exact hP.frame he rfl id
  | filterConnection wsi headers verdict => exact hP.frame he rfl id
  | connect wsi wsi' =>
      simp only [World.step]
      split_ifs with hclosed
      · exact hP.frame he rfl fun _ => Option.some_ne_none _
      · exact hP.frame he rfl id
  | writable =>
      simp only [World.step]
      split_ifs with hclosed
      · exact hP.frame he rfl id
      · exact hP.frame he rfl id
  | writeable => exact absurd rfl he
  | deliverRequest size isFinal =>
      simp only [World.step]
      cases hwsi : w.wsi with
      | none => exact hP.frame he rfl id
      | some wsi =>
          dsimp only
          split_ifs with hne
          · exact hP.frame he rfl id
          · cases isFinal with
            | false => exact hP.frame he rfl fun _ => Option.some_ne_none _
            | true =>
                simp only [World.onClient, ClientContext.callback, ClientContext.onReceive,
                  if_true]
                cases handler (w.client.currentMessage ++
                    (delivered size true w.toProvider).1) w.client.state with
                | ok resp s' =>
                    exact fun _ => ⟨Option.some_ne_none _, asked_last wsi (List.mem_cons_self ..)⟩
                | error e s' => exact hP.frame he rfl fun _ => Option.some_ne_none _
  | deliverResponse size isFinal verdict =>
      simp only [World.step]
      cases w.server.connection with
      | none => exact hP.frame he rfl id
      | some wsi =>
          dsimp only
          split_ifs with hne
          · exact hP.frame he rfl id
          · exact hP.frame he rfl id
  | serverClosed =>
      simp only [World.step]
      cases w.server.connection with
      | none => exact hP.frame he rfl id
      | some wsi => exact hP.frame he rfl id
  | clientClosed =>
      simp only [World.step]
      cases hwsi : w.wsi with
      | none => exact hP.frame he rfl id
      | some wsi => exact .of_nil rfl

end Poised

/-! ### Rounds -/

/-- The promise `q` is waited for: `n` stages are to be passed until it is kept, and the
front of the traffic is at the stage `k`. -/
def Waiting (p : Provider σ) (q : Promise) (h : List (WorldEntry σ)) (w : World σ) (n k : ℕ) :
    Prop :=
  Poised h w ∧ w.Up ∧ ∃ t, Tracks AnyCredentials w t ∧
    (∀ m ∈ t.flying ++ t.queued, m.promise = some q → Returning (p.invoke m.call.decoded)) ∧
      Underway (some q) t.stages ∧ rank (some q) t.stages = n ∧
        ∃ x, t.stages.head? = some x ∧ x.2 = k

/-- A round of the network: the service goes through its loop, and both ends are called
back as they have asked for; the first message on its way to each of them arrives.
Whatever else happens, the connection does not end. -/
structure FairRound (M : Machine (World σ) WorldEvent WorldEffect) (h : List (WorldEntry σ))
    (w : World σ) (evs : List WorldEvent) : Prop where
  calm : ∀ e ∈ evs, Calm e
  loop : .poll ∈ evs
  writable : ∀ (l₁ : List (WorldEntry σ)) (x : WorldEntry σ) (l₂ : List (WorldEntry σ))
    (wsi : Option Wsi), M.traceFrom w evs = l₁ ++ x :: l₂ → x.event = .poll →
      WorldEffect.server (.callbackOnWritable wsi) ∈ x.effects →
        ∃ y ∈ l₂, y.event = .writable
  writeable : Asked h → .writeable ∈ evs
  request : w.toProvider ≠ [] → ∃ size, .deliverRequest size true ∈ evs
  response : w.toService ≠ [] → ∃ size, .deliverResponse size true true ∈ evs

section Rounds

variable {p : Provider σ} {q : Promise}

/-- The front is at the stage of a queue or a channel in which something is. -/
theorem Traffic.stage_cases {t : Traffic} {x : Option Promise × ℕ} (h : x ∈ t.stages) :
    (x.2 = 1 ∧ t.arriving ≠ []) ∨ (x.2 = 2 ∧ t.leaving ≠ []) ∨ (x.2 = 3 ∧ t.flying ≠ []) ∨
      (x.2 = 4 ∧ t.queued ≠ []) := by
  have hall : ∀ x ∈ t.stages, (x.2 = 1 ∧ t.arriving ≠ []) ∨ (x.2 = 2 ∧ t.leaving ≠ []) ∨
      (x.2 = 3 ∧ t.flying ≠ []) ∨ (x.2 = 4 ∧ t.queued ≠ []) := by
    refine Traffic.forall_stages.2 ⟨?_, ?_, ?_, ?_⟩ <;> intro y hy <;>
      simp [List.ne_nil_of_mem hy]
  exact hall x h

theorem Waiting.pos {h : List (WorldEntry σ)} {w : World σ} {n k : ℕ}
    (hw : Waiting p q h w n k) : 0 < n := by
  obtain ⟨-, -, t, -, -, hq, rfl, -⟩ := hw
  refine rank_pos hq (Traffic.forall_stages.2 ?_)
  simp

theorem waiting_measured (p : Provider σ) (s : σ) (authApp authHdr : Bytes) (q : Promise) :
    Measured (world p s authApp authHdr) WorldContract Calm
      (fun x => ∃ reader, .returned q reader ∈ observed x) (fun e k => e.stage = some k)
      (Waiting p q) where
  pos _ _ _ _ := Waiting.pos
  step := by
    rintro h w n k e ⟨hpoised, hup, t, hT, hreturns, hq, rfl, x, hhead, rfl⟩ he hC
    rcases hT.closer hup hreturns hq e he hC with hdone | ⟨t', hup', hT', hkept, hprogress, hlt⟩
    · exact .inl hdone
    · obtain ⟨hq', hrank⟩ := hprogress
      obtain ⟨x', hhead'⟩ := Option.ne_none_iff_exists'.1 (mt List.head?_eq_none_iff.1 hq'.ne_nil)
      refine .inr ⟨_, x'.2, ⟨hpoised.step e, hup', t', hT', ?_, hq', rfl, x', hhead', rfl⟩, ?_⟩
      · exact fun m hm hpromise => hreturns m (hkept m hm hpromise) hpromise
      · rcases hrank with hless | ⟨heq, hsame⟩
        · exact .inl hless
        · rw [hhead', hhead] at hsame
          cases hsame
          exact .inr ⟨heq, rfl, fun hserves => (hlt ⟨_, hhead, hserves⟩).ne heq⟩

/-- **In a fair round the stage of the front gets its turn**, unless the front moves
before. -/
theorem FairRound.serves {M : Machine (World σ) WorldEvent WorldEffect}
    (hM : ∀ w e, M.step w e = w.step p.handler e) {h : List (WorldEntry σ)} {w : World σ}
    {evs : List WorldEvent} (hF : FairRound M h w evs) {n k : ℕ} (hw : Waiting p q h w n k)
    (hidle : ∀ x ∈ M.traceFrom w evs, ∃ h', Waiting p q h' x.pre n k) :
    ∃ x ∈ M.traceFrom w evs, x.event.stage = some k := by
  have hturn {e : WorldEvent} (he : e ∈ evs) (hstage : e.stage = some k) :
      ∃ x ∈ M.traceFrom w evs, x.event.stage = some k := by
    rw [← M.map_event_traceFrom w evs] at he
    obtain ⟨x, hx, rfl⟩ := List.mem_map.1 he
    exact ⟨x, hx, hstage⟩
  obtain ⟨hpoised, hup, t, hT, -, -, -, x, hhead, rfl⟩ := hw
  obtain ⟨hk, hne⟩ | ⟨hk, hne⟩ | ⟨hk, hne⟩ | ⟨hk, -⟩ :=
    Traffic.stage_cases (List.mem_of_mem_head? hhead)
  · obtain ⟨size, he⟩ := hF.response (mt hT.arriving_nil_iff.2 hne)
    exact hturn he (congrArg some hk.symm)
  · exact hturn (hF.writeable (hpoised (mt hT.leaving_nil_iff.2 hne)).2) (congrArg some hk.symm)
  · obtain ⟨size, he⟩ := hF.request (mt hT.flying_nil_iff.2 hne)
    exact hturn he (congrArg some hk.symm)
  · -- the loop polls, and as the queue is still not empty it asks for a callback
    obtain ⟨y, hy, hpoll⟩ : ∃ y ∈ M.traceFrom w evs, y.event = .poll := by
      have he := hF.loop
      rw [← M.map_event_traceFrom w evs] at he
      obtain ⟨y, hy, hpoll⟩ := List.mem_map.1 he
      exact ⟨y, hy, hpoll⟩
    obtain ⟨l₁, l₂, hsplit⟩ := List.append_of_mem hy
    obtain ⟨h', -, hup', t', hT', -, -, -, x', hhead', hk'⟩ := hidle y hy
    have hqueued : y.pre.server.requests ≠ [] := by
      refine mt hT'.queued_nil_iff.2 ?_
      have hcases := Traffic.stage_cases (List.mem_of_mem_head? hhead')
      simpa [hk', hk] using hcases
    obtain ⟨wsi, hwsi⟩ := Option.ne_none_iff_exists'.1 hup'.service
    have heffects : y.effects = [.server (.callbackOnWritable (some wsi))] := by
      rw [Machine.eq_entry_of_mem hy, Machine.entry, hM, hpoll]
      simp [World.step, World.onServer, ServerHandler.step, ServerHandler.poll, hqueued, hwsi]
    obtain ⟨z, hz, hwritable⟩ := hF.writable l₁ y l₂ (some wsi) hsplit hpoll (by simp [heffects])
    refine ⟨z, by simp [hsplit, hz], ?_⟩
    rw [hwritable, hk]
    rfl

/-- The messages between the methods of the service and the filesystem of the provider. -/
def World.load (w : World σ) : ℕ :=
  w.server.requests.length + w.toProvider.length + w.client.requests.length + w.toService.length

theorem Tracks.length_stages {w : World σ} {t : Traffic} (hT : Tracks AnyCredentials w t) :
    t.stages.length = w.load := by
  have hqueued := congrArg List.length hT.located.queued
  have hflying := congrArg List.length hT.located.flying
  have hleaving := congrArg List.length hT.located.leaving
  have harriving := congrArg List.length hT.located.arriving
  simp only [List.length_map, length_assembled] at hqueued hflying hleaving harriving
  simp only [Traffic.stages, List.length_append, List.length_map, World.load]
  omega

/-- A call that is made joins the traffic. -/
theorem Tracks.waiting {w : World σ} {t : Traffic} (hT : Tracks AnyCredentials w t) (hup : w.Up)
    {call : FsCall} (hcall : call ≠ .getCredentials) (hauth : w.server.isAuthenticated = true)
    (hid : w.server.nextId.id ∉ w.server.pendingResponses)
    (hreturns : Returning (p.invoke call.decoded)) {h : List (WorldEntry σ)}
    (hpoised : Poised h (w.step p.handler (.perform call)).1) :
    ∃ n k, n ≤ 4 * (w.load + 1) ∧
      Waiting p w.server.promises h (w.step p.handler (.perform call)).1 n k := by
  have hworld : (w.step p.handler (.perform call)).1 = { w with
      server := { w.server with
        promises := w.server.promises + 1
        id := w.server.nextId.id
        requests := w.server.requests ++ [call.request.setId w.server.nextId.id]
        pendingResponses := w.server.pendingResponses.insert w.server.nextId.id
          w.server.promises } } := by
    have ho := w.server.step_outcome (.perform call.request)
    cases hstep : w.server.step (.perform call.request) with
    | mk s' effects =>
        rw [hstep] at ho
        rw [World.step, if_neg hcall]
        cases ho with
        | performRefused h => exact absurd (h.symm.trans hauth) Bool.false_ne_true
        | performCollision h hin => exact absurd hin hid
        | performRegister h hout => rw [onServer_of_silent _ hstep rfl]
  rw [hworld] at hpoised ⊢
  have hT' := hT.performed hcall hid
  have hstages : ({ t with queued := t.queued ++ [⟨some w.server.promises, w.server.nextId.id,
      call⟩] } : Traffic).stages = t.stages ++ [(some w.server.promises, 4)] := by
    simp [Traffic.stages]
  have hq : Underway (some w.server.promises)
      (t.stages ++ [(some w.server.promises, 4)]) := ⟨4, by simp⟩
  have hfour : ∀ x ∈ t.stages ++ [(some w.server.promises, 4)], x.2 ≤ 4 := by
    rw [← hstages]
    refine Traffic.forall_stages.2 ?_
    simp
  have hrank := rank_le (some w.server.promises) hfour
  rw [List.length_append, hT.length_stages] at hrank
  obtain ⟨x, hhead⟩ := Option.ne_none_iff_exists'.1 (mt List.head?_eq_none_iff.1 hq.ne_nil)
  refine ⟨_, x.2, hrank, hpoised, ⟨hup.provider, hup.service, hup.running⟩, _, hT', ?_, ?_, ?_,
    x, ?_, rfl⟩
  · intro m hm hpromise
    rw [← List.append_assoc] at hm
    rcases List.mem_append.1 hm with hm | hm
    · have hmem : w.server.promises ∈ t.promises :=
        List.mem_filterMap.2 ⟨m.tag,
          List.mem_append_right _ (List.mem_map_of_mem hm), hpromise⟩
      exact absurd (hT.booked.made _ hmem) (lt_irrefl _)
    · obtain rfl := List.mem_singleton.1 hm
      exact hreturns
  · rwa [hstages]
  · rw [hstages]
  · rwa [hstages]

/-- **Every call is answered.**  A call whose operation returns, made while the connection
is up and authenticated, is answered after as many fair rounds as there are stages to be
passed by what is on its way, four for each message, and by the call itself, whatever
other calls are made meanwhile and even when operations of other calls throw. -/
theorem world_answers (p : Provider σ) (s : σ) (authApp authHdr : Bytes) {evs : List WorldEvent}
    {call : FsCall} {rounds : List (List WorldEvent)} (hcall : call ≠ .getCredentials)
    (hC : (world p s authApp authHdr).Admits WorldContract
      (evs ++ .perform call :: rounds.flatten))
    (hup : ((world p s authApp authHdr).state evs).Up)
    (hauth : ((world p s authApp authHdr).state evs).server.isAuthenticated = true)
    (hreturns : Returning (p.invoke call.decoded))
    (hrounds : (world p s authApp authHdr).RoundsFrom (FairRound (world p s authApp authHdr))
      ((world p s authApp authHdr).trace (evs ++ [.perform call]))
      ((world p s authApp authHdr).state (evs ++ [.perform call])) rounds)
    (hlen : 4 * (((world p s authApp authHdr).state evs).load + 1) ≤ rounds.length) :
    ∃ reader, .returned ((world p s authApp authHdr).state evs).server.promises reader ∈
      history ((world p s authApp authHdr).trace (evs ++ .perform call :: rounds.flatten)) := by
  have hsplit : evs ++ .perform call :: rounds.flatten =
      (evs ++ [.perform call]) ++ rounds.flatten := by simp
  rw [hsplit] at hC ⊢
  obtain ⟨hCmade, hCrounds⟩ := (Machine.admitsFrom_append _ _ _ _).1 hC
  obtain ⟨hCevs, hperform⟩ := (Machine.admits_append_singleton _ _).1 hCmade
  obtain ⟨a, -, t, hT, -⟩ := (world_refinement p s authApp authHdr).run hCevs
  have hpoised : Poised ((world p s authApp authHdr).trace evs)
      ((world p s authApp authHdr).state evs) :=
    Machine.invariant (M := world p s authApp authHdr) (C := WorldContract) (P := Poised)
      (fun h => absurd rfl h) (fun h w e hP _ => hP.step e) evs hCevs
  obtain ⟨n, k, hn, hw⟩ := hT.waiting hup hcall hauth (hperform hauth) hreturns (hpoised.step _)
  have htrace := (world p s authApp authHdr).trace_append_singleton evs (.perform call)
  have hstate := (world p s authApp authHdr).state_append_singleton evs (.perform call)
  obtain ⟨x, hx, reader, hreader⟩ :=
    (waiting_measured p s authApp authHdr _).happens (fun _ _ _ hF => hF.calm)
      (fun _ _ _ _ _ hw hF => hF.serves (fun _ _ => rfl) hw) (htrace ▸ hstate ▸ hw)
      (hn.trans hlen) hCrounds hrounds
  refine ⟨reader, ?_⟩
  rw [Machine.trace, Machine.traceFrom_append, history, List.mem_flatMap]
  exact ⟨x, List.mem_append_right _ hx, hreader⟩

/-- The loop of the service, and a turn for everything. -/
def turn : List WorldEvent :=
  [.poll, .writable, .deliverRequest 0 true, .writeable, .deliverResponse 0 true true]

theorem turn_fair (M : Machine (World σ) WorldEvent WorldEffect) (h : List (WorldEntry σ))
    (w : World σ) : FairRound M h w turn where
  calm := by simp [turn, Calm]
  loop := by simp [turn]
  writable := by
    intro l₁ x l₂ wsi hsplit hpoll _
    have hevents := congrArg (List.map Entry.event) hsplit
    rw [M.map_event_traceFrom, List.map_append, List.map_cons, hpoll] at hevents
    cases l₁ with
    | nil =>
        obtain ⟨y, l₂, rfl, hy, -⟩ := List.map_eq_cons_iff.1 (List.cons.inj hevents).2.symm
        exact ⟨y, List.mem_cons_self .., hy⟩
    | cons y l₁ =>
        have hmem : WorldEvent.poll ∈ turn.tail := by
          rw [hevents]
          simp
        simp [turn] at hmem
  writeable _ := by simp [turn]
  request _ := ⟨0, by simp [turn]⟩
  response _ := ⟨0, by simp [turn]⟩

/-- A call to the empty filesystem is answered within four turns. -/
theorem world_answers_access :
    ∃ reader, .returned 0 reader ∈ history ((world Provider.empty () [] []).trace
      ([.filterConnection 1 .empty true, .connect 1 7] ++
        .perform (.access [0x2f] 0) :: [turn, turn, turn, turn].flatten)) := by
  refine world_answers Provider.empty () [] [] nofun ?_ ⟨nofun, nofun, rfl⟩ rfl ?_ ?_ le_rfl
  · refine ⟨trivial, fun _ => rfl, fun _ => ?_, ?_⟩
    · decide
    · refine ⟨trivial, trivial, trivial, trivial, trivial, trivial, trivial, trivial, trivial,
        trivial, trivial, trivial, trivial, trivial, trivial, trivial, trivial, trivial, trivial,
        trivial, trivial⟩
  · exact fun s => ⟨(), s, rfl⟩
  · exact ⟨turn_fair _ _ _, turn_fair _ _ _, turn_fair _ _ _, turn_fair _ _ _, trivial⟩

end Rounds

end Webfuse
