/-
# Whose credentials are accepted

With an authenticator, the service takes requests only after a token was accepted.  Two
functions ask the authenticator: `authenticate_via_header`, about the token in the header
of a handshake, and `finish_authentication`, about what a response to `getcreds` carries.
In every run of the service and its provider the second asks about what `get_credentials`
of the provider returned, byte for byte and within the connection in which it is asked
about: no response of an earlier connection, no other message and no part of one is ever
taken for credentials.  So a request is queued only when one of the two accepted since the
service saw the end of its last connection (`world_authentic`).

The service in a run of both takes steps of the machine of `Webfuse.Server.Handler`
(`World.step_server`), so what is known of its outcomes holds here.
-/

import Webfuse.Server.History
import Webfuse.World.Linearizable

namespace Webfuse

open Basis MessageWriter

variable {σ : Type}

def WorldEffect.server? : WorldEffect → Option ServerEffect
  | server o => some o
  | client _ => none

/-- The step of the service in a step of both. -/
def World.serverEvent? (w : World σ) : WorldEvent → Option ServerEvent
  | .perform call => if call = .getCredentials then none else some (.perform call.request)
  | .poll => some .poll
  | .filterConnection wsi headers verdict => some (.filterConnection wsi headers verdict)
  | .connect wsi _ =>
      if w.server.connection = none ∧ w.wsi = none then some (.onEstablished wsi) else none
  | .writable => if w.server.connection = none then none else some .onWritable
  | .writeable => none
  | .deliverRequest _ _ => none
  | .deliverResponse size isFinal verdict =>
      w.server.connection.bind fun wsi =>
        if w.toService = [] then none
        else some (.onReceive wsi (delivered size isFinal w.toService).1 isFinal verdict)
  | .serverClosed => w.server.connection.map .onClosed
  | .clientClosed => none

section Step

variable {p : Provider σ} {w : World σ}

theorem server?_map_server (effects : List ServerEffect) :
    (effects.map WorldEffect.server).filterMap WorldEffect.server? = effects := by
  simp [List.filterMap_map, Function.comp_def, WorldEffect.server?]

theorem server?_map_client (effects : List ClientEffect) :
    (effects.map WorldEffect.client).filterMap WorldEffect.server? = [] := by
  simp [List.filterMap_map, Function.comp_def, WorldEffect.server?]

/-- What happens to the service in a step of both. -/
def ServerPart (w : World σ) (e : Option ServerEvent) (r : World σ × List WorldEffect) : Prop :=
  (r.1.server, r.2.filterMap WorldEffect.server?) = (e.map w.server.step).getD (w.server, [])

theorem ServerPart.none : ServerPart w Option.none (w, []) := rfl

/-- A step of the service, in a world that has the same one. -/
theorem ServerPart.onServer {w' : World σ} (hsame : w'.server = w.server) (e : ServerEvent) :
    ServerPart w (some e) (w'.onServer e) := by
  unfold ServerPart World.onServer
  rw [server?_map_server, hsame]
  rfl

/-- A step of the provider. -/
theorem ServerPart.onClient {w' : World σ} (hsame : w'.server = w.server)
    (handler : Bytes → EStateM Exn σ MessageWriter) (e : ClientEvent) :
    ServerPart w Option.none (w'.onClient handler e) := by
  unfold ServerPart World.onClient
  rw [server?_map_client]
  exact congrArg (·, []) hsame

/-- **The service takes steps of its machine.** -/
theorem World.step_server (w : World σ) (handler : Bytes → EStateM Exn σ MessageWriter)
    (e : WorldEvent) : ServerPart w (w.serverEvent? e) (w.step handler e) := by
  cases e with
  | perform call =>
      simp only [World.step, World.serverEvent?]
      split_ifs with hcall
      · exact .none
      · exact .onServer rfl _
  | poll => exact .onServer rfl _
  | filterConnection wsi headers verdict => exact .onServer rfl _
  | connect wsi wsi' =>
      simp only [World.step, World.serverEvent?]
      split_ifs with hclosed
      · have hserver : ServerPart w _ _ := ServerPart.onServer
          (show { w with toProvider := [], toService := [] }.server = w.server from rfl)
          (.onEstablished wsi)
        unfold ServerPart at hserver ⊢
        unfold World.connect
        rw [← hserver, List.filterMap_append]
        unfold World.onClient
        rw [server?_map_client, List.append_nil]
      · exact .none
  | writable =>
      simp only [World.step, World.serverEvent?]
      split_ifs with hclosed
      · exact .none
      · exact .onServer rfl _
  | writeable =>
      simp only [World.step, World.serverEvent?]
      cases w.wsi with
      | none => exact .none
      | some wsi => exact .onClient rfl _ _
  | deliverRequest size isFinal =>
      simp only [World.step, World.serverEvent?]
      cases w.wsi with
      | none => exact .none
      | some wsi =>
          dsimp only
          split_ifs with hne
          · exact .none
          · exact .onClient rfl _ _
  | deliverResponse size isFinal verdict =>
      simp only [World.step, World.serverEvent?]
      cases w.server.connection with
      | none => exact .none
      | some wsi =>
          dsimp only [Option.bind]
          split_ifs with hne
          · exact .none
          · exact .onServer rfl _
  | serverClosed =>
      simp only [World.step, World.serverEvent?]
      cases w.server.connection with
      | none => exact .none
      | some wsi => exact .onServer rfl _
  | clientClosed =>
      simp only [World.step, World.serverEvent?]
      cases w.wsi with
      | none => exact .none
      | some wsi => exact .onClient rfl _ _

end Step

/-! ### Where a token comes from -/

/-- The step begins a connection. -/
def Connects (x : WorldEntry σ) : Prop :=
  (∃ wsi wsi', x.event = .connect wsi wsi') ∧ x.pre.server.connection = none ∧ x.pre.wsi = none

/-- The service sees the end of its connection. -/
def Ends (x : WorldEntry σ) : Prop := x.event = .serverClosed ∧ x.pre.server.connection ≠ none

/-- The provider returned the credentials, and no connection began since. -/
def IssuedIn (p : Provider σ) (h : List (WorldEntry σ)) (credentials : Bytes) : Prop :=
  ∃ h₁ y h₂, h = h₁ ++ y :: h₂ ∧ Issues p y.pre y.event credentials ∧ ∀ z ∈ h₂, ¬ Connects z

/-- What the authenticator is asked about in the step `x`, after `h`. -/
inductive Presented (p : Provider σ) (h : List (WorldEntry σ)) (x : WorldEntry σ) (token : Bytes)
    (verdict : Bool) : Prop
  /-- The token of a handshake. -/
  | header (wsi : Wsi) (headers : Headers)
      (hevent : x.event = .filterConnection wsi headers verdict)
      (htoken : token = x.pre.server.getAuthToken headers) (hne : token ≠ [])
  /-- What the provider returned in this connection. -/
  | credentials (size : ℕ) (credentials : Bytes)
      (hevent : x.event = .deliverResponse size true verdict) (hissued : IssuedIn p h credentials)
      (htoken : token = clip credentials)

/-- A token was accepted, and the service saw no end of a connection since. -/
def Accepted (p : Provider σ) (h : List (WorldEntry σ)) : Prop :=
  ∃ h₁ y h₂ token, h = h₁ ++ y :: h₂ ∧ .server (.authenticate token true) ∈ y.effects ∧
    Presented p h₁ y token true ∧ ∀ z ∈ h₂, ¬ Ends z

section History

variable {p : Provider σ} {h : List (WorldEntry σ)} {x : WorldEntry σ}

theorem IssuedIn.append {credentials : Bytes} (hissued : IssuedIn p h credentials)
    (hx : ¬ Connects x) : IssuedIn p (h ++ [x]) credentials := by
  obtain ⟨h₁, y, h₂, rfl, hy, hlater⟩ := hissued
  refine ⟨h₁, y, h₂ ++ [x], by simp, hy, ?_⟩
  intro z hz
  rcases List.mem_append.1 hz with hz | hz
  · exact hlater z hz
  · exact List.mem_singleton.1 hz ▸ hx

theorem IssuedIn.last {credentials : Bytes} (hx : Issues p x.pre x.event credentials) :
    IssuedIn p (h ++ [x]) credentials :=
  ⟨h, x, [], rfl, hx, fun _ hz => absurd hz List.not_mem_nil⟩

theorem Accepted.append (haccepted : Accepted p h) (hx : ¬ Ends x) : Accepted p (h ++ [x]) := by
  obtain ⟨h₁, y, h₂, token, rfl, hmem, hy, hlater⟩ := haccepted
  refine ⟨h₁, y, h₂ ++ [x], token, by simp, hmem, hy, ?_⟩
  intro z hz
  rcases List.mem_append.1 hz with hz | hz
  · exact hlater z hz
  · exact List.mem_singleton.1 hz ▸ hx

theorem Accepted.last {token : Bytes} (hmem : .server (.authenticate token true) ∈ x.effects)
    (hx : Presented p h x token true) : Accepted p (h ++ [x]) :=
  ⟨h, x, [], token, rfl, hmem, hx, fun _ hz => absurd hz List.not_mem_nil⟩

end History

/-! ### Steps -/

section Step

variable {p : Provider σ} {issued issued' : Bytes → Prop} {h : List (WorldEntry σ)} {w : World σ}
  {t : Traffic} {e : WorldEvent}

theorem Reply.Proper.mono {r : Reply} (hr : r.Proper issued)
    (hmono : ∀ credentials, issued credentials → issued' credentials) : r.Proper issued' := by
  obtain ⟨type, rest, hdata, htype, hcredentials⟩ := hr
  refine ⟨type, rest, hdata, htype, fun hnone => ?_⟩
  obtain ⟨credentials, hissued, hrest⟩ := hcredentials hnone
  exact ⟨credentials, hmono credentials hissued, hrest⟩

theorem Tracks.mono (hT : Tracks issued w t)
    (hmono : ∀ credentials, issued credentials → issued' credentials) : Tracks issued' w t where
  located := hT.located
  booked := { hT.booked with replies := fun r hr => (hT.booked.replies r hr).mono hmono }

/-- With both ends closed there are no credentials on their way. -/
theorem Tracks.forget (hT : Tracks issued w t) (hconnection : w.server.connection = none)
    (hwsi : w.wsi = none) : Tracks issued' w t where
  located := hT.located
  booked := { hT.booked with
    replies := by
      intro r hr
      rw [(hT.closed_eq hconnection hwsi).1] at hr
      exact absurd hr List.not_mem_nil }

/-- The credentials on their way were issued since the connection began. -/
theorem Tracks.append_entry (hT : Tracks (IssuedIn p h) w t) (effects : List WorldEffect) :
    Tracks (IssuedIn p (h ++ [⟨w, e, effects⟩])) w t := by
  by_cases hconnects : Connects (⟨w, e, effects⟩ : WorldEntry σ)
  · exact hT.forget hconnects.2.1 hconnects.2.2
  · exact hT.mono fun _ hissued => hissued.append hconnects

/-- Two callbacks ask the authenticator. -/
theorem ServerHandler.Outcome.of_authenticate {s s' : ServerHandler} {e : ServerEvent}
    {effects : List ServerEffect} (ho : s.Outcome e s' effects) {token : Bytes} {verdict : Bool}
    (hmem : .authenticate token verdict ∈ effects) :
    (∃ wsi headers, e = .filterConnection wsi headers verdict) ∨
      ∃ wsi fragment, e = .onReceive wsi fragment true verdict := by
  cases ho with
  | filterWithToken h token' =>
      obtain ⟨-, rfl⟩ : token = token' ∧ verdict = _ := by simpa using hmem
      exact .inl ⟨_, _, rfl⟩
  | receiveAccepted credentials =>
      obtain ⟨-, rfl⟩ : token = credentials ∧ verdict = true := by simpa using hmem
      exact .inr ⟨_, _, rfl⟩
  | receiveRejected credentials =>
      obtain ⟨-, rfl⟩ : token = credentials ∧ verdict = false := by simpa using hmem
      exact .inr ⟨_, _, rfl⟩
  | writableWrite writer rest hr hs => split_ifs at hmem <;> simp at hmem
  | _ => simp at hmem

/-- `authenticate_via_header` asks about the token of the header, if there is one. -/
theorem ServerHandler.authenticate_mem_filterConnection {s : ServerHandler} {headers : Headers}
    {verdict verdict' : Bool} {token : Bytes}
    (hmem : .authenticate token verdict' ∈ (s.filterConnection headers verdict).2) :
    token = s.getAuthToken headers ∧ token ≠ [] := by
  unfold filterConnection authenticateViaHeader at hmem
  split at hmem
  · simp at hmem
  · split at hmem
    · simp at hmem
    · split at hmem
      · simp at hmem
      · rename_i htoken
        obtain ⟨rfl, -⟩ : token = s.getAuthToken headers ∧ verdict' = verdict := by
          simpa using hmem
        exact ⟨rfl, htoken⟩

/-- The effects of the service in a step are those of a step of its machine. -/
theorem World.server_mem_step_iff {handler : Bytes → EStateM Exn σ MessageWriter}
    {o : ServerEffect} :
    .server o ∈ (w.step handler e).2 ↔
      ∃ e', w.serverEvent? e = some e' ∧ o ∈ (w.server.step e').2 := by
  have hmem : .server o ∈ (w.step handler e).2 ↔
      o ∈ (w.step handler e).2.filterMap WorldEffect.server? := by
    rw [List.mem_filterMap]
    constructor
    · exact fun h => ⟨_, h, rfl⟩
    · rintro ⟨x, hx, hserver⟩
      cases x with
      | server o' => exact Option.some.inj hserver ▸ hx
      | client o' => cases hserver
  rw [hmem, show (w.step handler e).2.filterMap WorldEffect.server? = _ from
    congrArg Prod.snd (w.step_server handler e)]
  cases w.serverEvent? e with
  | none => simp
  | some e' => simp

theorem World.eq_filterConnection {wsi : Wsi} {headers : Headers} {verdict : Bool}
    (h : w.serverEvent? e = some (.filterConnection wsi headers verdict)) :
    e = .filterConnection wsi headers verdict := by
  cases e with
  | filterConnection wsi' headers' verdict' => simpa [World.serverEvent?] using h
  | _ => simp [World.serverEvent?, Option.bind_eq_some_iff] at h

theorem World.eq_deliverResponse {wsi : Wsi} {fragment : Bytes} {verdict : Bool}
    (h : w.serverEvent? e = some (.onReceive wsi fragment true verdict)) :
    ∃ size, e = .deliverResponse size true verdict ∧ w.server.connection = some wsi ∧
      w.toService ≠ [] ∧ fragment = (delivered size true w.toService).1 := by
  cases e with
  | deliverResponse size isFinal verdict' =>
      simp only [World.serverEvent?, Option.bind_eq_some_iff, Option.ite_none_left_eq_some,
        Option.some.injEq, ServerEvent.onReceive.injEq] at h
      obtain ⟨wsi', hconnection, hne, rfl, rfl, rfl, rfl⟩ := h
      exact ⟨size, rfl, hconnection, hne, rfl⟩
  | _ => simp [World.serverEvent?] at h

/-- **What the authenticator is asked about** is the token of a handshake, or what the
provider returned in this connection. -/
theorem Tracks.presented (hT : Tracks (IssuedIn p h) w t) {token : Bytes} {verdict : Bool}
    (hmem : .server (.authenticate token verdict) ∈ (w.step p.handler e).2) :
    Presented p h ⟨w, e, (w.step p.handler e).2⟩ token verdict := by
  obtain ⟨e', he', ho⟩ := World.server_mem_step_iff.1 hmem
  rcases (w.server.step_outcome e').of_authenticate ho with
    ⟨wsi, headers, rfl⟩ | ⟨wsi, fragment, rfl⟩
  · obtain rfl : e = .filterConnection wsi headers verdict := World.eq_filterConnection he'
    obtain ⟨htoken, hne⟩ := ServerHandler.authenticate_mem_filterConnection ho
    exact .header wsi headers rfl htoken hne
  · obtain ⟨size, rfl, hconnection, hne, rfl⟩ := World.eq_deliverResponse he'
    obtain ⟨r, arriving, harriving, hr, hchannel⟩ := hT.arriving_eq hne
    have hsome : w.server.connection ≠ none := by simp [hconnection]
    have hstep : w.server.step (.onReceive wsi (lastPiece w.toService).1 true verdict) =
        (({ w.server with currentMessage := [] }.dispatch wsi r.data verdict).1,
          .dispatched r.data ::
            ({ w.server with currentMessage := [] }.dispatch wsi r.data verdict).2) := by
      rw [← hr]
      rfl
    change _ ∈ (w.server.step (.onReceive wsi (lastPiece w.toService).1 true verdict)).2 at ho
    rw [hstep] at ho
    cases hpromise : r.promise with
    | none =>
        obtain ⟨credentials, hissued, hdispatch⟩ := hT.dispatch_none wsi verdict harriving hpromise
        rw [hdispatch] at ho
        refine .credentials size credentials rfl hissued ?_
        cases verdict <;> simpa [authenticationEffects] using ho
    | some q =>
        rw [(hT.dispatch_some hsome wsi verdict harriving hpromise).2] at ho
        simp at ho

end Step

/-! ### Runs -/

/-- Every step so far asks about what was presented, and queues a request only after a
token was accepted. -/
def Authentic (p : Provider σ) (h : List (WorldEntry σ)) : Prop :=
  ∀ h₁ x h₂, h = h₁ ++ x :: h₂ →
    (∀ token verdict, .server (.authenticate token verdict) ∈ x.effects →
      Presented p h₁ x token verdict) ∧
    ∀ q writer, .server (.queued (some q) writer) ∈ x.effects → Accepted p h₁

/-- What holds along a run with an authenticator. -/
structure CredentialsInvariant (p : Provider σ) (h : List (WorldEntry σ)) (w : World σ) :
    Prop where
  authenticator : w.server.authenticator ≠ []
  tracks : ∃ t, Tracks (IssuedIn p h) w t
  accepted : w.server.isAuthenticated = true → Accepted p h
  authentic : Authentic p h

section Run

variable {p : Provider σ} {h : List (WorldEntry σ)} {w : World σ}

/-- Only an authenticated service queues a request, and only one that it is to perform. -/
theorem ServerHandler.Outcome.of_queued {s s' : ServerHandler} {e : ServerEvent}
    {effects : List ServerEffect} (ho : s.Outcome e s' effects) {q : Promise}
    {writer : MessageWriter} (hmem : .queued (some q) writer ∈ effects) :
    s.isAuthenticated = true ∧ ∃ req, e = .perform req := by
  cases ho with
  | performCollision h hid => exact ⟨h, _, rfl⟩
  | performRegister h hid => exact ⟨h, _, rfl⟩
  | writableWrite writer rest hr hs => split_ifs at hmem <;> simp at hmem
  | _ => simp at hmem

/-- The flag is set in a step in which a token is accepted, and stays until the end of the
connection. -/
theorem ServerHandler.Outcome.accepted_of_flag {s s' : ServerHandler} {e : ServerEvent}
    {effects : List ServerEffect} (ho : s.Outcome e s' effects) (hne : s.authenticator ≠ [])
    (hflag : s'.isAuthenticated = true) :
    (s.isAuthenticated = true ∧ ∀ v, e = .onClosed v → s.connection ≠ some v) ∨
      ∃ token, .authenticate token true ∈ effects := by
  cases ho <;> simp_all

theorem Ends.serverEvent_eq {e : WorldEvent} {effects : List WorldEffect}
    (hends : Ends (⟨w, e, effects⟩ : WorldEntry σ)) :
    ∃ v, w.serverEvent? e = some (.onClosed v) ∧ w.server.connection = some v := by
  obtain ⟨rfl, hsome⟩ := hends
  obtain ⟨v, hv⟩ := Option.ne_none_iff_exists'.1 hsome
  exact ⟨v, by simp only [World.serverEvent?, show w.server.connection = some v from hv]; rfl, hv⟩

theorem CredentialsInvariant.step_accepted (hI : CredentialsInvariant p h w) {e : WorldEvent}
    (hflag : (w.step p.handler e).1.server.isAuthenticated = true) :
    Accepted p (h ++ [⟨w, e, (w.step p.handler e).2⟩]) := by
  obtain ⟨t, hT⟩ := hI.tracks
  have hserver : (w.step p.handler e).1.server = _ := congrArg Prod.fst (w.step_server p.handler e)
  cases he : w.serverEvent? e with
  | none =>
      rw [hserver, he] at hflag
      refine (hI.accepted hflag).append fun hends => ?_
      obtain ⟨v, hv, -⟩ := hends.serverEvent_eq
      cases he.symm.trans hv
  | some e' =>
      rw [hserver, he] at hflag
      rcases (w.server.step_outcome e').accepted_of_flag hI.authenticator hflag with
        ⟨hold, hopen⟩ | ⟨token, htoken⟩
      · refine (hI.accepted hold).append fun hends => ?_
        obtain ⟨v, hv, hconnection⟩ := hends.serverEvent_eq
        exact hopen v (Option.some.inj (he.symm.trans hv)) hconnection
      · have hmem : .server (.authenticate token true) ∈ (w.step p.handler e).2 :=
          World.server_mem_step_iff.2 ⟨e', he, htoken⟩
        exact .last hmem (hT.presented hmem)

theorem CredentialsInvariant.step (hI : CredentialsInvariant p h w) {e : WorldEvent}
    (hC : WorldContract h ⟨w, e, (w.step p.handler e).2⟩) :
    CredentialsInvariant p (h ++ [⟨w, e, (w.step p.handler e).2⟩]) (w.step p.handler e).1 where
  authenticator := by
    have hserver : (w.step p.handler e).1.server = _ :=
      congrArg Prod.fst (w.step_server p.handler e)
    rw [hserver]
    cases w.serverEvent? e with
    | none => exact hI.authenticator
    | some e' => exact (w.server.step_outcome e').authenticator_eq ▸ hI.authenticator
  tracks := by
    obtain ⟨t, hT⟩ := hI.tracks
    obtain ⟨t', hT', -⟩ := (hT.append_entry (w.step p.handler e).2).advance
      (s := w.client.state) e hC fun _ hissues => .last hissues
    exact ⟨t', hT'⟩
  accepted := hI.step_accepted
  authentic := by
    intro h₁ x h₂ hsplit
    rcases split_append_singleton hsplit with ⟨rfl, rfl⟩ | ⟨h₂', hold⟩
    · obtain ⟨t, hT⟩ := hI.tracks
      refine ⟨fun token verdict hmem => hT.presented hmem, fun q writer hmem => ?_⟩
      obtain ⟨e', -, ho⟩ := World.server_mem_step_iff.1 hmem
      exact hI.accepted ((w.server.step_outcome e').of_queued ho).1
    · exact hI.authentic h₁ x h₂' hold

end Run

/-- **Requests are taken on accepted credentials.**  With an authenticator, in every run of
the service and its provider: the authenticator is asked only about the token of a
handshake or about what the provider returned in the same connection, and a request is
queued only after it accepted one of them, since the end of the last connection. -/
theorem world_authentic (p : Provider σ) (s : σ) {authApp authHdr : Bytes} (happ : authApp ≠ [])
    {evs : List WorldEvent} (hC : (world p s authApp authHdr).Admits WorldContract evs) :
    Authentic p ((world p s authApp authHdr).trace evs) := by
  have hinit : CredentialsInvariant p [] (world p s authApp authHdr).init := {
    authenticator := happ
    tracks := ⟨⟨[], [], [], []⟩, Tracks.init p s authApp authHdr⟩
    accepted := fun h => absurd h Bool.false_ne_true
    authentic := fun h₁ x h₂ h => absurd h.symm (by simp) }
  exact (Machine.invariant (P := CredentialsInvariant p) hinit (fun h w e hI hC => hI.step hC) evs
    hC).authentic

/-- A provider of an empty filesystem, with the credentials `"t"`. -/
def Provider.withToken : Provider Unit :=
  { Provider.empty with fs := { Provider.empty.fs with getCredentials := pure [0x74] } }

/-- The provider connects, is asked for its credentials and is accepted, and a request is
made. -/
def acceptedRun : List WorldEvent :=
  [.filterConnection 1 .empty true, .connect 1 7, .writable, .deliverRequest 0 true, .writeable,
    .deliverResponse 0 true true, .perform (.unlink [0x2f])]

theorem world_authentic_accepted :
    Authentic Provider.withToken ((world Provider.withToken () [1] []).trace acceptedRun) ∧
      ((world Provider.withToken () [1] []).trace acceptedRun).flatMap observed =
        [.invoked 0 ((FsCall.unlink [0x2f]).request.setId 2)] := by
  have hC : (world Provider.withToken () [1] []).Admits WorldContract acceptedRun := by
    refine ⟨trivial, fun _ => rfl, trivial, trivial, trivial, trivial, fun _ => ?_, trivial⟩
    decide
  exact ⟨world_authentic Provider.withToken () (by decide) hC, by decide⟩

end Webfuse
