/-
# A second client

While a client is connected, another one can try to connect: its handshake is
filtered, and where that succeeds it is established, refused and closed.  Of these
steps `on_established` and `on_closed` look at the connection and leave the server
alone.  `filter_connection` does not: it sets the flag to what comes of the second
handshake, and the flag is the one of the connected client (`filter_sets_flag`).

So the second client goes unnoticed exactly when its handshakes come to what the
flag says already (`Agrees`).  Then every state on the way is the one before, and a
run is, in all its other steps, the run without the second client.
-/

import Webfuse.Server.History

namespace Webfuse

open Basis

/-- A step of the handshake of a client other than `w`. -/
def OtherClient (w : Wsi) : ServerEvent → Prop
  | .filterConnection v _ _ => v ≠ w
  | .onEstablished v => v ≠ w
  | .onClosed v => v ≠ w
  | _ => False

namespace ServerHandler

variable (s : ServerHandler)

/-- What a handshake comes to: authentication is disabled, or there is a token and
the authenticator accepts it. -/
def accepted (headers : Headers) (verdict : Bool) : Bool :=
  s.authenticator = [] ||
    (s.authHeader ≠ [] && s.getAuthToken headers ≠ [] && verdict)

/-- A handshake comes to what the flag says already. -/
def Agrees : ServerEvent → Prop
  | .filterConnection _ headers verdict => s.accepted headers verdict = s.isAuthenticated
  | _ => True

/-- `filter_connection` sets the flag, whichever client is connected, and nothing
else. -/
theorem filter_sets_flag (headers : Headers) (verdict : Bool) :
    (s.filterConnection headers verdict).1 =
      { s with isAuthenticated := s.accepted headers verdict } := by
  unfold filterConnection authenticateViaHeader accepted
  by_cases h₁ : s.authenticator = []
  · simp [h₁]
  by_cases h₂ : s.authHeader = []
  · simp [h₁, h₂]
  by_cases h₃ : s.getAuthToken headers = []
  · simp [h₁, h₂, h₃]
  · simp [h₁, h₂, h₃]

/-- **A step of another client leaves the server exactly when its handshake agrees
with the flag.** -/
theorem step_eq_iff {w : Wsi} (hw : s.connection = some w) {e : ServerEvent}
    (he : OtherClient w e) : (s.step e).1 = s ↔ s.Agrees e := by
  cases e with
  | filterConnection v headers verdict =>
      change (s.filterConnection headers verdict).1 = s ↔ _
      rw [filter_sets_flag]
      constructor
      · intro h
        exact congrArg isAuthenticated h
      · intro h
        unfold Agrees at h
        rw [h]
  | onEstablished v =>
      refine iff_of_true ?_ trivial
      simp [step, onEstablished, hw]
  | onClosed v =>
      have hne : ¬ w = v := fun h => he h.symm
      refine iff_of_true ?_ trivial
      simp [step, onClosed, hw, hne]
  | onReceive | onWritable | poll | perform => exact he.elim

/-- All that such a step does besides is answer the other client. -/
theorem effects_of_other {w : Wsi} (hw : s.connection = some w) {e : ServerEvent}
    (he : OtherClient w e) {o : ServerEffect} (ho : o ∈ (s.step e).2) :
    (∃ code, o = .returned code) ∨ ∃ token verdict, o = .authenticate token verdict := by
  have hout := s.step_outcome e
  generalize (s.step e).1 = s' at hout
  generalize (s.step e).2 = effects at hout ho
  cases hout with
  | filterDisabled | filterWithoutToken | establishRefused => simp_all
  | filterWithToken h token =>
      rcases List.mem_cons.1 ho with rfl | ho
      · exact .inr ⟨_, _, rfl⟩
      · exact .inl ⟨_, List.mem_singleton.1 ho⟩
  | establish h | establishAsking h => simp [hw] at h
  | closedOther h | closed h => simp at ho
  | _ => exact he.elim

end ServerHandler

/-! ### Many steps -/

/-- The steps of another client leave the server, one after the other, exactly when
every handshake agrees with the flag. -/
theorem others_leave_iff {authApp authHdr : Bytes} {s : ServerHandler} {w : Wsi}
    (hw : s.connection = some w) {evs : List ServerEvent} (hevs : ∀ e ∈ evs, OtherClient w e) :
    (∀ evs', evs' <+: evs → (server authApp authHdr).stateFrom s evs' = s) ↔
      ∀ e ∈ evs, s.Agrees e := by
  induction evs with
  | nil =>
      refine iff_of_true ?_ (by simp)
      intro evs' h
      rw [List.prefix_nil.1 h]
      rfl
  | cons e evs ih =>
      have hother : OtherClient w e := hevs e (by simp)
      have hstep := s.step_eq_iff hw hother
      have ih := ih fun e' he' => hevs e' (by simp [he'])
      have hcons (evs' : List ServerEvent) : (server authApp authHdr).stateFrom s (e :: evs') =
          (server authApp authHdr).stateFrom (s.step e).1 evs' := rfl
      simp only [List.forall_mem_cons]
      constructor
      · intro h
        have hfirst : (s.step e).1 = s := h [e] ⟨evs, rfl⟩
        refine ⟨hstep.1 hfirst, ih.1 fun evs' hevs' => ?_⟩
        have hall := h (e :: evs') (List.cons_prefix_cons.2 ⟨rfl, hevs'⟩)
        rwa [hcons, hfirst] at hall
      · rintro ⟨hagree, hrest⟩ evs' hevs'
        cases evs' with
        | nil => rfl
        | cons e' evs' =>
            obtain ⟨rfl, hpre⟩ := List.cons_prefix_cons.1 hevs'
            rw [hcons, hstep.2 hagree]
            exact ih.2 hrest evs' hpre

/-- A step that is inserted in a run is one of a second client, whose handshake
agrees with the flag. -/
def Unnoticed (_h : List (Entry ServerHandler (ServerEvent × Bool) ServerEffect))
    (x : Entry ServerHandler (ServerEvent × Bool) ServerEffect) : Prop :=
  x.event.2 = true → ∃ w, x.pre.connection = some w ∧ OtherClient w x.event.1 ∧
    x.pre.Agrees x.event.1

/-- **When a second client disturbs the first.**  While `w` is connected, the steps of
other clients leave the state of the server, at every point among them, if and only
if each of their handshakes comes to what `is_authenticated` says already.  A run in
which all inserted steps are such ends as the run without them, in every other step
the same happens, and the inserted steps only answer the client they are about. -/
theorem second_client_unnoticed (authApp authHdr : Bytes) :
    (∀ (s : ServerHandler) (w : Wsi) (evs : List ServerEvent),
      s.connection = some w → (∀ e ∈ evs, OtherClient w e) →
        ((∀ evs', evs' <+: evs → (server authApp authHdr).stateFrom s evs' = s) ↔
          ∀ e ∈ evs, s.Agrees e)) ∧
    ∀ evs : List (ServerEvent × Bool),
      (server authApp authHdr).marked.Admits Unnoticed evs →
        (server authApp authHdr).marked.state evs =
          (server authApp authHdr).state (Machine.kept evs) ∧
        Machine.keptTrace ((server authApp authHdr).marked.trace evs) =
          (server authApp authHdr).trace (Machine.kept evs) ∧
        ∀ x ∈ (server authApp authHdr).marked.trace evs, x.event.2 = true → ∀ o ∈ x.effects,
          (∃ code, o = .returned code) ∨ ∃ token verdict, o = .authenticate token verdict := by
  refine ⟨fun s w evs hw hevs => others_leave_iff hw hevs, ?_⟩
  intro evs hadmits
  have hleave (h : List (Entry ServerHandler (ServerEvent × Bool) ServerEffect))
      (s : ServerHandler) (e : ServerEvent)
      (hC : Unnoticed h ((server authApp authHdr).marked.entry s (e, true))) :
      ((server authApp authHdr).step s e).1 = s := by
    obtain ⟨w, hw, hother, hagree⟩ := hC rfl
    exact (s.step_eq_iff hw hother).2 hagree
  obtain ⟨hstate, htrace⟩ := Machine.marked_kept hleave hadmits
  refine ⟨hstate, htrace, ?_⟩
  refine Machine.invariant (P := fun h _ => ∀ x ∈ h, x.event.2 = true → ∀ o ∈ x.effects,
    (∃ code, o = .returned code) ∨ ∃ token verdict, o = .authenticate token verdict)
    (by simp) ?_ evs hadmits
  intro h s e ih hC x hx hinserted o ho
  rcases List.mem_append.1 hx with hx | hx
  · exact ih x hx hinserted o ho
  · obtain rfl := List.mem_singleton.1 hx
    obtain ⟨w, hw, hother, -⟩ := hC hinserted
    exact s.effects_of_other hw hother ho

/-- Client 1 is connected and authenticated.  Client 2 comes with a token that is
accepted, is refused and closed. -/
theorem second_client_unnoticed_token :
    (server [1] [0x68]).marked.state [(.filterConnection 1 .token true, false),
        (.onEstablished 1, false), (.filterConnection 2 .token true, true),
        (.onEstablished 2, true), (.onClosed 2, true)] =
      (server [1] [0x68]).state [.filterConnection 1 .token true, .onEstablished 1] := by
  have hother : (2 : Wsi) ≠ 1 := by decide
  refine ((second_client_unnoticed [1] [0x68]).2 _ ?_).1
  refine ⟨?_, ?_, ?_, ?_, ?_, trivial⟩
  · nofun
  · nofun
  · exact fun _ => ⟨1, rfl, hother, rfl⟩
  · exact fun _ => ⟨1, rfl, hother, trivial⟩
  · exact fun _ => ⟨1, rfl, hother, trivial⟩

/-- Client 1 is connected and authenticated.  A handshake of client 2 without a token
takes the authentication away, and the next request of client 1 is refused. -/
theorem second_client_disturbs :
    let s := (server [1] [0x68]).state [.filterConnection 1 .token true, .onEstablished 1]
    let s' := (server [1] [0x68]).state [.filterConnection 1 .token true, .onEstablished 1,
      .filterConnection 2 .empty true]
    s.connection = some 1 ∧ OtherClient 1 (.filterConnection 2 .empty true) ∧
      s.isAuthenticated = true ∧ s'.isAuthenticated = false ∧
      ∀ writer, (s.step (.perform writer)).2 =
          [.queued (some 0) (writer.setId 1), .registered 1 0] ∧
        (s'.step (.perform writer)).2 = [.setException 0 ⟨"unauthenticated"⟩] := by
  refine ⟨rfl, ?_, rfl, rfl, fun writer => ⟨rfl, rfl⟩⟩
  change (2 : ℕ) ≠ 1
  decide

end Webfuse
