/-
# Clients that were rejected

Credentials that are refused set `shutdown_requested`, and `on_writable` then closes the
connection instead of writing to it.  Until that happens the client may go on: send
credentials that are accepted, which sets `is_authenticated`, while requests are
performed and queued.  None of this resets the flag.  Only `on_closed` of the connection
does, and as long as the connection is not closed it is the one of the client.
-/

import Webfuse.Server.History

namespace Webfuse

open Basis

/-- Messages come from the current connection. -/
def ReceivesFromConnection (_h : List ServerEntry) (x : ServerEntry) : Prop :=
  match x.event with
  | .onReceive w _ _ _ => x.pre.connection = some w
  | _ => True

/-- The authenticator was asked and said no. -/
def rejects (effects : List ServerEffect) : Bool :=
  effects.any fun
    | .authenticate _ verdict => !verdict
    | _ => false

/-- `finish_authentication` rejects credentials received from `w`. -/
def Rejects (w : Wsi) (x : ServerEntry) : Prop :=
  ∃ fragment isFinal verdict, x.event = .onReceive w fragment isFinal verdict ∧
    rejects x.effects = true

namespace History

/-- A step seen by the rejection of `w`. -/
def rejectedStep (w : Wsi) (b : Bool) (x : ServerEntry) : Bool :=
  match x.event with
  | .onReceive v _ _ _ => if v = w then b || rejects x.effects else b
  | .onClosed v => if v = w then false else b
  | _ => b

/-- Credentials of `w` were rejected, and `w` is not closed since. -/
def rejected (h : List ServerEntry) (w : Wsi) : Bool := h.foldl (rejectedStep w) false

theorem rejected_append (h : List ServerEntry) (x : ServerEntry) (w : Wsi) :
    rejected (h ++ [x]) w = rejectedStep w (rejected h w) x := by
  simp [rejected]

/-- A rejection lasts until the client is closed. -/
theorem rejected_of_rejects {w : Wsi} (h₁ : List ServerEntry) {r : ServerEntry}
    (hr : Rejects w r) {h₂ : List ServerEntry} (hopen : ∀ y ∈ h₂, y.event ≠ .onClosed w) :
    rejected (h₁ ++ r :: h₂) w = true := by
  induction h₂ using List.reverseRecOn with
  | nil =>
      obtain ⟨fragment, isFinal, verdict, hevent, heffects⟩ := hr
      rw [rejected_append, rejectedStep, hevent]
      simp [heffects]
  | append_singleton h₂ y ih =>
      have hlast : y.event ≠ .onClosed w := hopen y (by simp)
      have hbefore := ih fun z hz => hopen z (by simp [hz])
      rw [← List.cons_append, ← List.append_assoc, rejected_append, hbefore, rejectedStep]
      cases hevent : y.event with
      | onReceive v fragment isFinal verdict => simp
      | onClosed v =>
          have hv : v ≠ w := by
            rintro rfl
            exact hlast hevent
          simp [hv]
      | _ => rfl

end History

open History

namespace ServerHandler.Outcome

variable {s s' : ServerHandler} {e : ServerEvent} {effects : List ServerEffect}

/-- Only credentials and `on_closed` change `shutdown_requested`. -/
theorem shutdownRequested_eq : s.Outcome e s' effects →
    s'.shutdownRequested = match e with
      | .onReceive .. => s.shutdownRequested || rejects effects
      | .onClosed v => if s.connection = some v then false else s.shutdownRequested
      | _ => s.shutdownRequested := by
  intro ho
  cases ho <;> simp_all [rejects]

/-- Nothing is written while the connection is shut down. -/
theorem shutdownRequested_of_write (ho : s.Outcome e s' effects) {wsi : Option Wsi} {data : Bytes}
    (hw : .write wsi data ∈ effects) : s.shutdownRequested = false := by
  cases ho with
  | writableWrite writer rest hr hs => exact hs
  | _ => simp at hw

end ServerHandler.Outcome

/-- A client that was rejected is the connection, and the connection is to be shut
down. -/
def RejectedInvariant (h : List ServerEntry) (s : ServerHandler) : Prop :=
  ∀ w, rejected h w = true → s.connection = some w ∧ s.shutdownRequested = true

theorem RejectedInvariant.step {h : List ServerEntry} {s s' : ServerHandler} {e : ServerEvent}
    {effects : List ServerEffect} (hI : RejectedInvariant h s) (ho : s.Outcome e s' effects)
    (hC : ReceivesFromConnection h ⟨s, e, effects⟩) :
    RejectedInvariant (h ++ [⟨s, e, effects⟩]) s' := by
  intro w hw
  rw [rejected_append] at hw
  rw [ho.connection_eq, ho.shutdownRequested_eq]
  cases e with
  | onReceive v fragment isFinal verdict =>
      simp only [rejectedStep] at hw
      by_cases hv : v = w
      · subst hv
        rw [if_pos rfl, Bool.or_eq_true] at hw
        refine ⟨hC, ?_⟩
        rw [Bool.or_eq_true]
        exact hw.imp_left fun hbefore => (hI v hbefore).2
      · rw [if_neg hv] at hw
        obtain ⟨hconnection, -⟩ := hI w hw
        exact absurd (Option.some.inj (hC.symm.trans hconnection)) hv
  | onClosed v =>
      simp only [rejectedStep] at hw
      by_cases hv : v = w
      · rw [if_pos hv] at hw
        cases hw
      · rw [if_neg hv] at hw
        obtain ⟨hconnection, hshutdown⟩ := hI w hw
        have hother : s.connection ≠ some v := by
          rw [hconnection]
          exact fun h => hv (Option.some.inj h).symm
        simp only [if_neg hother]
        exact ⟨hconnection, hshutdown⟩
  | onEstablished v =>
      obtain ⟨hconnection, hshutdown⟩ := hI w hw
      refine ⟨?_, hshutdown⟩
      rw [hconnection]
      rfl
  | filterConnection v headers verdict => exact hI w hw
  | onWritable => exact hI w hw
  | poll => exact hI w hw
  | perform writer => exact hI w hw

/-- **A rejected client is never served.**  In every run in which messages come from the
current connection: after credentials of `w` were rejected and until `on_closed(w)`,
no step writes to `w`. -/
theorem rejected_never_served {authApp authHdr : Bytes} {evs : List ServerEvent}
    (hC : (server authApp authHdr).Admits ReceivesFromConnection evs) {w : Wsi}
    {h₁ h₂ h₃ : List ServerEntry} {r x : ServerEntry}
    (hsplit : (server authApp authHdr).trace evs = (h₁ ++ r :: h₂) ++ x :: h₃)
    (hr : Rejects w r) (hopen : ∀ y ∈ h₂, y.event ≠ .onClosed w) (data : Bytes) :
    .write (some w) data ∉ x.effects := by
  have hI : RejectedInvariant ((server authApp authHdr).trace evs)
        ((server authApp authHdr).state evs) ∧
      ∀ h₁ x h₃, (server authApp authHdr).trace evs = h₁ ++ x :: h₃ →
        ∀ w, rejected h₁ w = true → ∀ data, .write (some w) data ∉ x.effects := by
    refine server_invariant (P := fun h s => RejectedInvariant h s ∧
      ∀ h₁ x h₃, h = h₁ ++ x :: h₃ → ∀ w, rejected h₁ w = true → ∀ data,
        .write (some w) data ∉ x.effects) ⟨nofun, by simp⟩ ?_ hC
    rintro h s e s' effects ⟨hI, hbefore⟩ ho hC
    refine ⟨hI.step ho hC, ?_⟩
    intro h₁ x h₃ hsplit w hw data hwrite
    rcases split_append_singleton hsplit with ⟨rfl, rfl⟩ | ⟨h₃, hsplit⟩
    · -- the last step: its state is the one the invariant speaks of
      have hshutdown := (hI w hw).2
      rw [ho.shutdownRequested_of_write hwrite] at hshutdown
      cases hshutdown
    · exact hbefore h₁ x h₃ hsplit w hw data hwrite
  exact hI.2 _ x h₃ hsplit w (rejected_of_rejects h₁ hr hopen) data

/-- A client is rejected, sends credentials that are accepted, and a request is queued:
`on_writable` writes nothing. -/
theorem rejected_never_served_accepted :
    let evs : List ServerEvent := [.filterConnection 1 .empty true, .onEstablished 1,
      .onReceive 1 [0, 0, 0, 1, 0x97, 0, 0, 0, 1, 0x61] true false,
      .onReceive 1 [0, 0, 0, 1, 0x97, 0, 0, 0, 1, 0x62] true true,
      .perform (MessageWriter.ofRequest .unlink), .onWritable]
    ((server [1] []).state evs).isAuthenticated = true ∧
      ∃ x, ((server [1] []).trace evs).getLast? = some x ∧ ∀ data,
        .write (some 1) data ∉ x.effects := by
  intro evs
  refine ⟨rfl, _, rfl, fun data => ?_⟩
  have hC : (server [1] []).Admits ReceivesFromConnection evs :=
    ⟨trivial, trivial, rfl, rfl, trivial, trivial, trivial⟩
  have hsplit : (server [1] []).trace evs = (((server [1] []).trace evs).take 2 ++
      _ :: (((server [1] []).trace evs).drop 3).take 2) ++ _ :: [] := rfl
  refine rejected_never_served hC hsplit ⟨_, _, _, rfl, rfl⟩ ?_ data
  intro y hy
  rcases List.mem_cons.1 hy with rfl | hy
  · exact nofun
  · obtain rfl := List.mem_singleton.1 hy
    exact nofun

end Webfuse
