/-
# Who is authenticated

`is_authenticated` is one flag for the whole server.
-/

import Webfuse.Server.History

namespace Webfuse

open Basis History

/-- The flag is never set for a client by the token of another: when a token is
accepted, the client that is connected is the one that sent it or is
authenticated itself; and a client that is connected while the flag is set is
authenticated itself, or no other token was accepted since its own handshake. -/
def OwnCredentials (h : List ServerEntry) (x : ServerEntry) : Prop :=
  match x.event with
  | .filterConnection v _ _ => accepts x.effects = true →
      ∀ w ∈ x.pre.connection, w = v ∨ authenticated h w = true
  | .onEstablished w => x.pre.connection = none → x.pre.isAuthenticated = true →
      authenticated h w = true ∨ overtaken h w = false
  | _ => True

/-- What the flag says, over the runs in which it is set by own credentials: it
speaks of the connected client and, while there is none, of every client that
waits to be. -/
structure FlagInvariant (h : List ServerEntry) (s : ServerHandler) : Prop where
  authenticator : s.authenticator ≠ []
  session : SessionIsConnection h s
  connected : ∀ w, s.isAuthenticated = true → s.connection = some w → authenticated h w = true
  waiting : ∀ w, s.isAuthenticated = true → s.connection = none → filtered h w = true →
    authenticated h w = true ∨ overtaken h w = true

section Step

variable {h : List ServerEntry} {s s' : ServerHandler} {e : ServerEvent}
  {effects : List ServerEffect}

theorem FlagInvariant.step_connected (hI : FlagInvariant h s) (ho : s.Outcome e s' effects)
    (hlws : LwsContract h ⟨s, e, effects⟩) (hown : OwnCredentials h ⟨s, e, effects⟩) (w : Wsi)
    (hflag : s'.isAuthenticated = true) (hc : s'.connection = some w) :
    authenticated (h ++ [⟨s, e, effects⟩]) w = true := by
  rw [ho.isAuthenticated_eq hI.authenticator] at hflag
  rw [ho.connection_eq] at hc
  rw [authenticated_append]
  cases e with
  | filterConnection v headers verdict =>
      simp only [authenticatedStep]
      split_ifs with hv
      · exact hflag
      · rcases hown hflag w hc with rfl | hw
        · exact absurd rfl hv
        · exact hw
  | onEstablished v =>
      cases hcon : s.connection with
      | none =>
          obtain rfl : v = w := by simpa [hcon] using hc
          rcases hI.waiting v hflag hcon hlws with hv | hover
          · exact hv
          · rcases hown hcon hflag with hv | hnot
            · exact hv
            · rw [hover] at hnot
              cases hnot
      | some c =>
          obtain rfl : c = w := by simpa [hcon] using hc
          exact hI.connected c hflag hcon
  | onReceive v fragment isFinal verdict =>
      have hv : s.connection = some v := (hI.session v).1 hlws
      obtain rfl : v = w := by simpa [hv] using hc
      simp only [authenticatedStep, if_true, Bool.or_eq_true] at hflag ⊢
      exact hflag.imp_left fun hflag => hI.connected v hflag hv
  | onClosed v =>
      simp only at hflag hc
      by_cases hv : s.connection = some v
      · rw [if_pos hv] at hc
        cases hc
      · rw [if_neg hv] at hc hflag
        have hne : v ≠ w := by
          rintro rfl
          exact hv hc
        simpa [authenticatedStep, hne] using hI.connected w hflag hc
  | onWritable => exact hI.connected w hflag hc
  | poll => exact hI.connected w hflag hc
  | perform writer => exact hI.connected w hflag hc

theorem FlagInvariant.step_waiting (hI : FlagInvariant h s) (ho : s.Outcome e s' effects)
    (hlws : LwsContract h ⟨s, e, effects⟩) (w : Wsi)
    (hflag : s'.isAuthenticated = true) (hc : s'.connection = none)
    (hf : filtered (h ++ [⟨s, e, effects⟩]) w = true) :
    authenticated (h ++ [⟨s, e, effects⟩]) w = true ∨
      overtaken (h ++ [⟨s, e, effects⟩]) w = true := by
  rw [ho.isAuthenticated_eq hI.authenticator] at hflag
  rw [ho.connection_eq] at hc
  rw [authenticated_append, overtaken_append]
  rw [filtered_append] at hf
  cases e with
  | filterConnection v headers verdict =>
      by_cases hv : v = w
      · left
        simpa [authenticatedStep, hv] using hflag
      · right
        simp only [overtakenStep, if_neg hv, Bool.or_eq_true]
        exact .inr hflag
  | onEstablished v => cases hc
  | onReceive v fragment isFinal verdict =>
      have hv : s.connection = some v := (hI.session v).1 hlws
      exact absurd (hv.symm.trans hc) nofun
  | onClosed v =>
      simp only at hflag hc
      by_cases hv : s.connection = some v
      · rw [if_pos hv] at hflag
        cases hflag
      · rw [if_neg hv] at hc hflag
        by_cases hvw : v = w
        · simp [filteredStep, hvw] at hf
        · have := hI.waiting w hflag hc (by simpa [filteredStep, hvw] using hf)
          simpa [authenticatedStep, overtakenStep, hvw] using this
  | onWritable => exact hI.waiting w hflag hc hf
  | poll => exact hI.waiting w hflag hc hf
  | perform writer => exact hI.waiting w hflag hc hf

theorem FlagInvariant.step (hI : FlagInvariant h s) (ho : s.Outcome e s' effects)
    (hlws : LwsContract h ⟨s, e, effects⟩) (hown : OwnCredentials h ⟨s, e, effects⟩) :
    FlagInvariant (h ++ [⟨s, e, effects⟩]) s' where
  authenticator := ho.authenticator_eq ▸ hI.authenticator
  session := hI.session.step ho
  connected := hI.step_connected ho hlws hown
  waiting := hI.step_waiting ho hlws

end Step

/-- **A connected client for which the flag is set is authenticated itself**, in
every run in which the token of one client does not set the flag for another. -/
theorem authenticated_of_flag {authApp authHdr : Bytes} (ha : authApp ≠ []) {evs : List ServerEvent}
    (hC : (server authApp authHdr).Admits (fun h x => LwsContract h x ∧ OwnCredentials h x) evs)
    {w : Wsi} (hflag : ((server authApp authHdr).state evs).isAuthenticated = true)
    (hc : ((server authApp authHdr).state evs).connection = some w) :
    authenticated ((server authApp authHdr).trace evs) w = true := by
  have hI : FlagInvariant ((server authApp authHdr).trace evs)
      ((server authApp authHdr).state evs) :=
    server_invariant ⟨ha, .init authApp authHdr, nofun, nofun⟩
      (fun h s e s' effects hI ho hC => hI.step ho hC.1 hC.2) hC
  exact hI.connected w hflag hc

/-- One client, with a token that is accepted. -/
theorem authenticated_of_flag_token :
    authenticated ((server [1] [0x68]).trace
      [.filterConnection 1 .token true, .onEstablished 1]) 1 = true := by
  have hC : (server [1] [0x68]).Admits (fun h x => LwsContract h x ∧ OwnCredentials h x)
      [.filterConnection 1 .token true, .onEstablished 1] := by
    refine ⟨⟨trivial, ?_⟩, ⟨rfl, ?_⟩, trivial⟩
    · intro _ w hw
      cases hw
    · intro _ _
      exact .inl rfl
  exact authenticated_of_flag (by decide) hC rfl rfl

/-- The token of client 2 sets the flag while client 1 is connected, which never
sent credentials. -/
theorem flag_set_by_other_client :
    (server [1] [0x68]).Admits LwsContract
        [.filterConnection 1 .empty true, .onEstablished 1, .filterConnection 2 .token true] ∧
      ((server [1] [0x68]).state [.filterConnection 1 .empty true, .onEstablished 1,
        .filterConnection 2 .token true]).isAuthenticated = true ∧
      ((server [1] [0x68]).state [.filterConnection 1 .empty true, .onEstablished 1,
        .filterConnection 2 .token true]).connection = some 1 ∧
      authenticated ((server [1] [0x68]).trace [.filterConnection 1 .empty true, .onEstablished 1,
        .filterConnection 2 .token true]) 1 = false := by
  refine ⟨⟨trivial, rfl, trivial, trivial⟩, rfl, rfl, rfl⟩

end Webfuse
