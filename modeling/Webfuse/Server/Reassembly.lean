/-
# Messages are put together

`current_message` collects the fragments of a message until the last one comes,
and is emptied when the message is moved into its reader.  It is one buffer for
all connections and nothing else empties it: `on_closed` leaves what a client
sent of a message it did not finish, and the first message of the next client
begins with it (`dispatched_with_leftover`).  `client.cpp` clears its buffer
when its connection is closed.
-/

import Webfuse.Server.History

namespace Webfuse

open Basis History

/-- Messages come from the client in session. -/
def FromSession (h : List ServerEntry) (x : ServerEntry) : Prop :=
  match x.event with
  | .onReceive w _ _ _ => session h w = true
  | _ => True

/-- A client that is connected finds no part of a message. -/
def FindsNoPart (x : ServerEntry) : Prop :=
  match x.event with
  | .onEstablished _ => x.pre.connection = none → x.pre.currentMessage = []
  | _ => True

/-- The buffer holds the fragments of the client in session. -/
structure ReassemblyInvariant (h : List ServerEntry) (s : ServerHandler) : Prop where
  session : SessionIsConnection h s
  buffer : ∀ w, s.connection = some w → s.currentMessage = (fragments h w).flatten

theorem ReassemblyInvariant.step {h : List ServerEntry} {s s' : ServerHandler} {e : ServerEvent}
    {effects : List ServerEffect} (hI : ReassemblyInvariant h s) (ho : s.Outcome e s' effects)
    (hfrom : FromSession h ⟨s, e, effects⟩) (hfinds : FindsNoPart ⟨s, e, effects⟩) :
    ReassemblyInvariant (h ++ [⟨s, e, effects⟩]) s' := by
  refine ⟨hI.session.step ho, ?_⟩
  intro w hc
  rw [ho.connection_eq] at hc
  rw [ho.currentMessage_eq, fragments_append]
  cases e with
  | onEstablished v =>
      have hsucc := ho.succeeds_iff
      cases hcon : s.connection with
      | none =>
          obtain rfl : v = w := by simpa [hcon] using hc
          simpa [fragmentsStep, hsucc.2 hcon] using hfinds hcon
      | some c =>
          obtain rfl : c = w := by simpa [hcon] using hc
          have hfail : succeeds effects = false := by simpa [hcon] using hsucc
          simpa [fragmentsStep, hfail] using hI.buffer c hcon
  | onReceive v fragment isFinal verdict =>
      have hv : s.connection = some v := (hI.session v).1 hfrom
      obtain rfl : v = w := by simpa [hv] using hc
      cases isFinal with
      | true => simp [fragmentsStep]
      | false => simp [fragmentsStep, hI.buffer v hv]
  | onClosed v =>
      simp only at hc
      split_ifs at hc with hv
      have hne : v ≠ w := by
        rintro rfl
        exact hv hc
      simpa [fragmentsStep, hne] using hI.buffer w hc
  | filterConnection v headers verdict => exact hI.buffer w hc
  | onWritable => exact hI.buffer w hc
  | poll => exact hI.buffer w hc
  | perform writer => exact hI.buffer w hc

/-- **A message that is dispatched is the concatenation of the fragments its
client sent**, in every run in which a client that is connected finds no part of
a message. -/
theorem dispatched_eq_fragments {authApp authHdr : Bytes} {evs : List ServerEvent} {w : Wsi}
    {fragment : Bytes} {isFinal verdict : Bool}
    (hC : (server authApp authHdr).Admits (fun h x => FromSession h x ∧ FindsNoPart x)
      (evs ++ [.onReceive w fragment isFinal verdict]))
    {message : Bytes}
    (hm : .dispatched message ∈
      (((server authApp authHdr).state evs).onReceive w fragment isFinal verdict).2) :
    isFinal = true ∧
      message = (fragments ((server authApp authHdr).trace evs) w ++ [fragment]).flatten := by
  obtain ⟨hevs, hlast, -⟩ := (Machine.admits_append_singleton _ _).1 hC
  have hI : ReassemblyInvariant ((server authApp authHdr).trace evs)
      ((server authApp authHdr).state evs) :=
    server_invariant ⟨.init authApp authHdr, nofun⟩
      (fun h s e s' effects hI ho hC => hI.step ho hC.1 hC.2) hevs
  have hbuffer := hI.buffer w ((hI.session w).1 hlast)
  have ho := ((server authApp authHdr).state evs).onReceive_outcome w fragment isFinal verdict
  obtain ⟨w', fragment', verdict', he, rfl⟩ := ho.of_dispatched hm
  injection he with _ hfragment hfinal
  rw [List.flatten_append, ← hbuffer, List.flatten_singleton, hfragment]
  exact ⟨hfinal, rfl⟩

/-- A message in two fragments. -/
theorem dispatched_eq_fragments_two :
    .dispatched [0, 0, 0, 1, 0x8f] ∈ (((server [] []).state
        [.filterConnection 1 .empty true, .onEstablished 1,
          .onReceive 1 [0, 0] false true]).onReceive 1 [0, 1, 0x8f] true true).2 ∧
      [0, 0, 0, 1, 0x8f] = (fragments ((server [] []).trace
        [.filterConnection 1 .empty true, .onEstablished 1,
          .onReceive 1 [0, 0] false true]) 1 ++ [[0, 1, 0x8f]]).flatten := by
  have hC : (server [] []).Admits (fun h x => FromSession h x ∧ FindsNoPart x)
      ([.filterConnection 1 .empty true, .onEstablished 1, .onReceive 1 [0, 0] false true] ++
        [.onReceive 1 [0, 1, 0x8f] true true]) :=
    ⟨⟨trivial, trivial⟩, ⟨trivial, fun _ => rfl⟩, ⟨rfl, trivial⟩, ⟨rfl, trivial⟩, trivial⟩
  have hm : .dispatched [0, 0, 0, 1, 0x8f] ∈ (((server [] []).state
      [.filterConnection 1 .empty true, .onEstablished 1,
        .onReceive 1 [0, 0] false true]).onReceive 1 [0, 1, 0x8f] true true).2 := by decide
  exact ⟨hm, (dispatched_eq_fragments hC hm).2⟩

/-- Client 1 is closed in the middle of a message, and client 2 sends a whole one:
what is dispatched is both. -/
theorem dispatched_with_leftover :
    (server [] []).Admits FromSession
        ([.filterConnection 1 .empty true, .onEstablished 1, .onReceive 1 [0xff, 0xff] false true,
          .onClosed 1, .filterConnection 2 .empty true, .onEstablished 2] ++
          [.onReceive 2 [0, 0, 0, 1, 0x8f] true true]) ∧
      .dispatched [0xff, 0xff, 0, 0, 0, 1, 0x8f] ∈ (((server [] []).state
        [.filterConnection 1 .empty true, .onEstablished 1, .onReceive 1 [0xff, 0xff] false true,
          .onClosed 1, .filterConnection 2 .empty true,
          .onEstablished 2]).onReceive 2 [0, 0, 0, 1, 0x8f] true true).2 ∧
      fragments ((server [] []).trace
        [.filterConnection 1 .empty true, .onEstablished 1, .onReceive 1 [0xff, 0xff] false true,
          .onClosed 1, .filterConnection 2 .empty true, .onEstablished 2]) 2 = [] := by
  refine ⟨⟨trivial, trivial, rfl, trivial, trivial, trivial, rfl, trivial⟩, ?_, rfl⟩
  decide

end Webfuse
