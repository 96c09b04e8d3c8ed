/-
# The order of responses

A complete message that is no response to `getcreds` takes the promise that waits
for its id out of the map and gives it the message, and does nothing when none
waits (`settle`).  Which client it is from, how it is cut into fragments and what
the authenticator would say makes no difference.  Messages with different ids take
out different entries, so they can come in any order.
-/

import Webfuse.Message.Fields
import Webfuse.Server.History

namespace Webfuse

open Basis

/-- A message as it is received: the fragments before the last, and the last.  Each
comes with the connection it is from and the verdict the authenticator would give. -/
structure Delivery where
  parts : List (Wsi × Bytes × Bool)
  last : Wsi × Bytes × Bool

namespace Delivery

variable (d : Delivery)

/-- The message that the fragments are of. -/
def message : Bytes := (d.parts.map fun f => f.2.1).flatten ++ d.last.2.1

def events : List ServerEvent :=
  d.parts.map (fun f => .onReceive f.1 f.2.1 false f.2.2) ++
    [.onReceive d.last.1 d.last.2.1 true d.last.2.2]

end Delivery

/-- A message that `on_receive` looks a promise up for: it has a header, and is no
response to `getcreds`. -/
def IsResponse (message : Bytes) : Prop :=
  5 ≤ message.length ∧ typeByte message ≠ ResponseType.getcreds.toByte

namespace ServerHandler

variable (s : ServerHandler)

/-- The state after a response. -/
def settle (message : Bytes) : ServerHandler :=
  { s with pendingResponses := s.pendingResponses.erase (messageId message) }

/-- What a response does: the promise that waits for it gets it. -/
def settled (message : Bytes) : List ServerEffect :=
  .dispatched message ::
    (s.pendingResponses.lookup (messageId message)).toList.map fun promise =>
      .setValue promise ⟨message, 5⟩

/-- **A response is settled**, whoever sent it. -/
theorem dispatch_response {message : Bytes} (h : IsResponse message) (wsi : Wsi) (verdict : Bool) :
    (s.dispatch wsi message verdict).1 = s.settle message ∧
      .dispatched message :: (s.dispatch wsi message verdict).2 = s.settled message := by
  unfold dispatch settled settle
  rw [readHeader_of_length h.1]
  simp only [if_neg h.2]
  cases hlookup : s.pendingResponses.lookup (messageId message) with
  | some promise => exact ⟨rfl, rfl⟩
  | none =>
      have herase : s.pendingResponses.erase (messageId message) = s.pendingResponses := by
        refine AList.ext ?_
        exact List.kerase_of_notMem_keys (AList.lookup_eq_none.1 hlookup)
      rw [herase]
      exact ⟨rfl, rfl⟩

/-- The fragments before the last one are collected. -/
theorem stateFrom_parts (authApp authHdr : Bytes) (parts : List (Wsi × Bytes × Bool)) :
    (server authApp authHdr).stateFrom s
        (parts.map fun f => .onReceive f.1 f.2.1 false f.2.2) =
      { s with currentMessage := s.currentMessage ++ (parts.map fun f => f.2.1).flatten } ∧
    ((server authApp authHdr).traceFrom s
        (parts.map fun f => .onReceive f.1 f.2.1 false f.2.2)).flatMap Entry.effects = [] := by
  induction parts generalizing s with
  | nil => simp [Machine.stateFrom, Machine.traceFrom]
  | cons f parts ih =>
      obtain ⟨hstate, heffects⟩ := ih { s with currentMessage := s.currentMessage ++ f.2.1 }
      constructor
      · refine hstate.trans ?_
        simp
      · exact heffects

/-- A message that is received is dispatched, in whatever fragments it comes. -/
theorem stateFrom_events (authApp authHdr : Bytes) (hs : s.currentMessage = []) (d : Delivery) :
    (server authApp authHdr).stateFrom s d.events =
      (s.dispatch d.last.1 d.message d.last.2.2).1 ∧
    ((server authApp authHdr).traceFrom s d.events).flatMap Entry.effects =
      .dispatched d.message :: (s.dispatch d.last.1 d.message d.last.2.2).2 := by
  obtain ⟨hparts, hnothing⟩ := s.stateFrom_parts authApp authHdr d.parts
  have hcurrent : ({ s with currentMessage := [] } : ServerHandler) = s := by
    obtain ⟨⟩ := s
    cases hs
    rfl
  have hlast : ({ s with currentMessage := (d.parts.map fun f => f.2.1).flatten } :
      ServerHandler).onReceive d.last.1 d.last.2.1 true d.last.2.2 =
        ((s.dispatch d.last.1 d.message d.last.2.2).1,
          .dispatched d.message :: (s.dispatch d.last.1 d.message d.last.2.2).2) := by
    unfold onReceive
    simp only [if_true, hcurrent]
    rfl
  rw [hs, List.nil_append] at hparts
  constructor
  · unfold Delivery.events Machine.stateFrom
    rw [List.foldl_append]
    change ((server authApp authHdr).step ((server authApp authHdr).stateFrom s _) _).1 = _
    rw [hparts]
    change (onReceive _ _ _ _ _).1 = _
    rw [hlast]
  · rw [Delivery.events, Machine.traceFrom_append, List.flatMap_append, hnothing, hparts,
      List.nil_append]
    change (onReceive _ _ _ _ _).2 ++ [] = _
    rw [hlast, List.append_nil]

/-- A response that is received is settled. -/
theorem stateFrom_delivery (authApp authHdr : Bytes) (hs : s.currentMessage = []) (d : Delivery)
    (hd : IsResponse d.message) :
    (server authApp authHdr).stateFrom s d.events = s.settle d.message ∧
    ((server authApp authHdr).traceFrom s d.events).flatMap Entry.effects =
      s.settled d.message := by
  obtain ⟨hstate, heffects⟩ := s.dispatch_response hd d.last.1 d.last.2.2
  obtain ⟨hafter, hdone⟩ := s.stateFrom_events authApp authHdr hs d
  exact ⟨hafter.trans hstate, hdone.trans heffects⟩

/-- What a response does is not changed by one with another id. -/
theorem settled_settle {message message' : Bytes} (h : messageId message ≠ messageId message') :
    (s.settle message).settled message' = s.settled message' := by
  unfold settled settle
  rw [AList.lookup_erase_ne h.symm]

/-- Responses can be exchanged. -/
theorem settle_comm (message message' : Bytes) :
    (s.settle message).settle message' = (s.settle message').settle message := by
  unfold settle
  rw [AList.erase_erase]

/-- **Responses one after the other**: each finds what waited for it at the start. -/
theorem stateFrom_deliveries (authApp authHdr : Bytes) (hs : s.currentMessage = [])
    {ds : List Delivery} (hds : ∀ d ∈ ds, IsResponse d.message)
    (hids : (ds.map fun d => messageId d.message).Nodup) :
    (server authApp authHdr).stateFrom s (ds.flatMap Delivery.events) =
      (ds.map Delivery.message).foldl settle s ∧
    ((server authApp authHdr).traceFrom s (ds.flatMap Delivery.events)).flatMap Entry.effects =
      (ds.map Delivery.message).flatMap s.settled := by
  induction ds generalizing s with
  | nil => exact ⟨rfl, rfl⟩
  | cons d ds ih =>
      rw [List.map_cons, List.nodup_cons] at hids
      obtain ⟨hfirst, heffects⟩ :=
        s.stateFrom_delivery authApp authHdr hs d (hds d (by simp))
      obtain ⟨hrest, heffects'⟩ := ih (s.settle d.message) hs
        (fun d' hd' => hds d' (by simp [hd'])) hids.2
      -- the messages behind `d` have other ids, so `d` takes nothing from them
      have hsame : (ds.map Delivery.message).flatMap (s.settle d.message).settled =
          (ds.map Delivery.message).flatMap s.settled := by
        refine List.flatMap_congr fun message hmessage => s.settled_settle ?_
        obtain ⟨d', hd', rfl⟩ := List.mem_map.1 hmessage
        intro heq
        exact hids.1 (heq ▸ List.mem_map.2 ⟨d', hd', rfl⟩)
      constructor
      · unfold Machine.stateFrom at hfirst hrest ⊢
        rw [List.flatMap_cons, List.foldl_append, hfirst, hrest]
        rfl
      · rw [List.flatMap_cons, Machine.traceFrom_append, List.flatMap_append, heffects, hfirst,
          heffects', hsame]
        rfl

end ServerHandler

/-- **The order of responses does not matter.**  In any state between two messages,
two lists of responses that are the same up to their order and their fragments end
in the same state and do the same up to order; in particular every promise is given
the same reader. -/
theorem response_order (authApp authHdr : Bytes) (s : ServerHandler) (hs : s.currentMessage = [])
    (ds es : List Delivery) (hperm : (ds.map Delivery.message).Perm (es.map Delivery.message))
    (hlen : ∀ d ∈ ds, 5 ≤ d.message.length)
    (htype : ∀ d ∈ ds, typeByte d.message ≠ ResponseType.getcreds.toByte)
    (hids : (ds.map fun d => messageId d.message).Nodup) :
    (server authApp authHdr).stateFrom s (ds.flatMap Delivery.events) =
      (server authApp authHdr).stateFrom s (es.flatMap Delivery.events) ∧
    (((server authApp authHdr).traceFrom s (ds.flatMap Delivery.events)).flatMap
        Entry.effects).Perm
      (((server authApp authHdr).traceFrom s (es.flatMap Delivery.events)).flatMap
        Entry.effects) ∧
    ∀ promise reader,
      .setValue promise reader ∈ ((server authApp authHdr).traceFrom s
        (ds.flatMap Delivery.events)).flatMap Entry.effects ↔
      .setValue promise reader ∈ ((server authApp authHdr).traceFrom s
        (es.flatMap Delivery.events)).flatMap Entry.effects := by
  have hds (d : Delivery) (hd : d ∈ ds) : IsResponse d.message := ⟨hlen d hd, htype d hd⟩
  have hes (e : Delivery) (he : e ∈ es) : IsResponse e.message := by
    have hmem : e.message ∈ ds.map Delivery.message := hperm.mem_iff.2 (List.mem_map.2 ⟨e, he, rfl⟩)
    obtain ⟨d, hd, hde⟩ := List.mem_map.1 hmem
    exact hde ▸ hds d hd
  have hids' : (es.map fun e => messageId e.message).Nodup := by
    have hmap := (hperm.map messageId).nodup_iff
    rw [List.map_map, List.map_map] at hmap
    exact hmap.1 hids
  obtain ⟨hstate, heffects⟩ := s.stateFrom_deliveries authApp authHdr hs hds hids
  obtain ⟨hstate', heffects'⟩ := s.stateFrom_deliveries authApp authHdr hs hes hids'
  have hall : (((server authApp authHdr).traceFrom s (ds.flatMap Delivery.events)).flatMap
      Entry.effects).Perm (((server authApp authHdr).traceFrom s
        (es.flatMap Delivery.events)).flatMap Entry.effects) := by
    rw [heffects, heffects']
    exact hperm.flatMap_right _
  refine ⟨?_, hall, fun promise reader => hall.mem_iff⟩
  rw [hstate, hstate']
  exact hperm.foldl_eq' (fun m _ m' _ s => s.settle_comm m m') s

/-- Two requests wait; their responses come in order and in one piece each, or the
other way round and the first of them in two fragments. -/
theorem response_order_two :
    let s := (server [] []).state [.filterConnection 1 .empty true, .onEstablished 1,
      .perform (MessageWriter.ofRequest .unlink), .perform (MessageWriter.ofRequest .rmdir)]
    let ds : List Delivery :=
      [⟨[], (1, [0, 0, 0, 1, 0x8f], true)⟩, ⟨[], (1, [0, 0, 0, 2, 0x94], true)⟩]
    let es : List Delivery :=
      [⟨[(1, [0, 0], true)], (1, [0, 2, 0x94], true)⟩, ⟨[], (1, [0, 0, 0, 1, 0x8f], true)⟩]
    s.pendingResponses.lookup 1 = some 0 ∧ s.pendingResponses.lookup 2 = some 1 ∧
      (server [] []).stateFrom s (ds.flatMap Delivery.events) =
        (server [] []).stateFrom s (es.flatMap Delivery.events) := by
  intro s ds es
  have h := response_order [] [] s rfl ds es (List.Perm.swap ..) (by decide) (by decide)
    (by decide)
  exact ⟨rfl, rfl, h.1⟩

end Webfuse
