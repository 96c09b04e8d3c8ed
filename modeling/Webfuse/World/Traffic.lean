/-
# What is on its way

The requests and responses between the methods of the service and the filesystem of
the provider, from front to back: the responses that arrive at the service, those that
the provider has still to write, the requests that arrive at the provider and those
that the service has still to write.  `Tracks w t` says that the queues, the channels
and the half-received messages of `w` hold the traffic `t`.

Seen from outside, the traffic is one queue (`Traffic.tags`).  A request joins it at the
back; being written, received, executed and answered moves a boundary within it and
leaves the queue as it is; an answer leaves it at the front.  So a promise is in it at
most once, and while the connection is up, `pending_responses` has the promise of
everything in it under its id.
-/

import Webfuse.World.Atomic
import Webfuse.World.Machine

namespace Webfuse

open Basis MessageWriter

variable {σ : Type}

/-- A request, for a promise or for the credentials the service asks for itself. -/
structure Sent where
  promise : Option Promise
  id : UInt32
  call : FsCall

/-- A response to such a request. -/
structure Reply where
  promise : Option Promise
  id : UInt32
  data : Bytes

namespace Sent

def message (m : Sent) : Bytes := (m.call.request.setId m.id).data

def tag (m : Sent) : Option Promise × UInt32 := (m.promise, m.id)

def invocation? (m : Sent) : Option Invocation := m.promise.map fun q => ⟨q, m.id, m.call⟩

/-- Only the service itself asks for credentials. -/
def Proper (m : Sent) : Prop := m.promise = none ↔ m.call = .getCredentials

end Sent

namespace Reply

def tag (r : Reply) : Option Promise × UInt32 := (r.promise, r.id)

def answer? (r : Reply) : Option (Promise × MessageReader) :=
  r.promise.map fun q => (q, ⟨r.data, 5⟩)

/-- The response has its id and, if it is one to `getcreds`, that type and credentials
that were issued. -/
def Proper (issued : Bytes → Prop) (r : Reply) : Prop :=
  ∃ type rest, r.data = bytesOfU32 r.id ++ type :: rest ∧
    (r.promise = none ↔ type = ResponseType.getcreds.toByte) ∧
    (r.promise = none → ∃ credentials, issued credentials ∧ rest = bytesOfData credentials)

end Reply

/-- Credentials of which nothing is asked. -/
def AnyCredentials (_ : Bytes) : Prop := True

structure Traffic where
  arriving : List Reply
  leaving : List Reply
  flying : List Sent
  queued : List Sent

namespace Traffic

/-- The promises and ids, from front to back. -/
def tags (t : Traffic) : List (Option Promise × UInt32) :=
  (t.arriving ++ t.leaving).map Reply.tag ++ (t.flying ++ t.queued).map Sent.tag

def promises (t : Traffic) : List Promise := t.tags.filterMap Prod.fst

/-- The object that the callers see. -/
def atomic (t : Traffic) (w : World σ) : Atomic σ where
  state := w.client.state
  promises := w.server.promises
  waiting := (t.flying ++ t.queued).filterMap Sent.invocation?
  answers := (t.arriving ++ t.leaving).filterMap Reply.answer?
  unresolved := {q | ∃ id, w.server.pendingResponses.lookup id = some q}

end Traffic

/-- The promise of a request is in `pending_responses` under its id. -/
def Registered (s : ServerHandler) (tag : Option Promise × UInt32) : Prop :=
  ∀ q, tag.1 = some q → s.pendingResponses.lookup tag.2 = some q

/-- Where the traffic is: in the queues, the channels and the half-received messages. -/
structure Located (w : World σ) (t : Traffic) : Prop where
  queued : w.server.requests.map MessageWriter.data = t.queued.map Sent.message
  flying : assembled w.client.currentMessage w.toProvider = t.flying.map Sent.message
  leaving : w.client.requests.map MessageWriter.data = t.leaving.map Reply.data
  arriving : assembled w.server.currentMessage w.toService = t.arriving.map Reply.data
  clientSettled : Settled w.client.currentMessage w.toProvider
  serverSettled : w.server.connection ≠ none → Settled w.server.currentMessage w.toService
  clientClosed : w.wsi = none → w.toProvider = [] ∧ w.client.requests = []
  serverClosed : w.server.connection = none → w.toService = []

/-- What the service knows of the traffic. -/
structure Booked (issued : Bytes → Prop) (s : ServerHandler) (t : Traffic) : Prop where
  sent : ∀ m ∈ t.flying ++ t.queued, m.Proper
  replies : ∀ r ∈ t.arriving ++ t.leaving, r.Proper issued
  once : t.promises.Nodup
  made : ∀ q ∈ t.promises, q < s.promises
  registered : s.connection ≠ none → ∀ tag ∈ t.tags, Registered s tag
  registeredQueued : ∀ m ∈ t.queued, Registered s m.tag
  pendingInj : ∀ id id' q, s.pendingResponses.lookup id = some q →
    s.pendingResponses.lookup id' = some q → id = id'
  pendingMade : ∀ id q, s.pendingResponses.lookup id = some q → q < s.promises

/-- `w` holds the traffic `t`. -/
structure Tracks (issued : Bytes → Prop) (w : World σ) (t : Traffic) : Prop where
  located : Located w t
  booked : Booked issued w.server t

/-- A part of the traffic, in its order. -/
structure Traffic.Part (t' t : Traffic) : Prop where
  arriving : t'.arriving.Sublist t.arriving
  leaving : t'.leaving.Sublist t.leaving
  flying : t'.flying.Sublist t.flying
  queued : t'.queued.Sublist t.queued

namespace Traffic.Part

variable {t t' : Traffic}

theorem replies (h : t'.Part t) : (t'.arriving ++ t'.leaving).Sublist (t.arriving ++ t.leaving) :=
  h.arriving.append h.leaving

theorem sent (h : t'.Part t) : (t'.flying ++ t'.queued).Sublist (t.flying ++ t.queued) :=
  h.flying.append h.queued

theorem tags (h : t'.Part t) : t'.tags.Sublist t.tags :=
  (h.replies.map Reply.tag).append (h.sent.map Sent.tag)

theorem promises (h : t'.Part t) : t'.promises.Sublist t.promises := h.tags.filterMap Prod.fst

/-- What is left out is lost. -/
theorem step (h : t'.Part t) (p : Provider σ) {w w' : World σ}
    (hstate : w'.client.state = w.client.state) (hpromises : w'.server.promises = w.server.promises)
    (hpending : w'.server.pendingResponses = w.server.pendingResponses) :
    Atomic.Step p (t.atomic w) [] (t'.atomic w') := by
  have hlose := Atomic.Step.lose (p := p) (a := t.atomic w)
    (h.sent.filterMap Sent.invocation?) (h.replies.filterMap Reply.answer?)
  have heq : t'.atomic w' = { t.atomic w with
      waiting := (t'.flying ++ t'.queued).filterMap Sent.invocation?
      answers := (t'.arriving ++ t'.leaving).filterMap Reply.answer? } := by
    simp [Traffic.atomic, hstate, hpromises, hpending]
  rw [heq]
  exact hlose

end Traffic.Part

theorem Traffic.Part.refl (t : Traffic) : t.Part t :=
  ⟨List.Sublist.refl _, List.Sublist.refl _, List.Sublist.refl _, List.Sublist.refl _⟩

/-! ### What the service knows -/

section Booked

variable {issued : Bytes → Prop} {s s' : ServerHandler} {t t' : Traffic}

theorem Registered.congr {tag : Option Promise × UInt32} (h : Registered s tag)
    (hpending : s'.pendingResponses = s.pendingResponses) : Registered s' tag := by
  unfold Registered
  rw [hpending]
  exact h

/-- A boundary moves within the traffic, or a part of it is lost, and promises that
nothing waits for may be made. -/
theorem Booked.of_sublist (hB : Booked issued s t) (htags : t'.tags.Sublist t.tags)
    (hqueued : t'.queued.Sublist t.queued) (hsent : ∀ m ∈ t'.flying ++ t'.queued, m.Proper)
    (hreplies : ∀ r ∈ t'.arriving ++ t'.leaving, r.Proper issued)
    (hconnection : s'.connection ≠ none → s.connection ≠ none)
    (hpending : s'.pendingResponses = s.pendingResponses) (hpromises : s.promises ≤ s'.promises) :
    Booked issued s' t' where
  sent := hsent
  replies := hreplies
  once := hB.once.sublist (htags.filterMap Prod.fst)
  made q hq := (hB.made q ((htags.filterMap Prod.fst).subset hq)).trans_le hpromises
  registered hs tag htag :=
    (hB.registered (hconnection hs) tag (htags.subset htag)).congr hpending
  registeredQueued m hm := (hB.registeredQueued m (hqueued.subset hm)).congr hpending
  pendingInj := by
    rw [hpending]
    exact hB.pendingInj
  pendingMade id q := by
    rw [hpending]
    exact fun h => (hB.pendingMade id q h).trans_le hpromises

/-- A part of the traffic is lost. -/
theorem Booked.part (hB : Booked issued s t) (hpart : t'.Part t)
    (hconnection : s'.connection ≠ none → s.connection ≠ none)
    (hpending : s'.pendingResponses = s.pendingResponses) (hpromises : s.promises ≤ s'.promises) :
    Booked issued s' t' :=
  hB.of_sublist hpart.tags hpart.queued (fun m hm => hB.sent m (hpart.sent.subset hm))
    (fun r hr => hB.replies r (hpart.replies.subset hr)) hconnection hpending hpromises

/-- A boundary moves within the traffic. -/
theorem Booked.move (hB : Booked issued s t) (htags : t'.tags = t.tags)
    (hqueued : t'.queued.Sublist t.queued) (hsent : ∀ m ∈ t'.flying ++ t'.queued, m.Proper)
    (hreplies : ∀ r ∈ t'.arriving ++ t'.leaving, r.Proper issued) : Booked issued s t' :=
  hB.of_sublist (htags ▸ List.Sublist.refl _) hqueued hsent hreplies id rfl le_rfl

theorem tags_queue (t : Traffic) (m : Sent) :
    ({ t with queued := t.queued ++ [m] } : Traffic).tags = t.tags ++ [m.tag] := by
  simp [Traffic.tags]

/-- A request joins the traffic, with a promise of its own. -/
theorem Booked.perform (hB : Booked issued s t) {id : UInt32} {call : FsCall}
    (hcall : call ≠ .getCredentials) (hid : id ∉ s.pendingResponses)
    (hconnection : s'.connection = s.connection)
    (hpending : s'.pendingResponses = s.pendingResponses.insert id s.promises)
    (hpromises : s'.promises = s.promises + 1) :
    Booked issued s' { t with queued := t.queued ++ [⟨some s.promises, id, call⟩] } := by
  have hnew : s'.pendingResponses.lookup id = some s.promises := by
    rw [hpending, AList.lookup_insert]
  have hold {id' : UInt32} {q : Promise} (h : s.pendingResponses.lookup id' = some q) :
      s'.pendingResponses.lookup id' = some q := by
    have hne : id' ≠ id := by
      rintro rfl
      rw [AList.lookup_eq_none.2 hid] at h
      cases h
    rw [hpending, AList.lookup_insert_ne hne, h]
  have hcases {id' : UInt32} {q : Promise} (h : s'.pendingResponses.lookup id' = some q) :
      (id' = id ∧ q = s.promises) ∨ s.pendingResponses.lookup id' = some q := by
    by_cases hne : id' = id
    · subst hne
      rw [hnew] at h
      exact .inl ⟨rfl, (Option.some.inj h).symm⟩
    · rw [hpending, AList.lookup_insert_ne hne] at h
      exact .inr h
  have hpromisesEq : ({ t with queued := t.queued ++ [⟨some s.promises, id, call⟩] } :
      Traffic).promises = t.promises ++ [s.promises] := by
    rw [Traffic.promises, tags_queue, List.filterMap_append]
    rfl
  refine ⟨?_, hB.replies, ?_, ?_, ?_, ?_, ?_, ?_⟩
  · intro m hm
    rw [← List.append_assoc] at hm
    rcases List.mem_append.1 hm with hm | hm
    · exact hB.sent m hm
    · obtain rfl := List.mem_singleton.1 hm
      exact iff_of_false nofun hcall
  · rw [hpromisesEq]
    refine List.nodup_append.2 ⟨hB.once, List.nodup_singleton _, ?_⟩
    rintro q hq q' hq' rfl
    obtain rfl := List.mem_singleton.1 hq'
    exact absurd (hB.made _ hq) (lt_irrefl _)
  · intro q hq
    rw [hpromisesEq] at hq
    rw [hpromises]
    rcases List.mem_append.1 hq with hq | hq
    · exact (hB.made q hq).trans (Nat.lt_succ_self _)
    · obtain rfl := List.mem_singleton.1 hq
      exact Nat.lt_succ_self _
  · intro hs tag htag q hq
    rw [tags_queue] at htag
    rcases List.mem_append.1 htag with htag | htag
    · exact hold (hB.registered (hconnection ▸ hs) tag htag q hq)
    · obtain rfl := List.mem_singleton.1 htag
      cases hq
      exact hnew
  · intro m hm q hq
    rcases List.mem_append.1 hm with hm | hm
    · exact hold (hB.registeredQueued m hm q hq)
    · obtain rfl := List.mem_singleton.1 hm
      cases hq
      exact hnew
  · intro id₁ id₂ q h₁ h₂
    rcases hcases h₁ with ⟨rfl, rfl⟩ | h₁ <;> rcases hcases h₂ with ⟨rfl, hq⟩ | h₂
    · rfl
    · exact absurd (hB.pendingMade _ _ h₂) (lt_irrefl _)
    · exact absurd hq (hB.pendingMade _ _ h₁).ne
    · exact hB.pendingInj _ _ _ h₁ h₂
  · intro id' q h
    rw [hpromises]
    rcases hcases h with ⟨rfl, rfl⟩ | h
    · exact Nat.lt_succ_self _
    · exact (hB.pendingMade _ _ h).trans (Nat.lt_succ_self _)

/-- A response leaves the traffic, and its promise stops waiting. -/
theorem Booked.answer (hB : Booked issued s t) {r : Reply} {rest : List Reply}
    (harriving : t.arriving = r :: rest) {q : Promise} (hq : r.promise = some q)
    (hs : s.connection ≠ none) (hpending : s'.pendingResponses = s.pendingResponses.erase r.id)
    (hpromises : s'.promises = s.promises) : Booked issued s' { t with arriving := rest } := by
  have htags : t.tags = r.tag :: ({ t with arriving := rest } : Traffic).tags := by
    simp [Traffic.tags, harriving]
  have hpart : ({ t with arriving := rest } : Traffic).Part t :=
    ⟨harriving ▸ List.sublist_cons_self .., List.Sublist.refl _, List.Sublist.refl _,
      List.Sublist.refl _⟩
  have hlookup : s.pendingResponses.lookup r.id = some q :=
    hB.registered hs r.tag (htags ▸ List.mem_cons_self ..) q hq
  have hfresh : q ∉ ({ t with arriving := rest } : Traffic).promises := by
    have honce := hB.once
    rw [Traffic.promises, htags, List.filterMap_cons_some (show r.tag.1 = some q from hq)] at honce
    exact (List.nodup_cons.1 honce).1
  -- what else is in the traffic waits for another promise, so for another id
  have hkeep {tag : Option Promise × UInt32}
      (htag : tag ∈ ({ t with arriving := rest } : Traffic).tags) (h : Registered s tag) :
      Registered s' tag := by
    intro q' hq'
    have hne : tag.2 ≠ r.id := by
      intro hid
      have hsame := h q' hq'
      rw [hid, hlookup] at hsame
      cases hsame
      exact hfresh (List.mem_filterMap.2 ⟨tag, htag, hq'⟩)
    rw [hpending, AList.lookup_erase_ne hne]
    exact h q' hq'
  have hold {id : UInt32} {q' : Promise} (h : s'.pendingResponses.lookup id = some q') :
      s.pendingResponses.lookup id = some q' := by
    have hne : id ≠ r.id := by
      rintro rfl
      rw [hpending, AList.lookup_erase] at h
      cases h
    rwa [hpending, AList.lookup_erase_ne hne] at h
  exact {
    sent := hB.sent
    replies := fun r hr => hB.replies r (hpart.replies.subset hr)
    once := hB.once.sublist hpart.promises
    made := fun q' hq' => hpromises ▸ hB.made q' (hpart.promises.subset hq')
    registered := fun _ tag htag => hkeep htag (hB.registered hs tag (hpart.tags.subset htag))
    registeredQueued := fun m hm =>
      hkeep (List.mem_append_right _ (List.mem_map_of_mem (List.mem_append_right _ hm)))
        (hB.registeredQueued m hm)
    pendingInj := fun id id' q' h h' => hB.pendingInj id id' q' (hold h) (hold h')
    pendingMade := fun id q' h => hpromises ▸ hB.pendingMade id q' (hold h) }

end Booked

end Webfuse
