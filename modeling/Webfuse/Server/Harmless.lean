/-
# Messages that do no harm

What a peer sends is put together and given to a reader, and the reader may throw at
three places: in the header, behind it where `finish_authentication` reads the
credentials, and nowhere else.  In each case `catch(...)` ends the message, and the
session and the message that is put together are what they were.  So are they when the
message is a response that nobody waits for.
-/

import Webfuse.Server.Order

namespace Webfuse

open Basis

namespace ServerHandler

variable (s : ServerHandler)

/-- The credentials of a response to `getcreds`, which stand behind its header, are not
all there. -/
def CredentialsTruncated (message : Bytes) : Prop :=
  ¬ 9 + (wordAt message 5).toNat ≤ message.length

/-- A message the server can do nothing with: it has no header, or truncated
credentials, or the id of no request that waits. -/
inductive Refuses (message : Bytes) : Prop
  | header (h : message.length < 5)
  | credentials (h : 5 ≤ message.length)
      (htype : typeByte message = ResponseType.getcreds.toByte)
      (htruncated : CredentialsTruncated message)
  | id (h : 5 ≤ message.length) (htype : typeByte message ≠ ResponseType.getcreds.toByte)
      (hid : messageId message ∉ s.pendingResponses)

/-- Credentials that are truncated change nothing. -/
theorem finishAuthentication_truncated {message : Bytes} (h : CredentialsTruncated message)
    (wsi : Wsi) (verdict : Bool) :
    s.finishAuthentication wsi ⟨message, 5⟩ verdict = (s, []) := by
  obtain ⟨pos, herr⟩ := readBytes_error (m := ()) h
  have hread : (readStr : ReadM Unit Bytes) ⟨⟨message, 5⟩, ()⟩ = _ := herr
  unfold finishAuthentication
  rw [hread]

/-- **What is refused changes nothing.** -/
theorem dispatch_refused {message : Bytes} (h : s.Refuses message) (wsi : Wsi)
    (verdict : Bool) : s.dispatch wsi message verdict = (s, []) := by
  unfold dispatch
  cases h with
  | header h =>
      obtain ⟨e, st, hread⟩ := readHeader_error (m := ()) h
      rw [hread]
  | credentials h htype htruncated =>
      rw [readHeader_of_length h]
      simp only [if_pos htype]
      exact s.finishAuthentication_truncated htruncated wsi verdict
  | id h htype hid =>
      rw [readHeader_of_length h]
      simp only [if_neg htype]
      rw [AList.lookup_eq_none.2 hid]

end ServerHandler

/-- **Bad messages are harmless.**  Between two messages, and in whatever fragments it
comes: a message that is refused leaves the state of the server as it was and does
nothing but end; and a message for a request that waits, unless it is a response to
`getcreds`, takes the entry of its id out of `pending_responses` and leaves the rest. -/
theorem messages_harmless (authApp authHdr : Bytes) (s : ServerHandler)
    (hs : s.currentMessage = []) (d : Delivery) :
    (s.Refuses d.message →
      (server authApp authHdr).stateFrom s d.events = s ∧
      ((server authApp authHdr).traceFrom s d.events).flatMap Entry.effects =
        [.dispatched d.message]) ∧
    (IsResponse d.message → ∀ promise,
      s.pendingResponses.lookup (messageId d.message) = some promise →
        (server authApp authHdr).stateFrom s d.events =
          { s with pendingResponses := s.pendingResponses.erase (messageId d.message) } ∧
        ((server authApp authHdr).traceFrom s d.events).flatMap Entry.effects =
          [.dispatched d.message, .setValue promise ⟨d.message, 5⟩]) ∧
    (¬ s.Refuses d.message → typeByte d.message ≠ ResponseType.getcreds.toByte →
      IsResponse d.message ∧ messageId d.message ∈ s.pendingResponses) := by
  obtain ⟨hafter, hdone⟩ := s.stateFrom_events authApp authHdr hs d
  refine ⟨?_, ?_, ?_⟩
  · intro hrefused
    rw [hafter, hdone, s.dispatch_refused hrefused]
    exact ⟨rfl, rfl⟩
  · intro hresponse promise hlookup
    obtain ⟨hstate, heffects⟩ := s.stateFrom_delivery authApp authHdr hs d hresponse
    refine ⟨hstate, heffects.trans ?_⟩
    rw [ServerHandler.settled, hlookup]
    rfl
  · intro hnot htype
    have hlen : 5 ≤ d.message.length := by
      by_contra hshort
      exact hnot (.header (Nat.lt_of_not_le hshort))
    refine ⟨⟨hlen, htype⟩, ?_⟩
    by_contra hid
    exact hnot (.id hlen htype hid)

/-- Credentials that announce four bytes and have one, in two fragments. -/
theorem messages_harmless_truncated :
    let s := (server [1] []).state [.filterConnection 1 .empty true, .onEstablished 1]
    let d : Delivery := ⟨[(1, [0, 0, 0, 1], true)], (1, [0x97, 0, 0, 0, 4, 0x61], true)⟩
    s.currentMessage = [] ∧ (server [1] []).stateFrom s d.events = s := by
  intro s d
  refine ⟨rfl, ?_⟩
  have htruncated : ServerHandler.CredentialsTruncated d.message := by
    unfold ServerHandler.CredentialsTruncated
    decide
  exact ((messages_harmless [1] [] s rfl d).1 (.credentials (by decide) rfl htruncated)).1

end Webfuse
