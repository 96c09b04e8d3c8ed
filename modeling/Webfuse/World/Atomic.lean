/-
# Calls that take effect at once

What the service and its provider are for, as the threads that call `perform` see it:
an object on which every call takes effect at one moment between its invocation and
its return.  The calls that are invoked are executed in the order of their invocation,
one at a time, as `loopback` does it: there is no network, no queue and no other
thread.  A call that is answered is answered with what its execution returned.

The object may lose a call, before or after it is executed, and may break its promise,
also when the call is still to be executed.  It never executes a call twice and resolves
a promise at most once.
-/

import Webfuse.Basis.Refinement
import Webfuse.Server.Handler
import Webfuse.Wire.Arguments
import Webfuse.Wire.Transparency

namespace Webfuse

open Basis MessageWriter

variable {σ : Type}

/-- What the callers of `perform` see. -/
inductive Observed
  | invoked (promise : Promise) (request : MessageWriter)
  | refused (promise : Promise) (e : Exn)
  | returned (promise : Promise) (reader : MessageReader)
  | broken (promise : Promise)
deriving DecidableEq

/-- A call that was invoked, with the promise made for it and the id of its request. -/
structure Invocation where
  promise : Promise
  id : UInt32
  call : FsCall

/-- The state of the filesystem, the number of promises made, the calls to be executed,
the answers to be returned and the promises that are neither kept nor broken. -/
structure Atomic (σ : Type) where
  state : σ
  promises : ℕ
  waiting : List Invocation
  answers : List (Promise × MessageReader)
  unresolved : Set Promise

/-- What the object may do. -/
inductive Atomic.Step (p : Provider σ) (a : Atomic σ) : List Observed → Atomic σ → Prop
  | invoke (id : UInt32) (call : FsCall) (hcall : call ≠ .getCredentials) :
      Step p a [.invoked a.promises (call.request.setId id)]
        { a with
          promises := a.promises + 1
          waiting := a.waiting ++ [⟨a.promises, id, call⟩]
          unresolved := insert a.promises a.unresolved }
  | refuse (e : Exn) : Step p a [.refused a.promises e] { a with promises := a.promises + 1 }
  | execute {i : Invocation} {waiting : List Invocation} {reader : MessageReader} {s : σ}
      (hhead : a.waiting = i :: waiting)
      (hrun : loopback p i.id i.call.request a.state = .ok reader s) :
      Step p a [] { a with
        state := s, waiting := waiting, answers := a.answers ++ [(i.promise, reader)] }
  /-- The filesystem throws, and there is no answer. -/
  | throw {i : Invocation} {waiting : List Invocation} {e : Exn} {s : σ}
      (hhead : a.waiting = i :: waiting)
      (hrun : loopback p i.id i.call.request a.state = .error e s) :
      Step p a [] { a with state := s, waiting := waiting }
  /-- The service asks for credentials, which may change the state. -/
  | askCredentials (s : σ) (h : finalState (p.fs.getCredentials a.state) = s) :
      Step p a [] { a with state := s }
  | answer {promise : Promise} {reader : MessageReader} {answers : List (Promise × MessageReader)}
      (hhead : a.answers = (promise, reader) :: answers) (hopen : promise ∈ a.unresolved) :
      Step p a [.returned promise reader]
        { a with answers := answers, unresolved := a.unresolved \ {promise} }
  | lose {waiting : List Invocation} {answers : List (Promise × MessageReader)}
      (hwaiting : waiting.Sublist a.waiting) (hanswers : answers.Sublist a.answers) :
      Step p a [] { a with waiting := waiting, answers := answers }
  | abandon {promises : List Promise} (hnodup : promises.Nodup)
      (hopen : ∀ promise ∈ promises, promise ∈ a.unresolved) :
      Step p a (promises.map .broken)
        { a with unresolved := a.unresolved \ {promise | promise ∈ promises} }

/-- The object over a provider whose filesystem starts in the state `s`. -/
def atomic (p : Provider σ) (s : σ) : Lts (Atomic σ) Observed where
  init := ⟨s, 0, [], [], ∅⟩
  Step := Atomic.Step p

/-! ### The provider on a request of the service -/

namespace Provider

variable (p : Provider σ)

/-- The handler on the request of a call. -/
theorem handler_request (id : UInt32) (call : FsCall) (s : σ) :
    p.handler (call.request.setId id).data s =
      p.serve (responseHeader call.requestType id) call.decoded s := by
  unfold handler
  rw [p.onMessage_request call id s]
  unfold onMemory
  cases p.serve (responseHeader call.requestType id) call.decoded s <;> rfl

/-- A request is answered with the response of its own id and type, or not at all. -/
theorem handler_cases (id : UInt32) (call : FsCall) (s : σ) :
    (∃ resp s' payload, p.handler (call.request.setId id).data s = .ok resp s' ∧
      resp.data = bytesOfU32 id ++ (getResponseType call.requestType).toByte :: payload) ∨
    ∃ e s', p.handler (call.request.setId id).data s = .error e s' := by
  rw [handler_request]
  obtain ⟨resp, s', hserve, -, payload, hdata⟩ | ⟨e, s', hserve, -⟩ :=
    p.serve_cases (responseHeader call.requestType id) call.decoded s
  · have hheader : (responseHeader call.requestType id).data =
        bytesOfU32 id ++ [(getResponseType call.requestType).toByte] := by
      rw [responseHeader, setId_data]
      rfl
    refine .inl ⟨resp, s', payload, hserve, ?_⟩
    rw [← hdata, hheader, List.append_assoc, List.singleton_append]
  · exact .inr ⟨e, s', hserve⟩

/-- `loopback` returns the answer of the handler, read up to its payload. -/
theorem loopback_of_ok {id : UInt32} {call : FsCall} (hcall : call ≠ .getCredentials) {s s' : σ}
    {resp : MessageWriter} (h : p.handler (call.request.setId id).data s = .ok resp s') :
    loopback p id call.request s = .ok ⟨resp.data, 5⟩ s' := by
  rw [handler_request] at h
  have htype : call.requestType ≠ .getcreds := by
    cases call with
    | getCredentials => exact absurd rfl hcall
    | _ => nofun
  have hlen : (responseHeader call.requestType id).data.length = 5 := by
    rw [responseHeader_data]
    rfl
  obtain ⟨resp', s'', hserve, -, payload, hdata⟩ | ⟨e, s'', hserve, -⟩ :=
    p.serve_cases (responseHeader call.requestType id) call.decoded s
  · obtain ⟨rfl, rfl⟩ : resp = resp' ∧ s' = s'' := by simpa [h] using hserve
    rw [loopback_eq p id call htype h hdata.symm, hlen]
  · rw [h] at hserve
    cases hserve

theorem loopback_of_error {id : UInt32} {call : FsCall} {s s' : σ} {e : Exn}
    (h : p.handler (call.request.setId id).data s = .error e s') :
    loopback p id call.request s = .error e s' := by
  unfold loopback
  rw [h]

/-- The request for credentials is answered with what `get_credentials` returns. -/
theorem handler_getcreds (id : UInt32) (s : σ) :
    p.handler (FsCall.getCredentials.request.setId id).data s =
      (p.fs.getCredentials >>= fun credentials => pure
        ((responseHeader .getcreds id).writeStr credentials)) s := by
  rw [handler_request]
  rfl

/-- The request for credentials does to the state what `get_credentials` does. -/
theorem finalState_handler_getcreds (id : UInt32) (s : σ) :
    finalState (p.handler (FsCall.getCredentials.request.setId id).data s) =
      finalState (p.fs.getCredentials s) := by
  rw [handler_getcreds]
  cases h : p.fs.getCredentials s with
  | ok credentials s' => rw [bind_of_ok h]; rfl
  | error e s' => rw [bind_of_error h]; rfl

/-- The response to the request for credentials carries what `get_credentials` returned. -/
theorem handler_getcreds_ok {id : UInt32} {s s' : σ} {resp : MessageWriter}
    (h : p.handler (FsCall.getCredentials.request.setId id).data s = .ok resp s') :
    ∃ credentials, p.fs.getCredentials s = .ok credentials s' ∧
      resp.data = bytesOfU32 id ++ ResponseType.getcreds.toByte :: bytesOfData credentials := by
  rw [handler_getcreds] at h
  cases hrun : p.fs.getCredentials s with
  | ok credentials s'' =>
      rw [bind_of_ok hrun] at h
      injection h with hresp hs
      subst hs
      refine ⟨credentials, rfl, ?_⟩
      rw [← hresp, writeStr_data, responseHeader_data, List.append_assoc]
      rfl
  | error e s'' =>
      rw [bind_of_error hrun] at h
      cases h

end Provider

end Webfuse
