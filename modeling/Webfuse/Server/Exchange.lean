/-
# Requests and answers

What is queued, written, registered and completed over a run of the server, read
off the effects of its steps.  The queue and the map of promises are changed by
seven callbacks; what each does to them is said once (`Outcome.queue`,
`Outcome.pending`, `Outcome.completed_cases`), and the invariants follow from that.

`server_atMostOnce` holds in every run: what is written is a part of what was
queued, in its order, and a promise is completed at most once, by a message with
the id of its request.
-/

import Webfuse.Server.History

namespace Webfuse

open Basis MessageWriter

/-! ### Effects of a kind -/

namespace ServerEffect

def written? : ServerEffect → Option Bytes
  | write _ data => some data
  | _ => none

def queued? : ServerEffect → Option (Option Promise × MessageWriter)
  | queued promise writer => some (promise, writer)
  | _ => none

def completed? : ServerEffect → Option Promise
  | setValue promise _ => some promise
  | _ => none

end ServerEffect

open ServerEffect

/-- The messages that were written. -/
def written (h : List ServerEntry) : List Bytes := collect written? h

/-- The messages that were queued, with the promises they are for. -/
def queued (h : List ServerEntry) : List (Option Promise × MessageWriter) := collect queued? h

/-- The promises that were completed with a value. -/
def completed (h : List ServerEntry) : List Promise := collect completed? h

/-! ### What a step does to the queue and the promises -/

namespace ServerHandler.Outcome

variable {s s' : ServerHandler} {e : ServerEvent} {effects : List ServerEffect}

/-- What is written and what is left in the queue was in the queue, or is queued
in this step; the order is kept. -/
theorem queue (ho : s.Outcome e s' effects) :
    (effects.filterMap written? ++ s'.requests.map MessageWriter.data).Sublist
      (s.requests.map MessageWriter.data ++
        (effects.filterMap queued?).map fun q => q.2.data) := by
  cases ho with
  | writableWrite writer rest hr hs =>
      split_ifs <;> simp [written?, queued?, List.filterMap, hr]
  | pollClear hr hc => simp [written?, queued?, List.filterMap_map, Function.comp_def]
  | _ => simp [written?, queued?, List.filterMap]

/-- Every message that is queued has its id in the first four bytes. -/
theorem stamped (ho : s.Outcome e s' effects) {q : Option Promise × MessageWriter}
    (hq : q ∈ effects.filterMap queued?) : q.2.data.take 4 = bytesOfU32 q.2.id := by
  have hstamp (writer : MessageWriter) (id : UInt32) :
      (writer.setId id).data.take 4 = bytesOfU32 (writer.setId id).id := by
    rw [setId_data]
    rfl
  cases ho with
  | establishAsking =>
      obtain rfl : q = (none, ServerHandler.getcreds) := by
        simpa [queued?, List.filterMap] using hq
      exact hstamp _ _
  | performCollision h hid =>
      rename_i writer
      obtain rfl : q = (some s.promises, writer.setId s.nextId.id) := by
        simpa [queued?, List.filterMap] using hq
      exact hstamp _ _
  | performRegister h hid =>
      rename_i writer
      obtain rfl : q = (some s.promises, writer.setId s.nextId.id) := by
        simpa [queued?, List.filterMap] using hq
      exact hstamp _ _
  | writableWrite writer rest hr hs => split_ifs at hq <;> simp [queued?, List.filterMap] at hq
  | pollClear hr hc => simp [queued?] at hq
  | _ => simp [queued?, List.filterMap] at hq

/-- A request is queued for a promise that is new. -/
theorem promise_new (ho : s.Outcome e s' effects) {p : Promise} {writer : MessageWriter}
    (hq : (some p, writer) ∈ effects.filterMap queued?) :
    p = s.promises ∧ s'.promises = s.promises + 1 := by
  cases ho with
  | writableWrite writer rest hr hs => split_ifs at hq <;> simp [queued?, List.filterMap] at hq
  | pollClear hr hc => simp [queued?] at hq
  | _ => simp_all [queued?, List.filterMap]

theorem promises_le (ho : s.Outcome e s' effects) : s.promises ≤ s'.promises := by
  cases ho <;> simp

/-- A promise that waits after a step waited before it, or is new and waits for
the id of the request that was queued for it. -/
theorem pending (ho : s.Outcome e s' effects) {id : UInt32} {p : Promise}
    (hp : s'.pendingResponses.lookup id = some p) :
    s.pendingResponses.lookup id = some p ∨
      ∃ writer, effects.filterMap queued? = [(some p, writer)] ∧ writer.id = id := by
  cases ho with
  | receiveAnswer id' promise type rest hmessage htype hlookup =>
      by_cases hid : id = id'
      · subst hid
        simp at hp
      · rw [AList.lookup_erase_ne hid] at hp
        exact .inl hp
  | pollClear hr hc => simp at hp
  | performRegister h hnew =>
      rename_i writer
      by_cases hid : id = s.nextId.id
      · subst hid
        obtain rfl : s.promises = p := by simpa using hp
        exact .inr ⟨writer.setId s.nextId.id, rfl, rfl⟩
      · rw [AList.lookup_insert_ne hid] at hp
        exact .inl hp
  | _ => exact .inl hp

/-- In a step at most one promise is completed; it waited before the step and
does not after it. -/
theorem completed_cases (ho : s.Outcome e s' effects) :
    effects.filterMap completed? = [] ∨ ∃ id p, effects.filterMap completed? = [p] ∧
      s.pendingResponses.lookup id = some p ∧
        s'.pendingResponses = s.pendingResponses.erase id := by
  cases ho with
  | receiveAnswer id promise type rest hmessage htype hlookup =>
      exact .inr ⟨id, promise, rfl, hlookup, rfl⟩
  | writableWrite writer rest hr hs =>
      left
      split_ifs <;> rfl
  | pollClear hr hc =>
      left
      simp [completed?, List.filterMap_map, Function.comp_def]
  | _ => exact .inl rfl

end ServerHandler.Outcome

/-! ### At most once -/

/-- The promise `p` is completed in the step `x`, after `h`, by the answer to its
request: a whole message from a client, which begins with the id of every
request that was queued for `p`, of which there is one, and whose reader stands
behind the header. -/
structure Answers (h : List ServerEntry) (x : ServerEntry) (p : Promise) (reader : MessageReader) :
    Prop where
  message : ∃ w fragment verdict, x.event = .onReceive w fragment true verdict ∧
    reader.data = x.pre.currentMessage ++ fragment ∧ .dispatched reader.data ∈ x.effects
  position : reader.pos = 5
  request : ∃ writer, (some p, writer) ∈ queued h
  id : ∀ writer, (some p, writer) ∈ queued h → reader.data.take 4 = bytesOfU32 writer.id

/-- The queue and the promises, with what happened. -/
structure ExchangeInvariant (h : List ServerEntry) (s : ServerHandler) : Prop where
  queue : (written h ++ s.requests.map MessageWriter.data).Sublist
    ((queued h).map fun q => q.2.data)
  stamped : ∀ q ∈ queued h, q.2.data.take 4 = bytesOfU32 q.2.id
  allocated : ∀ p writer, (some p, writer) ∈ queued h → p < s.promises
  pending : ∀ id p, s.pendingResponses.lookup id = some p →
    (∃ writer, (some p, writer) ∈ queued h) ∧
      (∀ writer, (some p, writer) ∈ queued h → writer.id = id) ∧ p ∉ completed h
  completed_lt : ∀ p ∈ completed h, p < s.promises
  once : (completed h).Nodup
  answered : ∀ h₁ x h₂, h = h₁ ++ x :: h₂ → ∀ p reader, .setValue p reader ∈ x.effects →
    Answers h₁ x p reader

section Step

variable {h : List ServerEntry} {s s' : ServerHandler} {e : ServerEvent}
  {effects : List ServerEffect}

theorem queued_append (h : List ServerEntry) (x : ServerEntry) :
    queued (h ++ [x]) = queued h ++ x.effects.filterMap queued? :=
  collect_append_singleton ..

theorem completed_append (h : List ServerEntry) (x : ServerEntry) :
    completed (h ++ [x]) = completed h ++ x.effects.filterMap completed? :=
  collect_append_singleton ..

/-- A promise that waits was made before. -/
theorem ExchangeInvariant.pending_lt (hI : ExchangeInvariant h s) {id : UInt32} {p : Promise}
    (hp : s.pendingResponses.lookup id = some p) : p < s.promises := by
  obtain ⟨⟨writer, hw⟩, -⟩ := hI.pending id p hp
  exact hI.allocated p writer hw

/-- A promise waits for one id. -/
theorem ExchangeInvariant.pending_inj (hI : ExchangeInvariant h s) {id id' : UInt32} {p : Promise}
    (hp : s.pendingResponses.lookup id = some p) (hp' : s.pendingResponses.lookup id' = some p) :
    id = id' := by
  obtain ⟨⟨writer, hw⟩, hid, -⟩ := hI.pending id p hp
  obtain ⟨-, hid', -⟩ := hI.pending id' p hp'
  exact (hid writer hw).symm.trans (hid' writer hw)

theorem ExchangeInvariant.step_queue (hI : ExchangeInvariant h s) (ho : s.Outcome e s' effects) :
    (written (h ++ [⟨s, e, effects⟩]) ++ s'.requests.map MessageWriter.data).Sublist
      ((queued (h ++ [⟨s, e, effects⟩])).map fun q => q.2.data) := by
  have hstep := ho.queue.append_left (written h)
  have hrest := hI.queue.append_right ((effects.filterMap queued?).map fun q => q.2.data)
  rw [written, collect_append_singleton, queued_append, List.map_append, List.append_assoc]
  rw [List.append_assoc] at hrest
  exact hstep.trans hrest

theorem ExchangeInvariant.step_pending (hI : ExchangeInvariant h s) (ho : s.Outcome e s' effects)
    (id : UInt32) (p : Promise) (hp : s'.pendingResponses.lookup id = some p) :
    (∃ writer, (some p, writer) ∈ queued (h ++ [⟨s, e, effects⟩])) ∧
      (∀ writer, (some p, writer) ∈ queued (h ++ [⟨s, e, effects⟩]) → writer.id = id) ∧
      p ∉ completed (h ++ [⟨s, e, effects⟩]) := by
  rw [queued_append, completed_append]
  rcases ho.pending hp with hold | ⟨writer, hnew, hid⟩
  · obtain ⟨⟨writer, hw⟩, hid, hnot⟩ := hI.pending id p hold
    refine ⟨⟨writer, List.mem_append_left _ hw⟩, ?_, ?_⟩
    · intro writer' hw'
      rcases List.mem_append.1 hw' with hw' | hw'
      · exact hid writer' hw'
      · exact absurd (ho.promise_new hw').1 (hI.pending_lt hold).ne
    · intro hmem
      rcases List.mem_append.1 hmem with hmem | hmem
      · exact hnot hmem
      · rcases ho.completed_cases with hnone | ⟨id', p', hone, hlookup, herase⟩
        · simp [hnone] at hmem
        · obtain rfl : p = p' := by simpa [hone] using hmem
          obtain rfl := hI.pending_inj hold hlookup
          rw [herase, AList.lookup_erase] at hp
          cases hp
  · have hmem : (some p, writer) ∈ effects.filterMap queued? := by simp [hnew]
    obtain ⟨hp', -⟩ := ho.promise_new hmem
    refine ⟨⟨writer, List.mem_append_right _ hmem⟩, ?_, ?_⟩
    · intro writer' hw'
      rcases List.mem_append.1 hw' with hw' | hw'
      · exact absurd hp' (hI.allocated p writer' hw').ne
      · obtain rfl : writer' = writer := by simpa [hnew] using hw'
        exact hid
    · intro hmem
      rcases List.mem_append.1 hmem with hmem | hmem
      · exact absurd hp' (hI.completed_lt p hmem).ne
      · rcases ho.completed_cases with hnone | ⟨id', p'', hone, hlookup, -⟩
        · simp [hnone] at hmem
        · obtain rfl : p = p'' := by simpa [hone] using hmem
          exact absurd hp' (hI.pending_lt hlookup).ne

theorem ExchangeInvariant.step_completed (hI : ExchangeInvariant h s)
    (ho : s.Outcome e s' effects) :
    (∀ p ∈ completed (h ++ [⟨s, e, effects⟩]), p < s'.promises) ∧
      (completed (h ++ [⟨s, e, effects⟩])).Nodup := by
  rw [completed_append]
  have hold : ∀ p ∈ completed h, p < s'.promises := fun p hp =>
    (hI.completed_lt p hp).trans_le ho.promises_le
  rcases ho.completed_cases with hnone | ⟨id, p, hone, hlookup, -⟩
  · rw [hnone, List.append_nil]
    exact ⟨hold, hI.once⟩
  · rw [hone]
    obtain ⟨-, -, hnot⟩ := hI.pending id p hlookup
    constructor
    · intro p' hp'
      rcases List.mem_append.1 hp' with hp' | hp'
      · exact hold p' hp'
      · obtain rfl : p' = p := by simpa using hp'
        exact (hI.pending_lt hlookup).trans_le ho.promises_le
    · exact List.nodup_append.2 ⟨hI.once, by simp, by
        rintro a ha b hb rfl
        obtain rfl : a = p := by simpa using hb
        exact hnot ha⟩

theorem ExchangeInvariant.step_answered (hI : ExchangeInvariant h s) (ho : s.Outcome e s' effects)
    {p : Promise} {reader : MessageReader} (hp : .setValue p reader ∈ effects) :
    Answers h ⟨s, e, effects⟩ p reader := by
  obtain ⟨w, fragment, verdict, id, rfl, rfl, hdisp, hid, hlookup⟩ := ho.of_setValue hp
  obtain ⟨hrequest, hids, -⟩ := hI.pending id p hlookup
  refine ⟨⟨w, fragment, verdict, rfl, rfl, hdisp⟩, rfl, hrequest, ?_⟩
  intro writer hw
  rw [hids writer hw, hid]

theorem ExchangeInvariant.step (hI : ExchangeInvariant h s) (ho : s.Outcome e s' effects) :
    ExchangeInvariant (h ++ [⟨s, e, effects⟩]) s' where
  queue := hI.step_queue ho
  stamped q hq := by
    rw [queued_append] at hq
    rcases List.mem_append.1 hq with hq | hq
    · exact hI.stamped q hq
    · exact ho.stamped hq
  allocated p writer hw := by
    rw [queued_append] at hw
    rcases List.mem_append.1 hw with hw | hw
    · exact (hI.allocated p writer hw).trans_le ho.promises_le
    · obtain ⟨rfl, hsucc⟩ := ho.promise_new hw
      rw [hsucc]
      exact Nat.lt_succ_self _
  pending := hI.step_pending ho
  completed_lt := (hI.step_completed ho).1
  once := (hI.step_completed ho).2
  answered h₁ x h₂ hsplit p reader hp := by
    rcases split_append_singleton hsplit with ⟨rfl, rfl⟩ | ⟨h₂, hsplit⟩
    · exact hI.step_answered ho hp
    · exact hI.answered h₁ x h₂ hsplit p reader hp

end Step

end Webfuse
