/-
# `ws_server::perform`

`src/webfuse/ws/server.cpp`: a call hands its request to the handler, waits for the
future until the timeout, and returns its value or throws.  `WsServer` is the
handler with the futures and the calls that are over; a call begins with the step
`perform` of the handler and ends with the step `wait`, at any later time.  A wait
ends ready when the promise was given a value or an exception or was destroyed,
and by timeout otherwise.

A call is over in one of four ways.  Where it is answered, its entry in
`pending_responses` is erased; where it is refused, there is none; where `poll`
drops the queue, it drops the entries too.  Where it times out the entry stays, with
a promise nobody waits for, and is counted among the waiting requests until a late
answer or a dropped queue takes it away.
-/

import Mathlib.Logic.Function.Basic
import Webfuse.Server.History

namespace Webfuse

open Basis

/-- `class ws_server`: the handler, what the futures hold that are ready, and the calls
of `perform` that are over. -/
structure WsServer where
  data : ServerHandler
  futures : Promise → Option (Except Exn MessageReader)
  finished : List Promise

/-- A step of the handler, or the end of a wait of `perform`. -/
inductive WsServerEvent
  | handler (e : ServerEvent)
  | wait (promise : Promise)

inductive WsServerEffect
  | handler (o : ServerEffect)
  /-- `perform` returns. -/
  | returned (promise : Promise) (reader : MessageReader)
  /-- `perform` throws. -/
  | threw (promise : Promise) (e : Exn)

/-- What an effect of the handler makes of a future; a promise that is destroyed
without a value breaks it. -/
def ServerEffect.settles : ServerEffect → Option (Promise × Except Exn MessageReader)
  | setValue promise reader => some (promise, .ok reader)
  | setException promise e => some (promise, .error e)
  | broken promise => some (promise, .error ⟨"broken promise"⟩)
  | _ => none

/-- The futures after an effect. -/
def settleFuture (futures : Promise → Option (Except Exn MessageReader)) (o : ServerEffect) :
    Promise → Option (Except Exn MessageReader) :=
  match o.settles with
  | some (promise, result) => Function.update futures promise (some result)
  | none => futures

namespace WsServer

variable (s : WsServer)

def onHandler (e : ServerEvent) : WsServer × List WsServerEffect :=
  ({ s with data := (s.data.step e).1, futures := (s.data.step e).2.foldl settleFuture s.futures },
    (s.data.step e).2.map .handler)

/-- The end of a wait, of a call that is under way. -/
def onWait (promise : Promise) : WsServer × List WsServerEffect :=
  if promise < s.data.promises ∧ promise ∉ s.finished then
    ({ s with finished := promise :: s.finished },
      match s.futures promise with
      | some (.ok reader) => [.returned promise reader]
      | some (.error e) => [.threw promise e]
      | none => [.threw promise ⟨"timeout"⟩])
  else (s, [])

def step : WsServerEvent → WsServer × List WsServerEffect
  | .handler e => s.onHandler e
  | .wait promise => s.onWait promise

end WsServer

/-- A `ws_server` and the calls of its `perform`. -/
def wsServer (authApp authHdr : Bytes) : Machine WsServer WsServerEvent WsServerEffect where
  init := ⟨.make authApp authHdr, fun _ => none, []⟩
  step := WsServer.step

/-! ### Promises are ready or waited for -/

/-- Every promise that was made is ready or waits for one id, never both. -/
structure PromiseInvariant (s : ServerHandler)
    (futures : Promise → Option (Except Exn MessageReader)) : Prop where
  settled : ∀ p < s.promises, futures p ≠ none ∨ ∃ id, s.pendingResponses.lookup id = some p
  pending : ∀ id p, s.pendingResponses.lookup id = some p → p < s.promises ∧ futures p = none
  inj : ∀ id id' p, s.pendingResponses.lookup id = some p →
    s.pendingResponses.lookup id' = some p → id = id'
  fresh : ∀ p, s.promises ≤ p → futures p = none

/-- A future is not ready when it was not and no effect settles it. -/
theorem foldl_settleFuture_eq_none (effects : List ServerEffect)
    (futures : Promise → Option (Except Exn MessageReader)) (p : Promise) :
    effects.foldl settleFuture futures p = none ↔
      futures p = none ∧ ∀ o ∈ effects, ∀ result, o.settles ≠ some (p, result) := by
  induction effects generalizing futures with
  | nil => simp
  | cons o effects ih =>
      rw [List.foldl_cons, ih, List.forall_mem_cons, ← and_assoc]
      refine and_congr_left fun _ => ?_
      unfold settleFuture
      cases hsettles : o.settles with
      | none => simp
      | some entry =>
          obtain ⟨q, result⟩ := entry
          by_cases hq : p = q
          · subst hq
            simp
          · simp [Function.update_of_ne hq, Ne.symm hq]

section Step

variable {s s' : ServerHandler} {e : ServerEvent} {effects : List ServerEffect}
  {futures : Promise → Option (Except Exn MessageReader)}

/-- A step that touches neither promises nor futures. -/
theorem PromiseInvariant.quiet (hI : PromiseInvariant s futures)
    (hpending : s'.pendingResponses = s.pendingResponses) (hpromises : s'.promises = s.promises)
    (hquiet : ∀ o ∈ effects, o.settles = none) :
    PromiseInvariant s' (effects.foldl settleFuture futures) := by
  have hsame (p : Promise) : effects.foldl settleFuture futures p = none ↔ futures p = none := by
    rw [foldl_settleFuture_eq_none]
    refine and_iff_left fun o ho result => ?_
    rw [hquiet o ho]
    simp
  refine ⟨?_, ?_, ?_, ?_⟩
  · rw [hpending, hpromises]
    exact fun p hp => (hI.settled p hp).imp_left fun hne => fun h => hne ((hsame p).1 h)
  · rw [hpending, hpromises]
    exact fun id p hp => ⟨(hI.pending id p hp).1, (hsame p).2 (hI.pending id p hp).2⟩
  · rw [hpending]
    exact hI.inj
  · rw [hpromises]
    exact fun p hp => (hsame p).2 (hI.fresh p hp)

/-- A promise that is made and settled at once. -/
theorem PromiseInvariant.refused (hI : PromiseInvariant s futures)
    (hpending : s'.pendingResponses = s.pendingResponses)
    (hpromises : s'.promises = s.promises + 1) (result : Except Exn MessageReader) :
    PromiseInvariant s' (Function.update futures s.promises (some result)) := by
  refine ⟨?_, ?_, ?_, ?_⟩
  · rw [hpending, hpromises]
    intro p hp
    by_cases hnew : p = s.promises
    · left
      simp [hnew]
    · rw [Function.update_of_ne hnew]
      exact hI.settled p (by omega)
  · rw [hpending, hpromises]
    intro id p hp
    obtain ⟨hlt, hnone⟩ := hI.pending id p hp
    rw [Function.update_of_ne hlt.ne]
    exact ⟨hlt.trans (Nat.lt_succ_self _), hnone⟩
  · rw [hpending]
    exact hI.inj
  · rw [hpromises]
    intro p hp
    have hne : p ≠ s.promises := by omega
    rw [Function.update_of_ne hne]
    exact hI.fresh p (by omega)

/-- The promise that is answered stops waiting. -/
theorem PromiseInvariant.answered (hI : PromiseInvariant s futures) {id : UInt32}
    {promise : Promise} (hlookup : s.pendingResponses.lookup id = some promise)
    (hpending : s'.pendingResponses = s.pendingResponses.erase id)
    (hpromises : s'.promises = s.promises) (result : Except Exn MessageReader) :
    PromiseInvariant s' (Function.update futures promise (some result)) := by
  have hold {id' : UInt32} {p : Promise} (hp : s'.pendingResponses.lookup id' = some p) :
      s.pendingResponses.lookup id' = some p ∧ p ≠ promise := by
    rw [hpending] at hp
    by_cases hid : id' = id
    · subst hid
      simp at hp
    · rw [AList.lookup_erase_ne hid] at hp
      refine ⟨hp, ?_⟩
      rintro rfl
      exact hid (hI.inj id' id p hp hlookup)
  refine ⟨?_, ?_, ?_, ?_⟩
  · rw [hpending, hpromises]
    intro p hp
    by_cases hsame : p = promise
    · left
      simp [hsame]
    · rw [Function.update_of_ne hsame]
      refine (hI.settled p hp).imp_right ?_
      rintro ⟨id', hid'⟩
      refine ⟨id', ?_⟩
      rw [AList.lookup_erase_ne, hid']
      rintro rfl
      rw [hlookup] at hid'
      exact hsame (Option.some.inj hid').symm
  · intro id' p hp
    obtain ⟨hp, hne⟩ := hold hp
    rw [Function.update_of_ne hne, hpromises]
    exact hI.pending id' p hp
  · intro id' id'' p hp hp'
    exact hI.inj id' id'' p (hold hp).1 (hold hp').1
  · rw [hpromises]
    intro p hp
    have hne : p ≠ promise := ((hI.pending id promise hlookup).1.trans_le hp).ne'
    rw [Function.update_of_ne hne]
    exact hI.fresh p hp

/-- The promise of a request waits for its id. -/
theorem PromiseInvariant.registered (hI : PromiseInvariant s futures) {id : UInt32}
    (hpending : s'.pendingResponses = s.pendingResponses.insert id s.promises)
    (hid : id ∉ s.pendingResponses) (hpromises : s'.promises = s.promises + 1) :
    PromiseInvariant s' futures := by
  have hcases {id' : UInt32} {p : Promise} (hp : s'.pendingResponses.lookup id' = some p) :
      (id' = id ∧ p = s.promises) ∨
        (id' ≠ id ∧ s.pendingResponses.lookup id' = some p ∧ p < s.promises) := by
    rw [hpending] at hp
    by_cases hsame : id' = id
    · subst hsame
      rw [AList.lookup_insert] at hp
      exact .inl ⟨rfl, (Option.some.inj hp).symm⟩
    · rw [AList.lookup_insert_ne hsame] at hp
      exact .inr ⟨hsame, hp, (hI.pending id' p hp).1⟩
  refine ⟨?_, ?_, ?_, ?_⟩
  · rw [hpending, hpromises]
    intro p hp
    by_cases hlast : p = s.promises
    · exact .inr ⟨id, by rw [AList.lookup_insert, hlast]⟩
    · refine (hI.settled p (by omega)).imp_right ?_
      rintro ⟨id', hid'⟩
      have hne : id' ≠ id := by
        rintro rfl
        exact hid (AList.lookup_isSome.1 (by rw [hid']; rfl))
      exact ⟨id', by rw [AList.lookup_insert_ne hne, hid']⟩
  · intro id' p hp
    rw [hpromises]
    rcases hcases hp with ⟨-, rfl⟩ | ⟨-, hp, -⟩
    · exact ⟨Nat.lt_succ_self _, hI.fresh _ le_rfl⟩
    · exact ⟨(hI.pending id' p hp).1.trans (Nat.lt_succ_self _), (hI.pending id' p hp).2⟩
  · intro id' id'' p hp hp'
    rcases hcases hp with ⟨rfl, hlast⟩ | ⟨-, hp, hlt⟩
    · rcases hcases hp' with ⟨rfl, -⟩ | ⟨-, -, hlt⟩
      · rfl
      · exact absurd hlast hlt.ne
    · rcases hcases hp' with ⟨-, hlast⟩ | ⟨-, hp', -⟩
      · exact absurd hlast hlt.ne
      · exact hI.inj id' id'' p hp hp'
  · rw [hpromises]
    exact fun p hp => hI.fresh p (by omega)

/-- Every promise that waits is broken when the queue is dropped. -/
theorem PromiseInvariant.dropped (hI : PromiseInvariant s futures)
    (hpending : s'.pendingResponses = ∅) (hpromises : s'.promises = s.promises) :
    PromiseInvariant s' ((s.pendingResponses.entries.map fun entry =>
      ServerEffect.broken entry.2).foldl settleFuture futures) := by
  have hbroken (p : Promise) : (s.pendingResponses.entries.map fun entry =>
      ServerEffect.broken entry.2).foldl settleFuture futures p = none ↔
        futures p = none ∧ ∀ id, s.pendingResponses.lookup id ≠ some p := by
    rw [foldl_settleFuture_eq_none]
    refine and_congr_right fun _ => ?_
    constructor
    · intro h id hp
      refine h (.broken p) ?_ _ rfl
      exact List.mem_map.2 ⟨⟨id, p⟩, AList.mem_lookup_iff.1 hp, rfl⟩
    · intro h o ho result hsettles
      obtain ⟨entry, hentry, rfl⟩ := List.mem_map.1 ho
      refine h entry.1 (AList.mem_lookup_iff.2 ?_)
      simp only [ServerEffect.settles, Option.some.injEq, Prod.mk.injEq] at hsettles
      exact hsettles.1 ▸ hentry
  refine ⟨?_, ?_, ?_, ?_⟩
  · rw [hpromises]
    intro p hp
    left
    rw [ne_eq, hbroken]
    rintro ⟨hnone, hnot⟩
    obtain hready | ⟨id, hid⟩ := hI.settled p hp
    · exact hready hnone
    · exact hnot id hid
  · rw [hpending]
    intro id p hp
    simp at hp
  · rw [hpending]
    intro id id' p hp
    simp at hp
  · rw [hpromises]
    intro p hp
    refine (hbroken p).2 ⟨hI.fresh p hp, fun id hid => ?_⟩
    exact absurd (hI.pending id p hid).1 (Nat.not_lt.2 hp)

/-- **A promise that was made is ready or waited for**, whatever the handler does. -/
theorem PromiseInvariant.step (hI : PromiseInvariant s futures) (ho : s.Outcome e s' effects) :
    PromiseInvariant s' (effects.foldl settleFuture futures) := by
  cases ho with
  | receiveAnswer id promise type rest hmessage htype hlookup =>
      refine hI.answered hlookup ?_ ?_ _
      · rfl
      · rfl
  | pollClear hr hc => exact hI.dropped rfl rfl
  | performRefused h =>
      refine hI.refused ?_ ?_ _
      · rfl
      · rfl
  | performCollision h hid =>
      refine hI.refused ?_ ?_ _
      · rfl
      · rfl
  | performRegister h hid => exact hI.registered rfl hid rfl
  | writableWrite writer rest hr hs =>
      refine hI.quiet rfl rfl ?_
      split_ifs <;> simp [ServerEffect.settles]
  | _ => exact hI.quiet rfl rfl (by simp [ServerEffect.settles])

end Step

/-! ### What a call leaves -/

/-- No call that is over left an entry in `pending_responses`. -/
def NoEntryLeft (s : WsServer) : Prop :=
  ∀ p ∈ s.finished, ∀ id, s.data.pendingResponses.lookup id ≠ some p

/-- A wait that ends finds its future ready. -/
def InTime (_h : List (Entry WsServer WsServerEvent WsServerEffect))
    (x : Entry WsServer WsServerEvent WsServerEffect) : Prop :=
  match x.event with
  | .wait p => p < x.pre.data.promises → p ∉ x.pre.finished → x.pre.futures p ≠ none
  | .handler _ => True

theorem PromiseInvariant.init (authApp authHdr : Bytes) :
    PromiseInvariant (.make authApp authHdr) fun _ => none :=
  ⟨nofun, nofun, nofun, fun _ _ => rfl⟩

/-- Waiting does not touch the handler. -/
theorem WsServer.onWait_data (s : WsServer) (p : Promise) :
    (s.onWait p).1.data = s.data ∧ (s.onWait p).1.futures = s.futures := by
  unfold onWait
  split_ifs <;> exact ⟨rfl, rfl⟩

theorem promiseInvariant_step {s : WsServer} (hI : PromiseInvariant s.data s.futures)
    (e : WsServerEvent) : PromiseInvariant (s.step e).1.data (s.step e).1.futures := by
  cases e with
  | handler e => exact hI.step (s.data.step_outcome e)
  | wait p =>
      change PromiseInvariant (s.onWait p).1.data (s.onWait p).1.futures
      rw [(s.onWait_data p).1, (s.onWait_data p).2]
      exact hI

theorem promiseInvariant_state (authApp authHdr : Bytes) (evs : List WsServerEvent) :
    PromiseInvariant ((wsServer authApp authHdr).state evs).data
      ((wsServer authApp authHdr).state evs).futures :=
  Machine.invariant (P := fun _ (s : WsServer) => PromiseInvariant s.data s.futures)
    (C := fun _ _ => True)
    (.init authApp authHdr) (fun _ _ e hI _ => promiseInvariant_step hI e) evs
    (Machine.admits_of_forall (fun _ _ => trivial) evs)

/-- A call that is over found its future ready, and a future stays ready. -/
theorem finished_ready_step {s : WsServer} (hs : ∀ p ∈ s.finished, s.futures p ≠ none)
    {authApp authHdr : Bytes} {h : List (Entry WsServer WsServerEvent WsServerEffect)}
    {e : WsServerEvent} (hC : InTime h ((wsServer authApp authHdr).entry s e)) :
    ∀ p ∈ (s.step e).1.finished, (s.step e).1.futures p ≠ none := by
  cases e with
  | handler e =>
      intro p hp hnone
      exact hs p hp ((foldl_settleFuture_eq_none _ _ _).1 hnone).1
  | wait q =>
      intro p hp
      change (s.onWait q).1.futures p ≠ none
      rw [(s.onWait_data q).2]
      change p ∈ (s.onWait q).1.finished at hp
      unfold WsServer.onWait at hp
      split_ifs at hp with hunder
      · rcases List.mem_cons.1 hp with rfl | hp
        · exact hC hunder.1 hunder.2
        · exact hs p hp
      · exact hs p hp

/-- **A call that ends in time leaves nothing.** -/
theorem noEntryLeft_of_inTime {authApp authHdr : Bytes} {evs : List WsServerEvent}
    (hC : (wsServer authApp authHdr).Admits InTime evs) :
    NoEntryLeft ((wsServer authApp authHdr).state evs) := by
  have hready : ∀ p ∈ ((wsServer authApp authHdr).state evs).finished,
      ((wsServer authApp authHdr).state evs).futures p ≠ none :=
    Machine.invariant (P := fun _ (s : WsServer) => ∀ p ∈ s.finished, s.futures p ≠ none)
      (by simp [wsServer]) (fun h s e hs hC => finished_ready_step hs hC) evs hC
  intro p hp id hid
  exact hready p hp ((promiseInvariant_state authApp authHdr evs).pending id p hid).2

/-- **A call that times out leaves its entry.** -/
theorem entry_left_of_timeout {s : WsServer} (hI : PromiseInvariant s.data s.futures)
    {p : Promise} (hp : p < s.data.promises) (hunder : p ∉ s.finished)
    (hnone : s.futures p = none) : ¬ NoEntryLeft (s.step (.wait p)).1 := by
  intro hleft
  obtain hready | ⟨id, hid⟩ := hI.settled p hp
  · exact hready hnone
  · refine hleft p ?_ id ?_
    · change p ∈ (s.onWait p).1.finished
      unfold WsServer.onWait
      rw [if_pos ⟨hp, hunder⟩]
      exact List.mem_cons_self ..
    · change (s.onWait p).1.data.pendingResponses.lookup id = some p
      rw [(s.onWait_data p).1]
      exact hid

/-- **When a request does not outlive its caller.**  In a run with any number of calls
of `ws_server::perform`, no call that is over has an entry in `pending_responses`, in
any state that is reached, if and only if no call ends by its timeout. -/
theorem no_entry_left_iff (authApp authHdr : Bytes) (evs : List WsServerEvent) :
    (∀ evs', evs' <+: evs → NoEntryLeft ((wsServer authApp authHdr).state evs')) ↔
      (wsServer authApp authHdr).Admits InTime evs := by
  constructor
  · intro hleft
    induction evs using List.reverseRecOn with
    | nil => trivial
    | append_singleton evs e ih =>
        refine (Machine.admits_append_singleton evs e).2 ⟨ih fun evs' h => ?_, ?_⟩
        · exact hleft evs' (h.trans (List.prefix_append ..))
        · cases e with
          | handler e => trivial
          | wait p =>
              intro hp hunder hnone
              have hlast := hleft (evs ++ [.wait p]) List.prefix_rfl
              rw [Machine.state_append_singleton] at hlast
              exact entry_left_of_timeout (promiseInvariant_state authApp authHdr evs) hp hunder
                hnone hlast
  · intro hC evs' hpre
    exact noEntryLeft_of_inTime (hC.of_prefix hpre)

/-- A request is not answered; its call throws `timeout`, and the entry is still there. -/
theorem entry_left_behind :
    let run : List WsServerEvent := [.handler (.filterConnection 1 .empty true),
      .handler (.onEstablished 1), .handler (.perform (MessageWriter.ofRequest .unlink))]
    ((wsServer [] []).step ((wsServer [] []).state run) (.wait 0)).2 =
        [.threw 0 ⟨"timeout"⟩] ∧
      ((wsServer [] []).state (run ++ [.wait 0])).finished = [0] ∧
      ((wsServer [] []).state (run ++ [.wait 0])).data.pendingResponses.lookup 1 = some 0 ∧
      ¬ NoEntryLeft ((wsServer [] []).state (run ++ [.wait 0])) := by
  refine ⟨rfl, rfl, rfl, fun h => ?_⟩
  exact h 0 (List.mem_singleton_self 0) 1 rfl

end Webfuse
