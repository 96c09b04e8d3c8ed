/-
# One session after another

`on_established` starts the ids again at one, while the promises that wait for
the ids of the last session stay where they are: `on_closed` leaves them, and
`poll` drops them only when something is queued at the time.  A request of the
new session can then take an id that is waited for, in which case its promise is
never registered, and the answer to it completes the promise of the old session
(`answered_across_sessions`).

When every client that is connected finds no promise waiting, ids are counted up
from the start of the session and do not meet (`FreshInvariant`).
-/

import Webfuse.Server.Exchange

namespace Webfuse

open Basis History

/-! ### What happens in a step -/

/-- A promise is registered. -/
def Registers (p : Promise) (x : ServerEntry) : Prop := ∃ id, .registered id p ∈ x.effects

/-- The connection is closed. -/
def ClosesSession (x : ServerEntry) : Prop :=
  ∃ v, x.event = .onClosed v ∧ x.pre.connection = some v

/-- The client `w` becomes the connection. -/
def Establishes (w : Wsi) (x : ServerEntry) : Prop :=
  x.event = .onEstablished w ∧ succeeds x.effects = true

def ServerEvent.isPerform : ServerEvent → Bool
  | perform _ => true
  | _ => false

/-- The number of `perform` calls. -/
def performs (h : List ServerEntry) : ℕ := h.countP fun x => x.event.isPerform

theorem performs_append (h : List ServerEntry) (x : ServerEntry) :
    performs (h ++ [x]) = performs h + if x.event.isPerform then 1 else 0 := by
  simp [performs, List.countP_cons]

/-- A client that is connected finds no promise waiting. -/
def FindsNothingPending (x : ServerEntry) : Prop :=
  match x.event with
  | .onEstablished _ => x.pre.connection = none → x.pre.pendingResponses = ∅
  | _ => True

/-! ### Ids -/

/-- Below the top the next id is the successor. -/
theorem ServerHandler.nextId_toNat {s : ServerHandler} (h : s.id.toNat + 1 < 2 ^ 32) :
    s.nextId.id.toNat = s.id.toNat + 1 := by
  have hsucc : (s.id + 1).toNat = s.id.toNat + 1 := by
    rw [UInt32.toNat_add]
    exact Nat.mod_eq_of_lt h
  have hne : s.id + 1 ≠ 0 := by
    intro h₀
    rw [h₀] at hsucc
    simp at hsucc
  simp [nextId, hne, hsucc]

/-- A promise is registered when the next id is not waited for. -/
theorem ServerHandler.registered_of_fresh {s : ServerHandler} (hflag : s.isAuthenticated = true)
    (hnew : s.nextId.id ∉ s.pendingResponses) (writer : MessageWriter) :
    .registered s.nextId.id s.promises ∈ (s.perform writer).2 := by
  have ho := s.perform_outcome writer
  generalize (s.perform writer).1 = s' at ho
  generalize (s.perform writer).2 = effects at ho
  cases ho with
  | performRefused hf => simp [hflag] at hf
  | performCollision hf hid => exact absurd hid hnew
  | performRegister hf hnew => simp

/-- The ids that are waited for were handed out in this session, and no more ids
were handed out than requests were made, and one for the credentials. -/
structure FreshInvariant (h : List ServerEntry) (s : ServerHandler) : Prop where
  keys : ∀ id ∈ s.pendingResponses, id.toNat ≤ s.id.toNat
  counter : s.id.toNat ≤ performs h + 1
  registered : ∀ x ∈ h, ∀ p, Registers p x → p < s.promises
  recent : ∀ id p, s.pendingResponses.lookup id = some p → ∀ w,
    ¬ Occurs [Registers p, ClosesSession, Establishes w] h

section Step

variable {h : List ServerEntry} {s s' : ServerHandler} {e : ServerEvent}
  {effects : List ServerEffect}

theorem FreshInvariant.step_ids (hI : FreshInvariant h s) (ho : s.Outcome e s' effects)
    (hfinds : FindsNothingPending ⟨s, e, effects⟩)
    (hn : performs (h ++ [⟨s, e, effects⟩]) < 2 ^ 32 - 1) :
    (∀ id ∈ s'.pendingResponses, id.toNat ≤ s'.id.toNat) ∧
      s'.id.toNat ≤ performs (h ++ [⟨s, e, effects⟩]) + 1 := by
  obtain ⟨hkeys, hcounter, -, -⟩ := hI
  rw [performs_append] at hn ⊢
  have hle : s.id.toNat ≤ performs h + (if e.isPerform then 1 else 0) + 1 := by omega
  cases ho with
  | establish hc ha =>
      have hempty : s.pendingResponses = ∅ := hfinds hc
      refine ⟨fun id hid => ?_, by simp⟩
      simp [hempty] at hid
  | establishAsking hc hf hne =>
      have hempty : s.pendingResponses = ∅ := hfinds hc
      refine ⟨fun id hid => ?_, by simp⟩
      simp [hempty] at hid
  | receiveAnswer id promise type rest hmessage htype hlookup =>
      refine ⟨fun id' hid => ?_, hle⟩
      exact hkeys id' (AList.mem_erase.1 hid).2
  | pollClear hr hc => exact ⟨fun id hid => by simp at hid, hle⟩
  | performCollision hf hid =>
      simp only [ServerEvent.isPerform, if_true] at hn ⊢
      have hnext : s.nextId.id.toNat = s.id.toNat + 1 := s.nextId_toNat (by omega)
      refine ⟨fun id hid => ?_, by omega⟩
      have := hkeys id hid
      omega
  | performRegister hf hnew =>
      simp only [ServerEvent.isPerform, if_true] at hn ⊢
      have hnext : s.nextId.id.toNat = s.id.toNat + 1 := s.nextId_toNat (by omega)
      refine ⟨fun id hid => ?_, by omega⟩
      rcases (AList.mem_insert _).1 hid with rfl | hid
      · exact le_rfl
      · have := hkeys id hid
        omega
  | _ => exact ⟨hkeys, hle⟩

/-- A promise is registered when it is made, and waits from then on. -/
theorem ServerHandler.Outcome.registers_new (ho : s.Outcome e s' effects) {p : Promise}
    (hr : Registers p ⟨s, e, effects⟩) : p < s'.promises := by
  obtain ⟨id, hid⟩ := hr
  cases ho with
  | writableWrite writer rest hr hs =>
      simp only at hid
      split_ifs at hid <;> simp at hid
  | performRegister hf hnew =>
      obtain ⟨-, rfl⟩ : id = s.nextId.id ∧ p = s.promises := by simpa using hid
      exact Nat.lt_succ_self _
  | _ => simp at hid

theorem FreshInvariant.step_recent (hI : FreshInvariant h s) (ho : s.Outcome e s' effects)
    (hfinds : FindsNothingPending ⟨s, e, effects⟩) (id : UInt32) (p : Promise)
    (hp : s'.pendingResponses.lookup id = some p) (w : Wsi) :
    ¬ Occurs [Registers p, ClosesSession, Establishes w] (h ++ [⟨s, e, effects⟩]) := by
  have hnot : ¬ Establishes w ⟨s, e, effects⟩ := by
    rintro ⟨rfl, hsucc⟩
    have hempty : s.pendingResponses = ∅ := hfinds (ho.succeeds_iff.1 hsucc)
    cases ho <;> simp_all
  have hsplit := occurs_append_singleton [Registers p, ClosesSession] (Establishes w) h
    ⟨s, e, effects⟩
  rw [List.cons_append, List.cons_append, List.nil_append] at hsplit
  rw [hsplit]
  rintro (hocc | ⟨-, hest⟩)
  · rcases ho.pending hp with hold | ⟨writer, hnew, -⟩
    · exact hI.recent id p hold w hocc
    · obtain ⟨x, hx, hreg⟩ := hocc.exists_first
      have hlt := hI.registered x hx p hreg
      have hmem : (some p, writer) ∈ effects.filterMap ServerEffect.queued? := by simp [hnew]
      exact absurd (ho.promise_new hmem).1 hlt.ne
  · exact hnot hest

theorem FreshInvariant.step (hI : FreshInvariant h s) (ho : s.Outcome e s' effects)
    (hfinds : FindsNothingPending ⟨s, e, effects⟩)
    (hn : performs (h ++ [⟨s, e, effects⟩]) < 2 ^ 32 - 1) :
    FreshInvariant (h ++ [⟨s, e, effects⟩]) s' where
  keys := (hI.step_ids ho hfinds hn).1
  counter := (hI.step_ids ho hfinds hn).2
  registered x hx p hreg := by
    rcases List.mem_append.1 hx with hx | hx
    · exact (hI.registered x hx p hreg).trans_le ho.promises_le
    · obtain rfl : x = ⟨s, e, effects⟩ := by simpa using hx
      exact ho.registers_new hreg
  recent := hI.step_recent ho hfinds

end Step

/-- **No answer of one session reaches a request of another**, in every run with
fewer than `2^32 - 1` requests in which every client that is connected finds no
promise waiting.  The id of a new request is not waited for, so its promise is
registered under it; and a message from a client never completes a promise that
was registered before another session ended and its own began. -/
theorem sessions_apart {authApp authHdr : Bytes} {evs : List ServerEvent}
    (hC : (server authApp authHdr).Admits (fun _ x => FindsNothingPending x) evs)
    (hn : performs ((server authApp authHdr).trace evs) < 2 ^ 32 - 1) :
    (∀ writer, performs ((server authApp authHdr).trace evs) + 1 < 2 ^ 32 - 1 →
      ((server authApp authHdr).state evs).isAuthenticated = true →
      ((server authApp authHdr).state evs).nextId.id ∉
          ((server authApp authHdr).state evs).pendingResponses ∧
        .registered ((server authApp authHdr).state evs).nextId.id
          ((server authApp authHdr).state evs).promises ∈
            (((server authApp authHdr).state evs).perform writer).2) ∧
    ∀ w fragment isFinal verdict promise reader,
      .setValue promise reader ∈
        (((server authApp authHdr).state evs).onReceive w fragment isFinal verdict).2 →
      ¬ Occurs [Registers promise, ClosesSession, Establishes w]
        ((server authApp authHdr).trace evs) := by
  have hI : performs ((server authApp authHdr).trace evs) < 2 ^ 32 - 1 →
      FreshInvariant ((server authApp authHdr).trace evs) ((server authApp authHdr).state evs) := by
    refine server_invariant (P := fun h s => performs h < 2 ^ 32 - 1 → FreshInvariant h s) ?_ ?_ hC
    · intro _
      exact ⟨nofun, by simp [ServerHandler.make], nofun, nofun⟩
    · intro h s e s' effects hI ho hfinds hn
      have hle : performs h ≤ performs (h ++ [⟨s, e, effects⟩]) := by
        rw [performs_append]
        omega
      exact (hI (by omega)).step ho hfinds hn
  obtain ⟨hkeys, hcounter, -, hrecent⟩ := hI hn
  constructor
  · intro writer hnext hflag
    have hid : ((server authApp authHdr).state evs).nextId.id.toNat =
        ((server authApp authHdr).state evs).id.toNat + 1 :=
      ServerHandler.nextId_toNat (by omega)
    have hnew : ((server authApp authHdr).state evs).nextId.id ∉
        ((server authApp authHdr).state evs).pendingResponses := by
      intro hmem
      have := hkeys _ hmem
      omega
    exact ⟨hnew, ServerHandler.registered_of_fresh hflag hnew writer⟩
  · intro w fragment isFinal verdict promise reader hset
    have ho := ((server authApp authHdr).state evs).onReceive_outcome w fragment isFinal verdict
    obtain ⟨_, _, _, id, -, -, -, -, hlookup⟩ := ho.of_setValue hset
    exact hrecent id promise hlookup w

/-- A session in which a request is made. -/
def sessionRun : List ServerEvent :=
  [.filterConnection 1 .empty true, .onEstablished 1, .perform (.ofRequest .unlink)]

/-- The next request of `sessionRun` has an id of its own. -/
theorem sessions_apart_session :
    ((server [] []).state sessionRun).nextId.id ∉
        ((server [] []).state sessionRun).pendingResponses ∧
      .registered ((server [] []).state sessionRun).nextId.id
        ((server [] []).state sessionRun).promises ∈
          (((server [] []).state sessionRun).perform (.ofRequest .rmdir)).2 := by
  have hC : (server [] []).Admits (fun _ x => FindsNothingPending x) sessionRun :=
    ⟨trivial, fun _ => rfl, trivial, trivial⟩
  exact (sessions_apart hC (by decide)).1 (.ofRequest .rmdir) (by decide) (by decide)

/-- `sessionRun` ends before the answer comes, and another session begins.  `poll`
finds nothing queued. -/
def reconnectRun : List ServerEvent :=
  sessionRun ++
    [.onWritable, .onClosed 1, .poll, .filterConnection 2 .empty true, .onEstablished 2]

/-- The first request of the second session takes the id of the request of the
first, its promise is broken, and the answer completes the promise of the
first. -/
theorem answered_across_sessions :
    ((server [] []).state reconnectRun).isAuthenticated = true ∧
      ((server [] []).state reconnectRun).nextId.id ∈
        ((server [] []).state reconnectRun).pendingResponses ∧
      .broken 1 ∈ (((server [] []).state reconnectRun).perform (.ofRequest .rmdir)).2 ∧
      .setValue 0 ⟨[0, 0, 0, 1, 0x94], 5⟩ ∈ (((server [] []).state (reconnectRun ++
        [.perform (.ofRequest .rmdir)])).onReceive 2 [0, 0, 0, 1, 0x94] true true).2 ∧
      Occurs [Registers 0, ClosesSession, Establishes 2]
        ((server [] []).trace (reconnectRun ++ [.perform (.ofRequest .rmdir)])) := by
  refine ⟨rfl, by decide, by decide, by decide, ?_⟩
  have hreg : Registers 0 ((server [] []).entry ((server [] []).state (sessionRun.take 2))
      (.perform (.ofRequest .unlink))) := ⟨1, by decide⟩
  have hclose : ClosesSession ((server [] []).entry ((server [] []).state
      (sessionRun ++ [.onWritable])) (.onClosed 1)) := ⟨1, rfl, rfl⟩
  have hest : Establishes 2 ((server [] []).entry ((server [] []).state
      (reconnectRun.take 7)) (.onEstablished 2)) := ⟨rfl, rfl⟩
  exact .inr (.inr (.inl ⟨hreg, .inr (.inl ⟨hclose, .inr (.inr (.inl ⟨hest, trivial⟩))⟩)⟩))

end Webfuse
