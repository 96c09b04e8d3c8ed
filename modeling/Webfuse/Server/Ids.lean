/-
# Ids

`next_id` counts from the id the server has and leaves out zero when it wraps around:
from its first call on it goes round the `2^32 - 1` other ids.  The ids are handed to
the requests of `perform` and to the request for credentials, and between two resets
by `on_established` they are handed out one after the other, so they do not meet as
long as they do not come round (`next_ids`).
-/

import Webfuse.Basis.Counter
import Webfuse.Server.Exchange

namespace Webfuse

open Basis ServerEffect

namespace ServerHandler

/-- The id that the server has after `k` calls of `next_id`. -/
def nthId (s : ServerHandler) (k : ℕ) : UInt32 := (nextId^[k] s).id

/-- One call. -/
theorem toNat_nextId (s : ServerHandler) : s.nextId.id.toNat = tick (2 ^ 32 - 1) s.id.toNat := by
  have hlt : s.id.toNat < 2 ^ 32 := s.id.toNat_lt
  have hsucc : (s.id + 1).toNat = (s.id.toNat + 1) % 2 ^ 32 := UInt32.toNat_add ..
  have hzero : s.id + 1 = 0 ↔ (s.id.toNat + 1) % 2 ^ 32 = 0 := by
    rw [← UInt32.toNat_inj, hsucc]
    rfl
  unfold nextId tick
  dsimp only
  split_ifs with h
  · rw [hzero] at h
    change 1 = _
    omega
  · rw [hzero] at h
    rw [hsucc]
    omega

/-- Any number of calls. -/
theorem toNat_nthId (s : ServerHandler) (k : ℕ) :
    (s.nthId k).toNat = (tick (2 ^ 32 - 1))^[k] s.id.toNat := by
  unfold nthId
  induction k with
  | zero => rfl
  | succ k ih => rw [Function.iterate_succ_apply', Function.iterate_succ_apply', toNat_nextId, ih]

/-- Where the ids go on is decided by the id alone. -/
theorem nthId_of_id {s s' : ServerHandler} {i : ℕ} (h : s'.id = s.nthId i) (k : ℕ) :
    s'.nthId k = s.nthId (k + i) := by
  apply UInt32.toNat_inj.1
  rw [toNat_nthId, toNat_nthId, h, toNat_nthId, Function.iterate_add_apply]

end ServerHandler

/-- The ids of the messages that were queued. -/
def issued (h : List ServerEntry) : List UInt32 := (queued h).map fun q => q.2.id

theorem issued_append (h h' : List ServerEntry) : issued (h ++ h') = issued h ++ issued h' := by
  simp [issued, queued, collect]

/-- A client is connected, and the ids start again. -/
def Resets (x : ServerEntry) : Prop :=
  (∃ w, x.event = .onEstablished w) ∧ x.pre.connection = none

namespace ServerHandler.Outcome

variable {s s' : ServerHandler} {e : ServerEvent} {effects : List ServerEffect}

/-- What a step does to the ids: at most one is handed out, the next one, after the ids
were reset or not. -/
theorem ids (ho : s.Outcome e s' effects) : ∃ base : ServerHandler,
    (¬ Resets ⟨s, e, effects⟩ → base.id = s.id) ∧
      (issued [⟨s, e, effects⟩] = [] ∧ s'.id = base.nthId 0 ∨
        issued [⟨s, e, effects⟩] = [base.nthId 1] ∧ s'.id = base.nthId 1) := by
  cases ho with
  | establish h ha =>
      refine ⟨{ s with id := 0 }, fun hnot => absurd ⟨⟨_, rfl⟩, h⟩ hnot, .inl ⟨rfl, rfl⟩⟩
  | establishAsking h ha hne =>
      refine ⟨{ s with id := 0 }, fun hnot => absurd ⟨⟨_, rfl⟩, h⟩ hnot, .inr ⟨rfl, rfl⟩⟩
  | performCollision h hid => exact ⟨s, fun _ => rfl, .inr ⟨rfl, rfl⟩⟩
  | performRegister h hid => exact ⟨s, fun _ => rfl, .inr ⟨rfl, rfl⟩⟩
  | writableWrite writer rest hr hs =>
      refine ⟨s, fun _ => rfl, .inl ⟨?_, rfl⟩⟩
      simp only [issued, queued, collect]
      split_ifs <;> rfl
  | pollClear hr hc =>
      refine ⟨s, fun _ => rfl, .inl ⟨?_, rfl⟩⟩
      simp [issued, queued, collect, queued?, List.filterMap_map, Function.comp_def]
  | _ => exact ⟨s, fun _ => rfl, .inl ⟨rfl, rfl⟩⟩

end ServerHandler.Outcome

section Run

variable {authApp authHdr : Bytes}

/-- **The ids of a run without a reset** are the next ones, one after the other. -/
theorem issued_of_no_reset (s : ServerHandler) (evs : List ServerEvent)
    (hreset : ∀ x ∈ (server authApp authHdr).traceFrom s evs, ¬ Resets x) :
    ∃ n, issued ((server authApp authHdr).traceFrom s evs) =
        (List.range n).map (fun k => s.nthId (k + 1)) ∧
      ((server authApp authHdr).stateFrom s evs).id = s.nthId n := by
  induction evs using List.reverseRecOn with
  | nil => exact ⟨0, rfl, rfl⟩
  | append_singleton evs e ih =>
      rw [Machine.traceFrom_append] at hreset ⊢
      obtain ⟨n, hissued, hid⟩ := ih fun x hx => hreset x (List.mem_append_left _ hx)
      have hlast : ¬ Resets ((server authApp authHdr).entry
          ((server authApp authHdr).stateFrom s evs) e) :=
        hreset _ (List.mem_append_right _ (List.mem_singleton.2 rfl))
      have hstate : (server authApp authHdr).stateFrom s (evs ++ [e]) =
          (((server authApp authHdr).stateFrom s evs).step e).1 := by
        simp [Machine.stateFrom, server]
      obtain ⟨base, hbase, hstep⟩ :=
        (((server authApp authHdr).stateFrom s evs).step_outcome e).ids
      have hnth : ∀ k, base.nthId k = s.nthId (k + n) :=
        ServerHandler.nthId_of_id ((hbase hlast).trans hid)
      rw [issued_append, hissued, hstate]
      rcases hstep with ⟨hnone, hnext⟩ | ⟨hone, hnext⟩
      · refine ⟨n, ?_, ?_⟩
        · exact (congrArg (_ ++ ·) hnone).trans (List.append_nil _)
        · rw [hnext, hnth, Nat.zero_add]
      · refine ⟨n + 1, ?_, ?_⟩
        · rw [List.range_succ, List.map_append, List.map_singleton, Nat.add_comm n 1, ← hnth]
          exact congrArg (_ ++ ·) hone
        · rw [hnext, hnth, Nat.add_comm 1 n]

/-- The ids of a run that may begin with a reset. -/
theorem exists_issued (s : ServerHandler) (evs : List ServerEvent)
    (hreset : ∀ x ∈ ((server authApp authHdr).traceFrom s evs).tail, ¬ Resets x) :
    ∃ base n, issued ((server authApp authHdr).traceFrom s evs) =
      (List.range n).map fun k => ServerHandler.nthId base (k + 1) := by
  cases evs with
  | nil => exact ⟨s, 0, rfl⟩
  | cons e evs =>
      obtain ⟨base, -, hstep⟩ := (s.step_outcome e).ids
      obtain ⟨n, hissued, -⟩ := issued_of_no_reset (s.step e).1 evs hreset
      have hsplit : issued ((server authApp authHdr).traceFrom s (e :: evs)) =
          issued [⟨s, e, (s.step e).2⟩] ++
            issued ((server authApp authHdr).traceFrom (s.step e).1 evs) :=
        issued_append [_] _
      rw [hsplit, hissued]
      rcases hstep with ⟨hnone, hid⟩ | ⟨hone, hid⟩
      · refine ⟨base, n, ?_⟩
        rw [hnone, List.nil_append]
        exact List.map_congr_left fun k _ => ServerHandler.nthId_of_id hid (k + 1)
      · refine ⟨base, n + 1, ?_⟩
        rw [hone, List.range_succ_eq_map, List.map_cons, List.map_map]
        exact congrArg (_ :: ·) (List.map_congr_left fun k _ =>
          ServerHandler.nthId_of_id hid (k + 1))

end Run

/-- **Ids.**  From any id on, `next_id` never returns zero, `2^32 - 1` ids in a row are
different from each other, and the ids come round after `2^32 - 1` calls and not earlier.
Between two resets the requests have different ids, if they are fewer than `2^32`. -/
theorem next_ids (s : ServerHandler) :
    (∀ k, s.nthId (k + 1) ≠ 0) ∧
    (∀ i j, i < j → j < i + (2 ^ 32 - 1) → s.nthId (i + 1) ≠ s.nthId (j + 1)) ∧
    (∀ p, (∀ k, s.nthId (k + p + 1) = s.nthId (k + 1)) ↔ 2 ^ 32 - 1 ∣ p) ∧
    ∀ authApp authHdr evs,
      (∀ x ∈ ((server authApp authHdr).traceFrom s evs).tail, ¬ Resets x) →
      (issued ((server authApp authHdr).traceFrom s evs)).length < 2 ^ 32 →
        (issued ((server authApp authHdr).traceFrom s evs)).Nodup := by
  have hne : ∀ (s : ServerHandler) i j, i < j → j < i + (2 ^ 32 - 1) →
      s.nthId (i + 1) ≠ s.nthId (j + 1) := by
    intro s i j hij hj heq
    have htick := congrArg UInt32.toNat heq
    rw [ServerHandler.toNat_nthId, ServerHandler.toNat_nthId] at htick
    exact iterate_tick_ne s.id.toNat hij hj htick
  refine ⟨?_, hne s, ?_, ?_⟩
  · intro k hzero
    have hnat := congrArg UInt32.toNat hzero
    rw [ServerHandler.toNat_nthId, iterate_tick] at hnat
    exact absurd hnat (Nat.succ_ne_zero _)
  · intro p
    simp only [← UInt32.toNat_inj, ServerHandler.toNat_nthId]
    exact iterate_tick_periodic_iff s.id.toNat p
  · intro authApp authHdr evs hreset hfew
    obtain ⟨base, n, hissued⟩ := exists_issued s evs hreset
    rw [hissued, List.length_map, List.length_range] at hfew
    rw [hissued]
    refine List.nodup_range.map_on fun i hi j hj heq => ?_
    rw [List.mem_range] at hi hj
    by_contra hij
    rcases Nat.lt_or_gt_of_ne hij with hlt | hlt
    · exact hne base i j hlt (by omega) heq
    · exact hne base j i hlt (by omega) heq.symm

/-- A session that asks for credentials and makes two requests. -/
theorem next_ids_session :
    let s := (server [1] []).init
    let evs : List ServerEvent := [.onEstablished 1,
      .onReceive 1 [0, 0, 0, 1, 0x97, 0, 0, 0, 0] true true,
      .perform (.ofRequest .unlink), .perform (.ofRequest .rmdir)]
    issued ((server [1] []).traceFrom s evs) = [1, 2, 3] ∧
      (issued ((server [1] []).traceFrom s evs)).Nodup := by
  intro s evs
  have hissued : issued ((server [1] []).traceFrom s evs) = [1, 2, 3] := by decide
  refine ⟨hissued, (next_ids s).2.2.2 [1] [] evs ?_ ?_⟩
  · intro x hx
    rintro ⟨⟨w, hw⟩, -⟩
    simp only [evs, Machine.traceFrom, List.tail_cons, List.mem_cons, List.not_mem_nil,
      or_false] at hx
    rcases hx with rfl | rfl | rfl <;> cases hw
  · rw [hissued]
    decide

end Webfuse
