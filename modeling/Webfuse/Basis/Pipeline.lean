/-
# Pipelines

What goes through a number of stages in order is a list of entries, each with the
number of stages it has still to pass.  An entry joins at the back, passes one stage at
a time and leaves from the front.  `rank q l` is how much has to happen until the entry
`q` has left: the stages that it and the entries before it have to pass.

No step makes the rank larger, and a step that serves the first entry makes it smaller
(`Progress`, `progress_advance`, `progress_leave`), so an entry leaves a pipeline whose
first entry is served again and again.  An entry may be dropped on its way.
-/

import Mathlib.Data.List.Basic
import Mathlib.Tactic.Common

namespace Basis

variable {κ : Type} [DecidableEq κ]

/-- The stages to be passed until `q` has left. -/
def rank (q : κ) : List (κ × ℕ) → ℕ
  | [] => 0
  | x :: l => if x.1 = q then x.2 else x.2 + rank q l

/-- `q` is in the pipeline. -/
def Underway (q : κ) (l : List (κ × ℕ)) : Prop := ∃ n, (q, n) ∈ l

/-- The pipeline comes closer to the point where `q` leaves it, or stays as it is at its
front. -/
def Progress (q : κ) (l l' : List (κ × ℕ)) : Prop :=
  Underway q l' ∧ (rank q l' < rank q l ∨ rank q l' = rank q l ∧ l'.head? = l.head?)

omit [DecidableEq κ] in
theorem Underway.ne_nil {q : κ} {l : List (κ × ℕ)} (h : Underway q l) : l ≠ [] := by
  rintro rfl
  obtain ⟨n, hn⟩ := h
  exact List.not_mem_nil hn

theorem rank_append {q : κ} {l : List (κ × ℕ)} (h : Underway q l) (l' : List (κ × ℕ)) :
    rank q (l ++ l') = rank q l := by
  obtain ⟨n, hn⟩ := h
  induction l with
  | nil => exact absurd hn List.not_mem_nil
  | cons x l ih =>
      by_cases hx : x.1 = q
      · simp [rank, hx]
      · have hl : (q, n) ∈ l := by
          rcases List.mem_cons.1 hn with rfl | hn
          · exact absurd rfl hx
          · exact hn
        simp [rank, hx, ih hl]

/-- The entries in front of `q` are passed first. -/
theorem rank_append_of_not {q : κ} {l : List (κ × ℕ)} (h : ¬ Underway q l) (l' : List (κ × ℕ)) :
    rank q (l ++ l') = rank q l + rank q l' := by
  induction l with
  | nil => exact (Nat.zero_add _).symm
  | cons x l ih =>
      have hx : x.1 ≠ q := by
        rintro rfl
        exact h ⟨x.2, List.mem_cons_self ..⟩
      have hl : ¬ Underway q l := fun ⟨n, hn⟩ => h ⟨n, List.mem_cons_of_mem _ hn⟩
      rw [List.cons_append, rank, if_neg hx, ih hl, rank, if_neg hx, Nat.add_assoc]

/-- An entry has a stage to pass, so the rank is positive where all entries have. -/
theorem rank_pos {q : κ} {l : List (κ × ℕ)} (h : Underway q l) (hpos : ∀ x ∈ l, 0 < x.2) :
    0 < rank q l := by
  cases l with
  | nil => exact absurd rfl h.ne_nil
  | cons x l =>
      have hx := hpos x (List.mem_cons_self ..)
      unfold rank
      split_ifs
      · exact hx
      · exact Nat.add_pos_left hx _

theorem rank_le {n : ℕ} (q : κ) {l : List (κ × ℕ)} (hle : ∀ x ∈ l, x.2 ≤ n) :
    rank q l ≤ n * l.length := by
  induction l with
  | nil => simp [rank]
  | cons x l ih =>
      have hx := hle x (List.mem_cons_self ..)
      have hl := ih fun y hy => hle y (List.mem_cons_of_mem _ hy)
      rw [List.length_cons, Nat.mul_succ]
      unfold rank
      split_ifs <;> omega

theorem Progress.refl {q : κ} {l : List (κ × ℕ)} (h : Underway q l) : Progress q l l :=
  ⟨h, .inr ⟨rfl, rfl⟩⟩

/-- Entries join at the back. -/
theorem Progress.join {q : κ} {l : List (κ × ℕ)} (h : Underway q l) (l' : List (κ × ℕ)) :
    Progress q l (l ++ l') := by
  obtain ⟨n, hn⟩ := h
  refine ⟨⟨n, List.mem_append_left _ hn⟩, .inr ⟨rank_append ⟨n, hn⟩ l', ?_⟩⟩
  exact List.head?_append_of_ne_nil _ (Underway.ne_nil ⟨n, hn⟩)

section Advance

variable {q x : κ} {k : ℕ} {l₁ l₂ : List (κ × ℕ)}

omit [DecidableEq κ] in
theorem Underway.advance (h : Underway q (l₁ ++ (x, k + 1) :: l₂)) :
    Underway q (l₁ ++ (x, k) :: l₂) := by
  obtain ⟨n, hn⟩ := h
  rcases List.mem_append.1 hn with hn | hn
  · exact ⟨n, List.mem_append_left _ hn⟩
  · rcases List.mem_cons.1 hn with hn | hn
    · obtain ⟨rfl, -⟩ := Prod.mk.inj hn
      exact ⟨k, List.mem_append_right _ (List.mem_cons_self ..)⟩
    · exact ⟨n, List.mem_append_right _ (List.mem_cons_of_mem _ hn)⟩

/-- An entry that is not behind `q` passes a stage. -/
theorem rank_advance_lt (h : ¬ Underway q l₁) :
    rank q (l₁ ++ (x, k) :: l₂) < rank q (l₁ ++ (x, k + 1) :: l₂) := by
  rw [rank_append_of_not h, rank_append_of_not h]
  simp only [rank]
  split_ifs <;> omega

/-- An entry passes a stage. -/
theorem progress_advance (h : Underway q (l₁ ++ (x, k + 1) :: l₂)) :
    Progress q (l₁ ++ (x, k + 1) :: l₂) (l₁ ++ (x, k) :: l₂) := by
  refine ⟨h.advance, ?_⟩
  by_cases hq : Underway q l₁
  · right
    rw [rank_append hq, rank_append hq, List.head?_append_of_ne_nil _ hq.ne_nil,
      List.head?_append_of_ne_nil _ hq.ne_nil]
    exact ⟨rfl, rfl⟩
  · exact .inl (rank_advance_lt hq)

end Advance

/-- An entry that is not `q` leaves: the first one makes the rank smaller. -/
theorem progress_leave {q x : κ} {k : ℕ} {l₁ l₂ : List (κ × ℕ)}
    (h : Underway q (l₁ ++ (x, k + 1) :: l₂)) (hx : x ≠ q) :
    Progress q (l₁ ++ (x, k + 1) :: l₂) (l₁ ++ l₂) ∧
      (l₁ = [] → rank q (l₁ ++ l₂) < rank q (l₁ ++ (x, k + 1) :: l₂)) := by
  obtain ⟨n, hn⟩ := h
  have hunderway : Underway q (l₁ ++ l₂) := by
    refine ⟨n, ?_⟩
    rcases List.mem_append.1 hn with hn | hn
    · exact List.mem_append_left _ hn
    · rcases List.mem_cons.1 hn with hn | hn
      · exact absurd (Prod.mk.inj hn).1.symm hx
      · exact List.mem_append_right _ hn
  by_cases hq : Underway q l₁
  · refine ⟨⟨hunderway, .inr ?_⟩, fun hnil => absurd hnil hq.ne_nil⟩
    rw [rank_append hq, rank_append hq, List.head?_append_of_ne_nil _ hq.ne_nil,
      List.head?_append_of_ne_nil _ hq.ne_nil]
    exact ⟨rfl, rfl⟩
  · have hlt : rank q (l₁ ++ l₂) < rank q (l₁ ++ (x, k + 1) :: l₂) := by
      rw [rank_append_of_not hq, rank_append_of_not hq, rank, if_neg hx]
      omega
    exact ⟨⟨hunderway, .inl hlt⟩, fun _ => hlt⟩

end Basis
