/-
# Files that are written at positions

A file is a list.  Data that is written at a position replaces what is there (`splice`);
a gap between the end of the file and the position is filled, and nothing is done for no
data.  A log of writes to several files leaves each of them with its own writes, one
after the other (`replay`), and what was written last at a position is read there
(`take_drop_replay`).
-/

import Mathlib.Logic.Function.Basic
import Mathlib.Tactic.Common

namespace Basis

variable {α κ : Type}

/-- The file after `data` was written at position `k`. -/
def splice (fill : α) (l : List α) (k : ℕ) (data : List α) : List α :=
  if data.isEmpty then l
  else l.take k ++ List.replicate (k - l.length) fill ++ data ++ l.drop (k + data.length)

/-- What was written is read. -/
theorem take_drop_splice (fill : α) (l : List α) (k : ℕ) (data : List α) {n : ℕ}
    (hn : n ≤ data.length) : ((splice fill l k data).drop k).take n = data.take n := by
  cases data with
  | nil =>
      obtain rfl := Nat.le_zero.1 hn
      simp
  | cons a data =>
      have hprefix : (l.take k ++ List.replicate (k - l.length) fill).length = k := by
        rw [List.length_append, List.length_take, List.length_replicate]
        omega
      unfold splice
      rw [if_neg (by simp), List.append_assoc, List.drop_left' hprefix,
        List.take_append_of_le_length hn]

/-- A write to the file `key`. -/
structure Write (κ α : Type) where
  key : κ
  pos : ℕ
  data : List α

variable [DecidableEq κ]

/-- The files after a write. -/
def Write.apply (fill : α) (files : κ → List α) (w : Write κ α) : κ → List α :=
  Function.update files w.key (splice fill (files w.key) w.pos w.data)

/-- The files after the writes of a log. -/
def replay (fill : α) (files : κ → List α) (log : List (Write κ α)) : κ → List α :=
  log.foldl (Write.apply fill) files

theorem replay_append (fill : α) (files : κ → List α) (log log' : List (Write κ α)) :
    replay fill files (log ++ log') = replay fill (replay fill files log) log' :=
  List.foldl_append ..

/-- Writes to other files leave a file as it is. -/
theorem replay_of_forall_ne (fill : α) (files : κ → List α) {log : List (Write κ α)} {key : κ}
    (h : ∀ w ∈ log, w.key ≠ key) : replay fill files log key = files key := by
  induction log generalizing files with
  | nil => rfl
  | cons w log ih =>
      have hw : (w.apply fill files) key = files key :=
        Function.update_of_ne (h w (List.mem_cons_self ..)).symm ..
      calc replay fill files (w :: log) key
          = replay fill (w.apply fill files) log key := rfl
        _ = (w.apply fill files) key := ih _ fun w' hw' => h w' (List.mem_cons_of_mem _ hw')
        _ = files key := hw

/-- What was written last to a file is read at its position. -/
theorem take_drop_replay (fill : α) (files : κ → List α) (log : List (Write κ α))
    {log' : List (Write κ α)} {w : Write κ α} (hlast : ∀ w' ∈ log', w'.key ≠ w.key) {n : ℕ}
    (hn : n ≤ w.data.length) :
    ((replay fill files (log ++ w :: log') w.key).drop w.pos).take n = w.data.take n := by
  have hfile : replay fill files (log ++ w :: log') w.key =
      splice fill (replay fill files log w.key) w.pos w.data := by
    rw [replay_append]
    calc replay fill (replay fill files log) (w :: log') w.key
        = replay fill (w.apply fill (replay fill files log)) log' w.key := rfl
      _ = w.apply fill (replay fill files log) w.key := replay_of_forall_ne fill _ hlast
      _ = _ := Function.update_self ..
  rw [hfile]
  exact take_drop_splice fill _ _ _ hn

end Basis
