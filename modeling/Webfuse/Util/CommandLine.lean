/-
# Command lines

`src/webfuse/util/commandline_reader.cpp` and `commandline_args.cpp`: a cursor over
the arguments of `main`, and the argument vector that is handed on to FUSE.  Both
keep an array and an index; `CommandlineReader.rest` and `CommandlineArgs.Holds` say
in terms of lists what they stand for, and there is one lemma for each operation.

An argument is the content of a C string.
-/

import Webfuse.Message.Types

namespace Webfuse

/-! ### `commandline_reader` -/

/-- `class commandline_reader`. -/
structure CommandlineReader where
  position : ℕ
  argc : ℕ
  argv : List Bytes

namespace CommandlineReader

/-- `commandline_reader::next`. -/
def next (r : CommandlineReader) : Bool × CommandlineReader :=
  let r := if r.position < r.argc then { r with position := r.position + 1 } else r
  (r.position < r.argc, r)

/-- `commandline_reader::current`, which is called where `next` returned true. -/
def current (r : CommandlineReader) : Bytes := r.argv[r.position]?.getD []

/-- The arguments behind the current one. -/
def rest (r : CommandlineReader) : List Bytes := r.argv.drop (r.position + 1)

/-- The reader's count is that of its array. -/
def Valid (r : CommandlineReader) : Prop := r.argc = r.argv.length

theorem Valid.next {r : CommandlineReader} (h : r.Valid) : r.next.2.Valid := by
  unfold CommandlineReader.next
  dsimp only
  split_ifs <;> exact h

/-- Where arguments are left, `next` moves to the first of them. -/
theorem next_of_cons {r : CommandlineReader} (hvalid : r.Valid) {arg : Bytes} {rest : List Bytes}
    (h : r.rest = arg :: rest) :
    r.next.1 = true ∧ r.next.2.current = arg ∧ r.next.2.rest = rest := by
  have hlt : r.position + 1 < r.argv.length := by
    by_contra hge
    have hnil : r.rest = [] := List.drop_eq_nil_of_le (by omega)
    rw [hnil] at h
    cases h
  have hsplit : r.argv[r.position + 1] :: r.argv.drop (r.position + 1 + 1) = arg :: rest := by
    rw [← h]
    exact List.getElem_cons_drop hlt
  injection hsplit with harg hrest
  have hargc : r.position + 1 < r.argc := by
    rw [hvalid]
    exact hlt
  have hnext : r.next = (true, { r with position := r.position + 1 }) := by
    unfold CommandlineReader.next
    dsimp only
    rw [if_pos (show r.position < r.argc by omega)]
    exact congrArg (·, _) (decide_eq_true hargc)
  rw [hnext]
  refine ⟨rfl, ?_, hrest⟩
  unfold current
  rw [List.getElem?_eq_getElem hlt]
  exact harg

/-- Where none are left, `next` says so. -/
theorem next_of_nil {r : CommandlineReader} (hvalid : r.Valid) (h : r.rest = []) :
    r.next.1 = false := by
  have hlen : r.argv.length ≤ r.position + 1 := List.drop_eq_nil_iff.1 h
  unfold Valid at hvalid
  unfold CommandlineReader.next
  apply decide_eq_false
  split_ifs with hpos
  · change ¬ r.position + 1 < r.argc
    omega
  · exact hpos

end CommandlineReader

/-! ### `commandline_args` -/

/-- A pointer of the argument vector. -/
inductive Slot
  | uninitialized
  | null
  | string (s : Bytes)
deriving DecidableEq, Repr

/-- `class commandline_args`. -/
structure CommandlineArgs where
  capacity : ℕ
  argc : ℕ
  argv : List Slot
deriving DecidableEq, Repr

namespace CommandlineArgs

/-- `commandline_args::push`. -/
def push (a : CommandlineArgs) (arg : Bytes) : Except Exn CommandlineArgs :=
  if a.argc < a.capacity then
    .ok { a with argv := (a.argv.set a.argc (.string arg)).set (a.argc + 1) .null
                 argc := a.argc + 1 }
  else .error ⟨"capacity exceeded"⟩

/-- The constructor of `commandline_args`. -/
def new (progName : Bytes) (capacity : ℕ) : Except Exn CommandlineArgs :=
  if capacity < 1 then .error ⟨"too few commandline args"⟩
  else
    let argv := (List.replicate (capacity + 1) Slot.uninitialized).set 0 .null
    push ⟨capacity, 0, argv⟩ progName

/-- The vector holds these strings, a null pointer and slots that are not used yet. -/
structure Holds (a : CommandlineArgs) (strings : List Bytes) : Prop where
  argc : a.argc = strings.length
  argv : ∃ unused, a.argv = strings.map Slot.string ++ Slot.null :: unused
  capacity : a.argv.length = a.capacity + 1

/-- Where there is room, `push` adds a string. -/
theorem Holds.push {a : CommandlineArgs} {strings : List Bytes} (h : a.Holds strings)
    (hroom : strings.length < a.capacity) (arg : Bytes) :
    ∃ a', a.push arg = .ok a' ∧ a'.Holds (strings ++ [arg]) ∧ a'.capacity = a.capacity := by
  obtain ⟨unused, hargv⟩ := h.argv
  have hlen := h.capacity
  rw [hargv, List.length_append, List.length_map, List.length_cons] at hlen
  -- the room is the slot behind the null pointer
  obtain ⟨slot, unused, rfl⟩ : ∃ slot rest, unused = slot :: rest :=
    List.exists_cons_of_length_pos (by omega)
  refine ⟨_, if_pos (by rw [h.argc]; exact hroom), ⟨?_, ⟨unused, ?_⟩, ?_⟩, rfl⟩
  · rw [List.length_append, h.argc]
    rfl
  · dsimp only
    rw [hargv, h.argc, ← List.length_map (f := Slot.string), List.set_append_right _ _ le_rfl,
      List.set_append_right _ _ (Nat.le_add_right _ 1), Nat.sub_self, Nat.add_sub_cancel_left]
    simp
  · dsimp only
    rw [List.length_set, List.length_set]
    exact h.capacity

/-- A vector is made with room for the name of the program. -/
theorem new_holds (progName : Bytes) {capacity : ℕ} (h : 1 ≤ capacity) :
    ∃ a, new progName capacity = .ok a ∧ a.Holds [progName] ∧ a.capacity = capacity := by
  have hempty : Holds ⟨capacity, 0, (List.replicate (capacity + 1) Slot.uninitialized).set 0 .null⟩
      [] := by
    refine ⟨rfl, ⟨List.replicate capacity .uninitialized, rfl⟩, ?_⟩
    rw [List.length_set, List.length_replicate]
  unfold new
  rw [if_neg (by omega)]
  exact hempty.push h progName

end CommandlineArgs

end Webfuse
