/-
# Scanning a list from a position

A scanner reads a list from a position onwards, may throw, and shares a memory
with its caller that survives a throw: `ScanM ε α ω` is the state and exception
monad over a `Cursor` and that memory.

`Reads x l y` says that `x`, started in front of the segment `l` of any list
and with any memory, does what `y` does after the segment.  It is a residual:
`Reads x l (pure a)` is the statement that `x` consumes exactly `l` and returns
`a`, and a scanner that goes on with effects of its own is described by leaving
those effects as `y`.  The rules compose residuals (`Reads.bind`,
`Reads.bind_pure`, `Reads.trans`), so a decoder that reads one field after the
other is verified by chaining one lemma per field, wherever in the message the
fields stand.
-/

import Mathlib.Algebra.Group.Nat.Defs
import Mathlib.Data.UInt
import Mathlib.Tactic.Common

namespace Basis

/-- A list and the position reached in it. -/
structure Cursor (α : Type) where
  data : List α
  pos : ℕ
deriving DecidableEq, Repr

/-- What a scanner runs on: the cursor it moves and the memory it shares with
its caller. -/
structure Scan (α ω : Type) where
  cursor : Cursor α
  memory : ω

/-- Scanners over `α` with memory `ω` that may throw an `ε`. -/
abbrev ScanM (ε α ω : Type) := EStateM ε (Scan α ω)

variable {ε α ω β γ : Type}

/-- The state a computation ends in, whether it returned or threw. -/
def finalState {σ : Type} : EStateM.Result ε σ β → σ
  | .ok _ s => s
  | .error _ s => s

/-- A computation on the memory alone, as a scanner that leaves the cursor. -/
def onMemory (x : EStateM ε ω β) : ScanM ε α ω β := fun s =>
  match x s.memory with
  | .ok b m => .ok b ⟨s.cursor, m⟩
  | .error e m => .error e ⟨s.cursor, m⟩

/-- A scanner without a memory, as one that leaves the memory it is given. -/
def onCursor (x : ScanM ε α Unit β) : ScanM ε α ω β := fun s =>
  match x ⟨s.cursor, ()⟩ with
  | .ok b t => .ok b ⟨t.cursor, s.memory⟩
  | .error e t => .error e ⟨t.cursor, s.memory⟩

/-- An assignment to the memory. -/
def assign (f : ω → ω) : ScanM ε α ω Unit := onMemory fun m => .ok () (f m)

/-- `x` in front of the segment `l` does what `y` does behind it, in every
list that contains the segment and with every memory. -/
def Reads (x : ScanM ε α ω β) (l : List α) (y : ScanM ε α ω β) : Prop :=
  ∀ pre post m, x ⟨⟨pre ++ l ++ post, pre.length⟩, m⟩ =
    y ⟨⟨pre ++ l ++ post, (pre ++ l).length⟩, m⟩

theorem Reads.refl (x : ScanM ε α ω β) : Reads x [] x := fun pre post m => by
  rw [List.append_nil]

/-- Reading one segment and then the next is reading both. -/
theorem Reads.trans {x y z : ScanM ε α ω β} {l k : List α} (hx : Reads x l y)
    (hy : Reads y k z) : Reads x (l ++ k) z := by
  intro pre post m
  have h₁ := hx pre (k ++ post) m
  have h₂ := hy (pre ++ l) post m
  rw [← List.append_assoc] at h₁
  rw [← List.append_assoc, h₁, h₂]

/-- A residual may be rewritten. -/
theorem Reads.congr {x y z : ScanM ε α ω β} {l : List α} (h : Reads x l y) (hy : y = z) :
    Reads x l z := hy ▸ h

/-- What follows in a `do` block follows the residual too. -/
theorem Reads.bind {x y : ScanM ε α ω β} {l : List α} (h : Reads x l y)
    (f : β → ScanM ε α ω γ) : Reads (x >>= f) l (y >>= f) := by
  intro pre post m
  change EStateM.bind x f _ = EStateM.bind y f _
  rw [EStateM.bind, EStateM.bind, h pre post m]

/-- A scanner that consumed `l` and returned `a` hands `a` to what follows. -/
theorem Reads.bind_pure {x : ScanM ε α ω β} {l : List α} {a : β} (h : Reads x l (pure a))
    (f : β → ScanM ε α ω γ) : Reads (x >>= f) l (f a) := by
  have hb := h.bind f
  rwa [pure_bind] at hb

/-- A field and then the rest: the rule a decoder is verified with. -/
theorem Reads.seq {x : ScanM ε α ω β} {l k : List α} {a : β} {f : β → ScanM ε α ω γ}
    {y : ScanM ε α ω γ} (hx : Reads x l (pure a)) (hf : Reads (f a) k y) :
    Reads (x >>= f) (l ++ k) y :=
  (hx.bind_pure f).trans hf

/-- What is read after an assignment is read under it. -/
theorem Reads.assign_bind {f : ω → ω} {k : Unit → ScanM ε α ω β} {y : ScanM ε α ω β} {l : List α}
    (h : Reads (k ()) l y) : Reads (assign f >>= k) l (assign f >>= fun _ => y) :=
  fun pre post m => h pre post (f m)

/-- Two assignments in a row are one. -/
theorem assign_bind_assign (f g : ω → ω) :
    (assign f >>= fun _ => assign g : ScanM ε α ω Unit) = assign (g ∘ f) := rfl

/-- A scanner run from the start of a list that begins with its segment. -/
theorem Reads.from_start {x y : ScanM ε α ω β} {l : List α} (h : Reads x l y) (post : List α)
    (m : ω) : x ⟨⟨l ++ post, 0⟩, m⟩ = y ⟨⟨l ++ post, l.length⟩, m⟩ :=
  h [] post m

/-- A scanner run in front of the last segment of a list. -/
theorem Reads.to_end {x y : ScanM ε α ω β} {l : List α} (h : Reads x l y) (pre : List α)
    (m : ω) : x ⟨⟨pre ++ l, pre.length⟩, m⟩ = y ⟨⟨pre ++ l, (pre ++ l).length⟩, m⟩ := by
  have := h pre [] m
  rwa [List.append_nil] at this

/-! ### What was consumed -/

/-- The cursor `c'` stands behind the segment `l` of the list, and `c` in front of it. -/
structure Cursor.Passed (c c' : Cursor α) (l : List α) : Prop where
  data : c'.data = c.data
  segment : c.data.drop c.pos = l ++ c'.data.drop c'.pos
  pos : c'.pos = c.pos + l.length

namespace Cursor.Passed

theorem refl (c : Cursor α) : c.Passed c [] := ⟨rfl, rfl, rfl⟩

theorem trans {c c' c'' : Cursor α} {l k : List α} (h : c.Passed c' l) (h' : c'.Passed c'' k) :
    c.Passed c'' (l ++ k) where
  data := h'.data.trans h.data
  segment := by rw [h.segment, h'.segment, List.append_assoc]
  pos := by rw [h'.pos, h.pos, List.length_append, Nat.add_assoc]

/-- The segment is what lies between the two positions. -/
theorem take_eq {c c' : Cursor α} {l : List α} (h : c.Passed c' l) :
    (c.data.drop c.pos).take (c'.pos - c.pos) = l := by
  rw [h.segment, h.pos, Nat.add_sub_cancel_left, List.take_left]

/-- What was passed was there. -/
theorem pos_le {c c' : Cursor α} {l : List α} (h : c.Passed c' l) (hne : l ≠ []) :
    c'.pos ≤ c'.data.length := by
  have hlen := congrArg List.length h.segment
  rw [List.length_drop, List.length_append] at hlen
  have hpos := List.length_pos_of_ne_nil hne
  rw [h.pos, h.data]
  omega

end Cursor.Passed

/-! ### Sequences -/

section Sequence

variable {σ : Type} {x : EStateM ε σ β} {s s' : σ} {b : β} {e : ε}

/-- A sequence goes on where its first part returned. -/
theorem bind_of_ok (h : x s = .ok b s') (f : β → EStateM ε σ γ) : (x >>= f) s = f b s' := by
  change EStateM.bind x f s = _
  unfold EStateM.bind
  rw [h]

/-- A sequence ends where its first part threw. -/
theorem bind_of_error (h : x s = .error e s') (f : β → EStateM ε σ γ) :
    (x >>= f) s = .error e s' := by
  change EStateM.bind x f s = _
  unfold EStateM.bind
  rw [h]

/-- A sequence that returned. -/
theorem bind_eq_ok {f : β → EStateM ε σ γ} {c : γ} (h : (x >>= f) s = .ok c s') :
    ∃ b u, x s = .ok b u ∧ f b u = .ok c s' := by
  cases hx : x s with
  | ok b u =>
      rw [bind_of_ok hx] at h
      exact ⟨b, u, rfl, h⟩
  | error e u =>
      rw [bind_of_error hx] at h
      cases h

/-- A computation goes on with the value of one that returned. -/
theorem bind_pure_of_ok (h : x s = .ok b s') (f : β → γ) :
    (x >>= fun b => pure (f b)) s = .ok (f b) s' := by
  rw [bind_of_ok h]
  rfl

/-- A computation that returned what it made of the value of another. -/
theorem bind_pure_ok {f : β → γ} {c : γ} (h : (x >>= fun b => pure (f b)) s = .ok c s') :
    ∃ b, x s = .ok b s' ∧ c = f b := by
  obtain ⟨b, u, hx, hc⟩ := bind_eq_ok h
  injection hc with hc hu
  exact ⟨b, hu ▸ hx, hc.symm⟩

theorem discard_of_ok (h : x s = .ok b s') : discard x s = .ok () s' := by
  change EStateM.map (fun _ => ()) x s = _
  unfold EStateM.map
  rw [h]

theorem discard_of_error (h : x s = .error e s') : discard x s = .error e s' := by
  change EStateM.map (fun _ => ()) x s = _
  unfold EStateM.map
  rw [h]

end Sequence

section Stateless

variable {x : Except ε β} {f g : β → Except ε γ}

/-- A sequence without a state that returned. -/
theorem of_bind_ok {c : γ} (h : (x >>= f) = .ok c) : ∃ b, x = .ok b ∧ f b = .ok c := by
  cases x with
  | error e => cases h
  | ok b => exact ⟨b, rfl, h⟩

/-- A sequence without a state that threw. -/
theorem of_bind_error {e : ε} (h : (x >>= f) = .error e) :
    x = .error e ∨ ∃ b, x = .ok b ∧ f b = .error e := by
  cases x with
  | error e' =>
      cases h
      exact .inl rfl
  | ok b => exact .inr ⟨b, rfl, h⟩

/-- What follows matters for the value that was returned. -/
theorem bind_congr_ok (h : ∀ b, x = .ok b → f b = g b) : (x >>= f) = x >>= g := by
  cases x with
  | error e => rfl
  | ok b => exact h b rfl

end Stateless

/-! ### The memory and the cursor -/

theorem onMemory_of_ok {x : EStateM ε ω β} {m m' : ω} {b : β} (h : x m = .ok b m')
    (c : Cursor α) : (onMemory x : ScanM ε α ω β) ⟨c, m⟩ = .ok b ⟨c, m'⟩ := by
  unfold onMemory
  rw [h]

/-- A computation on the memory that returned. -/
theorem onMemory_eq_ok {x : EStateM ε ω β} {s t : Scan α ω} {b : β}
    (h : onMemory x s = .ok b t) : x s.memory = .ok b t.memory ∧ t.cursor = s.cursor := by
  unfold onMemory at h
  cases hx : x s.memory with
  | ok b' m =>
      rw [hx] at h
      injection h with hb ht
      rw [hb, ← ht]
      exact ⟨rfl, rfl⟩
  | error e m =>
      rw [hx] at h
      cases h

/-- A computation on the memory leaves the cursor where it is, also when it
throws. -/
theorem finalState_onMemory (x : EStateM ε ω β) (s : Scan α ω) :
    finalState (onMemory x s) = ⟨s.cursor, finalState (x s.memory)⟩ := by
  unfold onMemory
  cases x s.memory <;> rfl

/-- A scanner that only works on the memory behind its segment ends there, also
when it throws. -/
theorem Reads.cursor_to_end {x : ScanM ε α ω β} {l : List α} {y : EStateM ε ω β}
    (h : Reads x l (onMemory y)) (pre : List α) (m : ω) :
    (finalState (x ⟨⟨pre ++ l, pre.length⟩, m⟩)).cursor = ⟨pre ++ l, (pre ++ l).length⟩ := by
  rw [h.to_end pre m, finalState_onMemory]

/-- A computation on the memory that goes on with computations on the memory
is one. -/
theorem onMemory_bind {x : EStateM ε ω β} {f : β → ScanM ε α ω γ} {g : β → EStateM ε ω γ}
    (h : ∀ b, f b = onMemory (g b)) : onMemory x >>= f = onMemory (x >>= g) := by
  funext s
  change EStateM.bind (onMemory x) f s = onMemory (EStateM.bind x g) s
  simp only [EStateM.bind, onMemory]
  cases x s.memory with
  | ok b m => simp [h, onMemory]
  | error e m => rfl

@[simp] theorem onCursor_pure (b : β) :
    (onCursor (pure b) : ScanM ε α ω β) = pure b := rfl

@[simp] theorem onCursor_bind (x : ScanM ε α Unit β) (f : β → ScanM ε α Unit γ) :
    (onCursor (x >>= f) : ScanM ε α ω γ) = onCursor x >>= fun b => onCursor (f b) := by
  funext s
  change onCursor (EStateM.bind x f) s = EStateM.bind (onCursor x) (fun b => onCursor (f b)) s
  simp only [EStateM.bind, onCursor]
  cases x ⟨s.cursor, ()⟩ with
  | ok b t => rfl
  | error e t => rfl

/-- A scanner without a memory leaves the one it is given, also when it throws. -/
theorem onCursor_memory (x : ScanM ε α Unit β) (s : Scan α ω) :
    (finalState ((onCursor x : ScanM ε α ω β) s)).memory = s.memory := by
  unfold onCursor
  cases x ⟨s.cursor, ()⟩ <;> rfl

/-- What a scanner can return. -/
def Yields (x : ScanM ε α ω β) (P : β → Prop) : Prop := ∀ s b t, x s = .ok b t → P b

theorem Yields.pure {P : β → Prop} {b : β} (h : P b) : Yields (pure b : ScanM ε α ω β) P := by
  intro s c t hc
  injection hc with hb
  exact hb ▸ h

theorem Yields.bind {x : ScanM ε α ω β} {f : β → ScanM ε α ω γ} {P : γ → Prop}
    (h : ∀ b, Yields (f b) P) : Yields (x >>= f) P := by
  intro s c t hc
  obtain ⟨b, u, -, hu⟩ := bind_eq_ok hc
  exact h b u c t hu

end Basis
