/-
# Scanners that know where they end

A scanner is self-delimiting when what it makes of a list is decided by the
elements it consumed: on every list that begins with the same elements it
returns the same and stops at the same place, and on a list that breaks off
before that place it throws (`SelfDelimiting`).  Formats with optional data at
the end rest on the first half, framing errors are caught by the second.

The property is kept by sequencing (`SelfDelimiting.bind`), although what is read
next may depend on what was read before: where the list breaks off within the
first part the first scanner throws, and where it breaks off later the first
scanner goes through unchanged and the second one throws.  So a decoder is
self-delimiting when each of its reads is, and a read is when it takes a number
of elements that are there or throws (`fixed`).
-/

import Webfuse.Basis.Scan

namespace Basis

variable {ε α ω β γ : Type}

/-- The computation threw. -/
def Throws {σ : Type} (r : EStateM.Result ε σ β) : Prop := ∃ e s, r = .error e s

/-- The next `n` elements, or a throw that leaves the cursor. -/
def fixed (n : ℕ) (f : List α → β) (e : ε) : ScanM ε α ω β := fun ⟨⟨data, pos⟩, m⟩ =>
  if pos + n ≤ data.length then .ok (f ((data.drop pos).take n)) ⟨⟨data, pos + n⟩, m⟩
  else .error e ⟨⟨data, pos⟩, m⟩

theorem fixed_ok {n : ℕ} {f : List α → β} {e : ε} {data : List α} {pos : ℕ} {m : ω}
    (h : pos + n ≤ data.length) :
    fixed n f e ⟨⟨data, pos⟩, m⟩ = .ok (f ((data.drop pos).take n)) ⟨⟨data, pos + n⟩, m⟩ :=
  if_pos h

theorem fixed_error {n : ℕ} {f : List α → β} {e : ε} {data : List α} {pos : ℕ} {m : ω}
    (h : ¬ pos + n ≤ data.length) :
    fixed n f e ⟨⟨data, pos⟩, m⟩ = .error e ⟨⟨data, pos⟩, m⟩ :=
  if_neg h

/-- Elements that were returned are those that were passed. -/
theorem fixed_passed {n : ℕ} {f : List α → β} {e : ε} {s t : Scan α ω} {b : β}
    (h : fixed n f e s = .ok b t) :
    ∃ l, l.length = n ∧ b = f l ∧ t.memory = s.memory ∧ s.cursor.Passed t.cursor l := by
  obtain ⟨⟨data, pos⟩, m⟩ := s
  by_cases hlen : pos + n ≤ data.length
  · rw [fixed_ok hlen] at h
    injection h with hb ht
    have hn : ((data.drop pos).take n).length = n := by
      rw [List.length_take, List.length_drop]
      omega
    refine ⟨(data.drop pos).take n, hn, hb.symm, by rw [← ht], ?_⟩
    rw [← ht]
    refine ⟨rfl, ?_, by rw [hn]⟩
    change data.drop pos = _ ++ data.drop (pos + n)
    rw [← List.drop_drop, List.take_append_drop]
  · rw [fixed_error hlen] at h
    cases h

@[simp] theorem onCursor_fixed (n : ℕ) (f : List α → β) (e : ε) :
    (onCursor (fixed n f e) : ScanM ε α ω β) = fixed n f e := by
  funext ⟨⟨data, pos⟩, m⟩
  unfold onCursor
  by_cases hlen : pos + n ≤ data.length
  · rw [fixed_ok hlen, fixed_ok hlen]
  · rw [fixed_error hlen, fixed_error hlen]

/-- What is made of the elements can be made of them at once. -/
theorem fixed_map (n : ℕ) (f : List α → β) (e : ε) (g : β → γ) :
    (fixed n f e >>= fun b => pure (g b) : ScanM ε α ω γ) = fixed n (fun l => g (f l)) e := by
  funext ⟨⟨data, pos⟩, m⟩
  by_cases hlen : pos + n ≤ data.length
  · rw [bind_of_ok (fixed_ok hlen), fixed_ok hlen]
    rfl
  · rw [bind_of_error (fixed_error hlen), fixed_error hlen]

/-- A scanner that reads every segment of `n` elements and throws where there are
fewer. -/
theorem eq_fixed_of_reads {x : ScanM ε α ω β} {n : ℕ} {f : List α → β} {e : ε}
    (hread : ∀ l, l.length = n → Reads x l (pure (f l)))
    (hshort : ∀ data pos m, data.length < pos + n →
      x ⟨⟨data, pos⟩, m⟩ = .error e ⟨⟨data, pos⟩, m⟩) : x = fixed n f e := by
  funext ⟨⟨data, pos⟩, m⟩
  by_cases hlen : pos + n ≤ data.length
  · have hseg : ((data.drop pos).take n).length = n := by
      rw [List.length_take, List.length_drop]
      omega
    have hpre : (data.take pos).length = pos := by
      rw [List.length_take]
      omega
    have hsplit : data.take pos ++ (data.drop pos).take n ++ (data.drop pos).drop n = data := by
      rw [List.append_assoc, List.take_append_drop, List.take_append_drop]
    have h := hread _ hseg (data.take pos) ((data.drop pos).drop n) m
    rw [hsplit, List.length_append, hseg, hpre] at h
    rw [h, fixed_ok hlen]
    rfl
  · rw [hshort data pos m (by omega), fixed_error hlen]

/-- What `x` makes of a list is decided by the elements it consumed. -/
structure SelfDelimiting (x : ScanM ε α ω β) : Prop where
  /-- The list is not changed, and the cursor moves forward within it. -/
  moves : ∀ {data pos m b st}, x ⟨⟨data, pos⟩, m⟩ = .ok b st →
    st.cursor.data = data ∧ pos ≤ st.cursor.pos ∧
      (pos ≤ data.length → st.cursor.pos ≤ data.length)
  /-- Whatever follows the consumed elements, the result is the same. -/
  extend : ∀ {data data' pos pos' m b m'}, x ⟨⟨data, pos⟩, m⟩ = .ok b ⟨⟨data, pos'⟩, m'⟩ →
    pos ≤ data.length → data'.take pos' = data.take pos' →
      x ⟨⟨data', pos⟩, m⟩ = .ok b ⟨⟨data', pos'⟩, m'⟩
  /-- A list that breaks off among the consumed elements is refused. -/
  breaks : ∀ {data pos pos' k m b m'}, x ⟨⟨data, pos⟩, m⟩ = .ok b ⟨⟨data, pos'⟩, m'⟩ →
    pos ≤ data.length → pos ≤ k → k < pos' → Throws (x ⟨⟨data.take k, pos⟩, m⟩)

/-- Lists with the same first elements are of no different length up to there. -/
theorem le_length_of_take_eq {l k : List α} {n : ℕ} (h : k.take n = l.take n)
    (hn : n ≤ l.length) : n ≤ k.length := by
  have hlen := congrArg List.length h
  rw [List.length_take, List.length_take] at hlen
  omega

/-- Lists with the same first elements have the same elements at a place among
them. -/
theorem take_drop_eq_of_take_eq {l k : List α} {n m p : ℕ} (h : k.take n = l.take n)
    (hn : p + m ≤ n) : (k.drop p).take m = (l.drop p).take m := by
  have hseg (xs : List α) : (xs.drop p).take m = ((xs.take n).drop p).take m := by
    rw [List.drop_take, List.take_take, Nat.min_eq_left (by omega)]
  rw [hseg k, hseg l, h]

theorem Throws.bind {x : ScanM ε α ω β} {s : Scan α ω} (h : Throws (x s))
    (f : β → ScanM ε α ω γ) : Throws ((x >>= f) s) := by
  obtain ⟨e, u, h⟩ := h
  exact ⟨e, u, bind_of_error h f⟩

namespace SelfDelimiting

theorem fixed (n : ℕ) (f : List α → β) (e : ε) :
    SelfDelimiting (Basis.fixed n f e : ScanM ε α ω β) where
  moves {data pos m b st} h := by
    by_cases hlen : pos + n ≤ data.length
    · rw [fixed_ok hlen] at h
      injection h with _ hst
      rw [← hst]
      exact ⟨rfl, Nat.le_add_right .., fun _ => hlen⟩
    · rw [fixed_error hlen] at h
      cases h
  extend {data data' pos pos' m b m'} h hpos heq := by
    by_cases hlen : pos + n ≤ data.length
    · rw [fixed_ok hlen] at h
      injection h with hb hst
      injection hst with hcursor hm
      injection hcursor with _ hp
      subst hp
      rw [fixed_ok (le_length_of_take_eq heq hlen), take_drop_eq_of_take_eq heq le_rfl, hb, hm]
    · rw [fixed_error hlen] at h
      cases h
  breaks {data pos pos' k m b m'} h hpos hk hlt := by
    by_cases hlen : pos + n ≤ data.length
    · rw [fixed_ok hlen] at h
      injection h with _ hst
      injection hst with hcursor _
      injection hcursor with _ hp
      refine ⟨e, ⟨⟨data.take k, pos⟩, m⟩, fixed_error ?_⟩
      rw [List.length_take]
      omega
    · rw [fixed_error hlen] at h
      cases h

/-- A computation on the memory consumes nothing. -/
theorem onMemory (y : EStateM ε ω β) : SelfDelimiting (Basis.onMemory y : ScanM ε α ω β) where
  moves {data pos m b st} h := by
    obtain ⟨-, hcursor⟩ := onMemory_eq_ok h
    rw [hcursor]
    exact ⟨rfl, le_rfl, id⟩
  extend {data data' pos pos' m b m'} h hpos heq := by
    obtain ⟨hy, hcursor⟩ := onMemory_eq_ok h
    injection hcursor with _ hp
    rw [hp]
    exact onMemory_of_ok hy _
  breaks {data pos pos' k m b m'} h hpos hk hlt := by
    obtain ⟨-, hcursor⟩ := onMemory_eq_ok h
    injection hcursor with _ hp
    omega

theorem pure (b : β) : SelfDelimiting (Pure.pure b : ScanM ε α ω β) := onMemory (Pure.pure b)

theorem assign (f : ω → ω) : SelfDelimiting (Basis.assign f : ScanM ε α ω Unit) := onMemory _

/-- A scanner that never returns. -/
theorem of_throws {x : ScanM ε α ω β} (h : ∀ s, Throws (x s)) : SelfDelimiting x where
  moves {data pos m b st} hx := by
    obtain ⟨e, s, he⟩ := h ⟨⟨data, pos⟩, m⟩
    rw [he] at hx
    cases hx
  extend {data data' pos pos' m b m'} hx := by
    obtain ⟨e, s, he⟩ := h ⟨⟨data, pos⟩, m⟩
    rw [he] at hx
    cases hx
  breaks {data pos pos' k m b m'} _ _ _ _ := h _

/-- **Scanners that are self-delimiting can be put in sequence**, also when the
second depends on what the first returned. -/
theorem bind {x : ScanM ε α ω β} {f : β → ScanM ε α ω γ} (hx : SelfDelimiting x)
    (hf : ∀ b, SelfDelimiting (f b)) : SelfDelimiting (x >>= f) where
  moves {data pos m c st} h := by
    obtain ⟨b, ⟨⟨data₁, pos₁⟩, m₁⟩, h₁, h₂⟩ := bind_eq_ok h
    obtain ⟨hd, hle, hin⟩ := hx.moves h₁
    simp only at hd hle hin
    subst hd
    obtain ⟨hd', hle', hin'⟩ := (hf b).moves h₂
    exact ⟨hd', hle.trans hle', fun hpos => hin' (hin hpos)⟩
  extend {data data' pos pos' m c m'} h hpos heq := by
    obtain ⟨b, ⟨⟨data₁, pos₁⟩, m₁⟩, h₁, h₂⟩ := bind_eq_ok h
    obtain ⟨hd, -, hin⟩ := hx.moves h₁
    simp only at hd hin
    subst hd
    have hle : pos₁ ≤ pos' := ((hf b).moves h₂).2.1
    have heq₁ : data'.take pos₁ = data₁.take pos₁ := by
      rw [← Nat.min_eq_left hle, ← List.take_take, heq, List.take_take]
    rw [bind_of_ok (hx.extend h₁ hpos heq₁)]
    exact (hf b).extend h₂ (hin hpos) heq
  breaks {data pos pos' k m c m'} h hpos hk hlt := by
    obtain ⟨b, ⟨⟨data₁, pos₁⟩, m₁⟩, h₁, h₂⟩ := bind_eq_ok h
    obtain ⟨hd, -, hin⟩ := hx.moves h₁
    simp only at hd hin
    subst hd
    -- the list breaks off within the first part or behind it
    rcases Nat.lt_or_ge k pos₁ with hfirst | hsecond
    · exact (hx.breaks h₁ hpos hk hfirst).bind f
    · have heq₁ : (data₁.take k).take pos₁ = data₁.take pos₁ := by
        rw [List.take_take, Nat.min_eq_left hsecond]
      rw [bind_of_ok (hx.extend h₁ hpos heq₁)]
      exact (hf b).breaks h₂ (hin hpos) hsecond hlt

/-- A field that is read and assigned, and then the rest. -/
theorem assigned {x : ScanM ε α ω β} {f : β → ω → ω} {k : ScanM ε α ω γ} (hx : SelfDelimiting x)
    (hk : SelfDelimiting k) : SelfDelimiting (x >>= fun b => Basis.assign (f b) >>= fun _ => k) :=
  hx.bind fun _ => (assign _).bind fun _ => hk

end SelfDelimiting

/-! ### Layouts -/

/-- The number of elements that a sequence of fields takes at the front of a list,
when they are there.  A field is given by its width, which may be read off the
list it stands in front of. -/
def extent : List (List α → ℕ) → List α → Option ℕ
  | [], _ => some 0
  | width :: fields, l =>
      if width l ≤ l.length then (extent fields (l.drop (width l))).map (width l + ·) else none

/-- `x` reads a sequence of fields: it returns behind them and leaves the memory,
or throws when they are not complete. -/
def Scans (x : ScanM ε α ω β) (fields : List (List α → ℕ)) : Prop :=
  ∀ data pos m, pos ≤ data.length →
    match extent fields (data.drop pos) with
    | some n => ∃ b, x ⟨⟨data, pos⟩, m⟩ = .ok b ⟨⟨data, pos + n⟩, m⟩
    | none => Throws (x ⟨⟨data, pos⟩, m⟩)

namespace Scans

theorem pure (b : β) : Scans (Pure.pure b : ScanM ε α ω β) [] := fun _ _ _ _ => ⟨b, rfl⟩

theorem fixed (n : ℕ) (f : List α → β) (e : ε) :
    Scans (Basis.fixed n f e : ScanM ε α ω β) [fun _ => n] := by
  intro data pos m hpos
  by_cases hlen : pos + n ≤ data.length
  · have hin : n ≤ (data.drop pos).length := by
      rw [List.length_drop]
      omega
    rw [extent, if_pos hin]
    exact ⟨_, fixed_ok hlen⟩
  · have hout : ¬ n ≤ (data.drop pos).length := by
      rw [List.length_drop]
      omega
    rw [extent, if_neg hout]
    exact ⟨e, _, fixed_error hlen⟩

/-- A field and then the rest. -/
theorem bind {x : ScanM ε α ω β} {f : β → ScanM ε α ω γ} {width : List α → ℕ}
    {fields : List (List α → ℕ)} (hx : Scans x [width]) (hf : ∀ b, Scans (f b) fields) :
    Scans (x >>= f) (width :: fields) := by
  intro data pos m hpos
  have hfirst := hx data pos m hpos
  rw [extent] at hfirst ⊢
  by_cases hw : width (data.drop pos) ≤ (data.drop pos).length
  · rw [if_pos hw] at hfirst ⊢
    obtain ⟨b, hb⟩ := hfirst
    simp only [Nat.add_zero] at hb
    have hpos' : pos + width (data.drop pos) ≤ data.length := by
      rw [List.length_drop] at hw
      omega
    have hrest := hf b data _ m hpos'
    rw [bind_of_ok hb, List.drop_drop]
    cases hext : extent fields (data.drop (pos + width (data.drop pos))) with
    | some n =>
        rw [hext] at hrest
        obtain ⟨c, hc⟩ := hrest
        exact ⟨c, by rw [hc, Nat.add_assoc]⟩
    | none =>
        rw [hext] at hrest
        exact hrest
  · rw [if_neg hw] at hfirst ⊢
    exact hfirst.bind f

end Scans

/-! ### What a scanner needs -/

/-- `x` needs a number of elements, which those before it decide: it returns behind them
when they are there, and otherwise throws somewhere before the end of the list. -/
structure Needs (x : ScanM ε α ω β) (need : List α → ℕ) (value : List α → β) : Prop where
  enough : ∀ {data pos m}, pos ≤ data.length →
    need (data.drop pos) ≤ (data.drop pos).length → ∃ m', x ⟨⟨data, pos⟩, m⟩ =
      .ok (value (data.drop pos)) ⟨⟨data, pos + need (data.drop pos)⟩, m'⟩
  short : ∀ {data pos m}, pos ≤ data.length →
    (data.drop pos).length < need (data.drop pos) → ∃ e pos' m', x ⟨⟨data, pos⟩, m⟩ =
      .error e ⟨⟨data, pos'⟩, m'⟩ ∧ pos ≤ pos' ∧ pos' ≤ data.length

namespace Needs

theorem assign (f : ω → ω) :
    Needs (Basis.assign f : ScanM ε α ω Unit) (fun _ => 0) (fun _ => ()) where
  enough _ _ := ⟨_, rfl⟩
  short _ h := absurd h (Nat.not_lt_zero _)

theorem pure (b : β) : Needs (Pure.pure b : ScanM ε α ω β) (fun _ => 0) (fun _ => b) where
  enough _ _ := ⟨_, rfl⟩
  short _ h := absurd h (Nat.not_lt_zero _)

theorem fixed (n : ℕ) (f : List α → β) (e : ε) :
    Needs (Basis.fixed n f e : ScanM ε α ω β) (fun _ => n) (fun l => f (l.take n)) where
  enough {data pos m} hpos h := by
    rw [List.length_drop] at h
    exact ⟨m, fixed_ok (by omega)⟩
  short {data pos m} hpos h := by
    rw [List.length_drop] at h
    exact ⟨e, pos, m, fixed_error (by omega), le_rfl, hpos⟩

/-- What is needed in sequence: what the first needs, and what the second needs of the
elements behind that. -/
theorem bind {x : ScanM ε α ω β} {f : β → ScanM ε α ω γ} {n : List α → ℕ} {v : List α → β}
    {n' : β → List α → ℕ} {v' : β → List α → γ} (hx : Needs x n v)
    (hf : ∀ b, Needs (f b) (n' b) (v' b)) :
    Needs (x >>= f) (fun l => n l + n' (v l) (l.drop (n l)))
      (fun l => v' (v l) (l.drop (n l))) where
  enough {data pos m} hpos h := by
    have hfirst : n (data.drop pos) ≤ (data.drop pos).length := by omega
    obtain ⟨m₁, h₁⟩ := hx.enough (m := m) hpos hfirst
    rw [bind_of_ok h₁]
    rw [List.drop_drop] at h ⊢
    rw [List.length_drop] at h hfirst
    have hpos' : pos + n (data.drop pos) ≤ data.length := by omega
    have hrest : n' (v (data.drop pos)) (data.drop (pos + n (data.drop pos))) ≤
        (data.drop (pos + n (data.drop pos))).length := by
      rw [List.length_drop]
      omega
    obtain ⟨m₂, h₂⟩ := (hf (v (data.drop pos))).enough (m := m₁) hpos' hrest
    exact ⟨m₂, by rw [h₂, Nat.add_assoc]⟩
  short {data pos m} hpos h := by
    rcases Nat.lt_or_ge (data.drop pos).length (n (data.drop pos)) with hfirst | hfirst
    · obtain ⟨e, pos', m', h₁, hle, hin⟩ := hx.short (m := m) hpos hfirst
      exact ⟨e, pos', m', bind_of_error h₁ f, hle, hin⟩
    · obtain ⟨m₁, h₁⟩ := hx.enough (m := m) hpos hfirst
      rw [bind_of_ok h₁]
      rw [List.drop_drop] at h
      rw [List.length_drop] at h hfirst
      have hpos' : pos + n (data.drop pos) ≤ data.length := by omega
      have hrest : (data.drop (pos + n (data.drop pos))).length <
          n' (v (data.drop pos)) (data.drop (pos + n (data.drop pos))) := by
        rw [List.length_drop]
        omega
      obtain ⟨e, pos', m', h₂, hle, hin⟩ := (hf (v (data.drop pos))).short (m := m₁) hpos' hrest
      exact ⟨e, pos', m', h₂, by omega, hin⟩

/-- What is needed may be counted in another way. -/
theorem of_eq {x : ScanM ε α ω β} {n n' : List α → ℕ} {v : List α → β} (h : Needs x n v)
    (heq : ∀ l, n l = n' l) : Needs x n' v := funext heq ▸ h

/-- A field that is stored, and then the rest. -/
theorem store {x : ScanM ε α ω β} {k n : ℕ} {v : List α → β} {g : β → ω → ω}
    {y : ScanM ε α ω Unit} (hx : Needs x (fun _ => k) v)
    (hy : Needs y (fun _ => n) (fun _ => ())) :
    Needs (x >>= fun b => Basis.assign (g b) >>= fun _ => y) (fun _ => k + n) (fun _ => ()) := by
  have h := hx.bind fun b => (assign (g b)).bind fun _ => hy
  exact h.of_eq fun _ => by rw [Nat.zero_add]

/-- The cursor stays in the list it is in and does not go back. -/
theorem cursor_le {x : ScanM ε α ω β} {n : List α → ℕ} {v : List α → β} (h : Needs x n v)
    {data : List α} {pos : ℕ} (hpos : pos ≤ data.length) (m : ω) :
    (finalState (x ⟨⟨data, pos⟩, m⟩)).cursor.data = data ∧
      pos ≤ (finalState (x ⟨⟨data, pos⟩, m⟩)).cursor.pos ∧
      (finalState (x ⟨⟨data, pos⟩, m⟩)).cursor.pos ≤ data.length := by
  rcases Nat.lt_or_ge (data.drop pos).length (n (data.drop pos)) with hn | hn
  · obtain ⟨e, pos', m', hx, hle, hin⟩ := h.short (m := m) hpos hn
    rw [hx]
    exact ⟨rfl, hle, hin⟩
  · obtain ⟨m', hx⟩ := h.enough (m := m) hpos hn
    rw [List.length_drop] at hn
    rw [hx]
    refine ⟨rfl, Nat.le_add_right .., ?_⟩
    change pos + n (data.drop pos) ≤ data.length
    omega

/-- It throws just where elements are missing. -/
theorem throws_iff {x : ScanM ε α ω β} {n : List α → ℕ} {v : List α → β} (h : Needs x n v)
    {data : List α} {pos : ℕ} (hpos : pos ≤ data.length) (m : ω) :
    Throws (x ⟨⟨data, pos⟩, m⟩) ↔ (data.drop pos).length < n (data.drop pos) := by
  rcases Nat.lt_or_ge (data.drop pos).length (n (data.drop pos)) with hn | hn
  · obtain ⟨e, pos', m', hx, -, -⟩ := h.short (m := m) hpos hn
    exact iff_of_true ⟨e, _, hx⟩ hn
  · obtain ⟨m', hx⟩ := h.enough (m := m) hpos hn
    refine iff_of_false ?_ (by omega)
    rintro ⟨e, s, he⟩
    rw [hx] at he
    cases he

end Needs

/-! ### Fields that are stored -/

/-- A field of a fixed width, and what is made of the memory when it was read. -/
structure Slot (α ω : Type) where
  width : ℕ
  store : List α → ω → ω

/-- The memory after the fields from position `o` on: what is complete in the list is
stored, and nothing else. -/
def storeFrom (l : List α) : ℕ → List (Slot α ω) → ω → ω
  | _, [], m => m
  | o, slot :: slots, m =>
      storeFrom l (o + slot.width) slots
        (if o + slot.width ≤ l.length then slot.store ((l.drop o).take slot.width) m else m)

/-- Behind the end of the list nothing is stored. -/
theorem storeFrom_of_lt {l : List α} {o : ℕ} (h : l.length < o) (slots : List (Slot α ω))
    (m : ω) : storeFrom l o slots m = m := by
  induction slots generalizing o with
  | nil => rfl
  | cons slot slots ih =>
      have hout : ¬ o + slot.width ≤ l.length := by omega
      rw [storeFrom, if_neg hout]
      exact ih (by omega)

/-- Positions can be counted from a place in the list. -/
theorem storeFrom_drop (l : List α) {pos : ℕ} (hpos : pos ≤ l.length) (o : ℕ)
    (slots : List (Slot α ω)) (m : ω) :
    storeFrom l (pos + o) slots m = storeFrom (l.drop pos) o slots m := by
  induction slots generalizing o m with
  | nil => rfl
  | cons slot slots ih =>
      have hin : pos + o + slot.width ≤ l.length ↔ o + slot.width ≤ (l.drop pos).length := by
        rw [List.length_drop]
        omega
      simp only [storeFrom, hin, List.drop_drop]
      rw [Nat.add_assoc, ih]

/-- `x` stores one field after the other, also when it throws before the last. -/
def Stores (x : ScanM ε α ω Unit) (slots : List (Slot α ω)) : Prop :=
  ∀ data pos m, (finalState (x ⟨⟨data, pos⟩, m⟩)).memory = storeFrom data pos slots m

theorem Stores.nil : Stores (Pure.pure () : ScanM ε α ω Unit) [] := fun _ _ _ => rfl

/-- A field that is read and stored, and then the rest. -/
theorem Stores.cons {n : ℕ} {f : List α → β} {e : ε} {g : β → ω → ω} {k : ScanM ε α ω Unit}
    {slots : List (Slot α ω)} (hk : Stores k slots) :
    Stores (fixed n f e >>= fun b => assign (g b) >>= fun _ => k)
      (⟨n, fun l => g (f l)⟩ :: slots) := by
  intro data pos m
  by_cases hlen : pos + n ≤ data.length
  · rw [bind_of_ok (fixed_ok hlen), storeFrom, if_pos hlen]
    exact hk data (pos + n) _
  · have hbehind : data.length < pos + n := Nat.lt_of_not_le hlen
    rw [bind_of_error (fixed_error hlen), storeFrom, if_neg hlen, storeFrom_of_lt hbehind]
    rfl

/-- The last field is read and stored. -/
theorem Stores.last {n : ℕ} {f : List α → β} {e : ε} {g : β → ω → ω} :
    Stores (fixed n f e >>= fun b => assign (g b)) [⟨n, fun l => g (f l)⟩] := by
  have h := Stores.cons (n := n) (f := f) (e := e) (g := g) Stores.nil
  have hpure (b : β) : (assign (g b) >>= fun _ => Pure.pure () : ScanM ε α ω Unit) =
      assign (g b) := rfl
  simpa only [hpure] using h

end Basis
