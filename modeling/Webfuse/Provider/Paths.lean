/-
# Paths and the base path

A path is resolved lexically: its components are the names between slashes, an empty
component and `.` stay, `..` goes up, and no link is followed (`resolve`).

The base path of `webfuse_provider` is what `realpath` made of the path it was given,
and every path of a request is put behind it as it is.  `inside_iff` says of which
paths the result is the base directory or below it, in terms of the path alone: one
that climbs above the base directory has to go down again by the names it climbed past.
A path that does not start with a slash continues the last name of the base path, so it
starts beside the base directory and not in it.
-/

import Webfuse.Basis.Walk
import Webfuse.Provider.Main
import Webfuse.Util.Text

namespace Webfuse

open Basis

/-- What a component of a path asks for. -/
def stepOf (component : Bytes) : Step Bytes :=
  if component = [] ∨ component = ascii "." then .stay
  else if component = ascii ".." then .up
  else .down component

def stepsOf (path : Bytes) : List (Step Bytes) := (path.splitOn 0x2f).map stepOf

/-- The place an absolute path names. -/
def resolve (path : Bytes) : List Bytes := walk [] (stepsOf path)

/-- A name of a directory entry. -/
structure IsName (name : Bytes) : Prop where
  ne_nil : name ≠ []
  ne_dot : name ≠ ascii "."
  ne_dotdot : name ≠ ascii ".."
  no_slash : 0x2f ∉ name
  no_nul : 0 ∉ name

/-- What `realpath` returns: an absolute path of names, with a slash before each. -/
structure BasePath where
  names : List Bytes
  isName : ∀ name ∈ names, IsName name

/-- Names with a slash before each. -/
def joined (names : List Bytes) : Bytes := names.flatMap fun name => 0x2f :: name

namespace BasePath

variable (base : BasePath)

def bytes : Bytes := if base.names = [] then ascii "/" else joined base.names

/-- A path names the base directory, or something below it. -/
def Inside (path : Bytes) : Prop := base.names <+: resolve path

/-- How many levels a path climbs from its first slash on, and the names it goes down
after that. -/
def climb (path : Bytes) : ℕ × List Bytes := net (stepsOf (path.dropWhile (· ≠ 0x2f)))

/-- The path climbs past no names that it does not go down by again.  A path that
continues the last name of the base path has to climb. -/
def Keeps (path : Bytes) : Prop :=
  base.names = [] ∨
    (path.head? = some 0x2f ∨ path = [] ∨ 0 < (climb path).1) ∧
      base.names.drop (base.names.length - (climb path).1) <+: (climb path).2

end BasePath

/-! ### Steps of a path -/

/-- What starts with a name is none of the special components. -/
theorem IsName.stepOf_append {name : Bytes} (h : IsName name) (tail : Bytes) :
    stepOf (name ++ tail) = .down (name ++ tail) := by
  have hnil : name ++ tail ≠ [] := List.append_ne_nil_of_left_ne_nil h.ne_nil tail
  have hdot : name ++ tail ≠ ascii "." := by
    intro heq
    have hmem : name ∈ [[], ascii "."] := (List.mem_inits name (ascii ".")).2 ⟨tail, heq⟩
    simp [h.ne_nil, h.ne_dot] at hmem
  have hdotdot : name ++ tail ≠ ascii ".." := by
    intro heq
    have hmem : name ∈ [[], ascii ".", ascii ".."] :=
      (List.mem_inits name (ascii "..")).2 ⟨tail, heq⟩
    simp [h.ne_nil, h.ne_dot, h.ne_dotdot] at hmem
  unfold stepOf
  rw [if_neg (not_or.2 ⟨hnil, hdot⟩), if_neg hdotdot]

theorem stepsOf_append (path path' : Bytes) :
    stepsOf (path ++ 0x2f :: path') = stepsOf path ++ stepsOf path' := by
  unfold stepsOf
  rw [List.splitOn_append_cons_self, List.map_append]

theorem stepsOf_of_notMem {path : Bytes} (h : 0x2f ∉ path) : stepsOf path = [stepOf path] := by
  unfold stepsOf
  rw [List.splitOn_eq_singleton h, List.map_singleton]

/-- The steps of names are those down. -/
theorem walk_joined {names : List Bytes} (h : ∀ name ∈ names, IsName name)
    (place : List Bytes) : walk place (stepsOf (joined names)) = place ++ names := by
  induction names using List.reverseRecOn with
  | nil => rw [List.append_nil]; rfl
  | append_singleton names name ih =>
      have hname := h name (by simp)
      have hdown : stepsOf name = [.down name] := by
        have := hname.stepOf_append []
        rw [List.append_nil] at this
        rw [stepsOf_of_notMem hname.no_slash, this]
      have hjoined : joined (names ++ [name]) = joined names ++ 0x2f :: name := by
        simp [joined]
      rw [hjoined, stepsOf_append, walk_append, ih fun n hn => h n (List.mem_append_left _ hn),
        hdown, ← List.append_assoc]
      rfl

/-- A text up to its first slash, and the steps from there on. -/
theorem walk_stepsOf_name {name : Bytes} (h : IsName name) (place : List Bytes) (path : Bytes) :
    walk place (stepsOf (name ++ path)) =
      walk (place ++ [name ++ path.takeWhile (· ≠ 0x2f)])
        (stepsOf (path.dropWhile (· ≠ 0x2f))) := by
  have hfirst : 0x2f ∉ name ++ path.takeWhile (· ≠ 0x2f) := by
    rw [List.mem_append, not_or]
    refine ⟨h.no_slash, fun hmem => ?_⟩
    have hne := List.mem_takeWhile_imp hmem
    simp at hne
  have hsteps := stepsOf_of_notMem hfirst
  rw [h.stepOf_append] at hsteps
  conv_lhs => rw [← List.takeWhile_append_dropWhile (p := (· ≠ 0x2f)) (l := path)]
  cases hrest : path.dropWhile (· ≠ 0x2f) with
  | nil =>
      rw [List.append_nil, hsteps]
      rfl
  | cons c rest =>
      have hslash : c = 0x2f := by
        have hhead := List.head?_dropWhile_not (· ≠ (0x2f : UInt8)) path
        rw [hrest] at hhead
        simpa using hhead
      rw [hslash, ← List.append_assoc, stepsOf_append, hsteps]
      rfl

/-- What a walk that climbs at all makes of the last name of a place. -/
theorem walk_concat_of_climb (place : List Bytes) (name name' : Bytes) {steps : List (Step Bytes)}
    (h : 0 < (net steps).1) : walk (place ++ [name]) steps = walk (place ++ [name']) steps := by
  have htake : ∀ n, (place ++ [n]).take ((place ++ [n]).length - (net steps).1) =
      place.take (place.length + 1 - (net steps).1) := by
    intro n
    rw [List.length_append, List.length_singleton, List.take_append_of_le_length (by omega)]
  rw [walk_eq, walk_eq, htake, htake]

namespace BasePath

theorem bytes_of_concat {base : BasePath} {names : List Bytes} {name : Bytes}
    (h : base.names = names ++ [name]) : base.bytes = joined names ++ 0x2f :: name := by
  unfold bytes
  rw [if_neg (by rw [h]; simp), h]
  simp [joined]

/-- The names of the base path but the last, and behind them a path. -/
theorem walk_joined_front {base : BasePath} {names : List Bytes} {name : Bytes}
    (h : base.names = names ++ [name]) (path : Bytes) :
    resolve (joined names ++ 0x2f :: path) = walk names (stepsOf path) := by
  have hnames : ∀ n ∈ names, IsName n := fun n hn => base.isName n (by rw [h]; simp [hn])
  unfold resolve
  rw [stepsOf_append, walk_append, walk_joined hnames, List.nil_append]

/-- What is behind the base path up to its first slash continues the last name. -/
theorem resolve_append (base : BasePath) {names : List Bytes} {name : Bytes}
    (h : base.names = names ++ [name]) (path : Bytes) :
    resolve (base.bytes ++ path) =
      walk (names ++ [name ++ path.takeWhile (· ≠ 0x2f)])
        (stepsOf (path.dropWhile (· ≠ 0x2f))) := by
  have hname : IsName name := base.isName name (by rw [h]; simp)
  rw [bytes_of_concat h, List.append_assoc, List.cons_append, walk_joined_front h,
    walk_stepsOf_name hname]

/-- A path without a first component starts with a slash, or is empty. -/
theorem takeWhile_eq_nil_iff (path : Bytes) :
    path.takeWhile (· ≠ 0x2f) = [] ↔ path.head? = some 0x2f ∨ path = [] := by
  cases path with
  | nil => simp
  | cons c path =>
      by_cases hc : c = 0x2f
      · simp [hc]
      · simp [hc]

/-- **Which paths stay inside.** -/
theorem inside_iff (base : BasePath) (path : Bytes) :
    base.Inside (base.bytes ++ path) ↔ base.Keeps path := by
  unfold Inside Keeps
  rcases List.eq_nil_or_concat base.names with hnil | ⟨names, name, hnames⟩
  · rw [hnil]
    simp
  · rw [List.concat_eq_append] at hnames
    rw [base.resolve_append hnames, hnames]
    have hne : names ++ [name] ≠ [] := by simp
    rw [or_iff_right hne, ← or_assoc, ← takeWhile_eq_nil_iff]
    change _ ↔ (_ ∨ 0 < (net (stepsOf (path.dropWhile (· ≠ 0x2f)))).1) ∧ _
    by_cases hclimb : 0 < (net (stepsOf (path.dropWhile (· ≠ 0x2f)))).1
    · rw [walk_concat_of_climb names _ name hclimb, isPrefix_walk_iff,
        and_iff_right (Or.inr hclimb)]
      rfl
    · rw [or_iff_left hclimb]
      by_cases hfirst : path.takeWhile (· ≠ 0x2f) = []
      · rw [hfirst, List.append_nil, isPrefix_walk_iff, and_iff_right rfl]
        rfl
      · -- the last name of the base path is continued, and stays so
        refine iff_of_false (fun hpre => ?_) fun h => hfirst h.1
        rw [walk_eq, Nat.eq_zero_of_not_pos hclimb, Nat.sub_zero, List.take_length,
          List.append_assoc, List.prefix_append_right_inj] at hpre
        obtain ⟨tail, htail⟩ := hpre
        injection htail with hname _
        exact hfirst (List.append_cancel_left (hname.symm.trans (List.append_nil name).symm))

theorem bytes_ne_nil (base : BasePath) : base.bytes ≠ [] := by
  rcases List.eq_nil_or_concat base.names with hnil | ⟨names, name, hnames⟩
  · simp [bytes, hnil, ascii]
  · simp [bytes, hnames, joined]

theorem nul_notMem_bytes (base : BasePath) : 0 ∉ base.bytes := by
  have hjoined : 0 ∉ joined base.names := by
    intro hmem
    obtain ⟨name, hname, hmem⟩ := List.mem_flatMap.1 hmem
    rcases List.mem_cons.1 hmem with hslash | hmem
    · cases hslash
    · exact (base.isName name hname).no_nul hmem
  unfold bytes
  split_ifs
  · decide
  · exact hjoined

/-- The system reads the base path, and the path behind it up to its first zero. -/
theorem cStr_append (base : BasePath) (path : Bytes) :
    cStr (base.bytes ++ path) = base.bytes ++ cStr path := by
  have hbase : ∀ c ∈ base.bytes, decide (c ≠ 0) = true := by
    intro c hc
    exact decide_eq_true fun h => base.nul_notMem_bytes (h ▸ hc)
  exact List.takeWhile_append_of_pos hbase

end BasePath

/-- The base path `/b`. -/
def BasePath.b : BasePath where
  names := [ascii "b"]
  isName name hname := by
    rw [List.mem_singleton] at hname
    rw [hname]
    exact ⟨by decide, by decide, by decide, by decide, by decide⟩

end Webfuse
