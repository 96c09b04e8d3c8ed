/-
# Acknowledged writes are kept

Files of a `webfuse_provider` directory that any number of threads of the service open,
read, write and release at once, over a connection that may end and begin again at any
time.  A thread writes to and releases files that were opened and not yet released
(`Callers`, `Permitted`); other calls may be made that leave files alone.

Some calls are lost, with or without their effect.  Still there is one list of executed
calls, in the order of their invocation and each at most once, that explains all answers
(`world_sequential`), and the files are what its writes make of them: what a write was
acknowledged for is in the file, nothing is written twice, nothing else is written, and a
read returns what the writes before it in the list left (`world_durable`).

A handle is used after its file is opened and before it is released, and this is so of the
list as well.  A descriptor that is open belongs to the callers, to an answer or to a
release that is on its way, or is forgotten, and no two of these have the same
(`Lent`).
-/

import Webfuse.Basis.Leases
import Webfuse.Client.Answered
import Webfuse.Provider.Files
import Webfuse.World.Credentials
import Webfuse.World.Sequential

namespace Webfuse

open Basis MessageWriter

variable {σ ι : Type}

/-! ### Callers -/

/-- The call that a request asks for. -/
def MessageWriter.asked (req : MessageWriter) : Option FsCall :=
  match (decodeRequest ⟨⟨req.data, 0⟩, ()⟩ : EStateM.Result Exn (Scan UInt8 Unit) Request) with
  | .ok r _ => r.call
  | .error .. => none

/-- It asks for the call as it is decoded. -/
theorem asked_request (call : FsCall) (id : UInt32) :
    (call.request.setId id).asked = some call.decoded := by
  have hcalls := Provider.empty.calls_request call id ()
  unfold MessageWriter.asked
  cases h : (decodeRequest ⟨⟨(call.request.setId id).data, 0⟩, ()⟩ :
      EStateM.Result Exn (Scan UInt8 Unit) Request) with
  | ok r st =>
      rw [Provider.empty.calls_of_ok h] at hcalls
      dsimp only
      cases hr : r.call with
      | none => simp [hr] at hcalls
      | some call' => simpa [hr] using hcalls
  | error e st =>
      rw [Provider.empty.calls_of_error h] at hcalls
      cases hcalls

namespace FsCall

/-- The file that is opened. -/
def opens? : FsCall → Option Bytes
  | .open path _ => some path
  | _ => none

/-- The file that is written to, and its descriptor. -/
def writes? : FsCall → Option (Bytes × Int32)
  | write path _ _ handle => some (path, fdOf handle)
  | _ => none

/-- The file that is released, and its descriptor. -/
def releases? : FsCall → Option (Bytes × Int32)
  | release path handle => some (path, fdOf handle)
  | _ => none

end FsCall

namespace Invocation

/-- What is opened, written to and released, as the call arrives. -/
def opens? (i : Invocation) : Option Bytes := i.call.decoded.opens?

def writes? (i : Invocation) : Option (Bytes × Int32) := i.call.decoded.writes?

def releases? (i : Invocation) : Option (Bytes × Int32) := i.call.decoded.releases?

end Invocation

/-- The files that are being opened, and those that are open, each with its path. -/
structure Callers where
  opening : Promise → Option Bytes
  files : List (Bytes × Int32)

namespace Callers

/-- The file that the answer to `open` is about. -/
def answered (path : Bytes) (reader : MessageReader) : Option (Bytes × Int32) :=
  let r : Int32 × UInt64 := (FsCall.open path 0).finish (some reader) (0 : UInt64)
  if r.1 = 0 then some (path, fdOf r.2) else none

theorem answered_eq (path : Bytes) {path' : Bytes} {flags result : Int32} {handle : UInt64}
    {reader : MessageReader}
    (h : (FsCall.open path' flags).finish (some reader) (0 : UInt64) = (result, handle)) :
    answered path reader = if result = 0 then some (path, fdOf handle) else none := by
  have hfinish : (FsCall.open path 0).finish (some reader) (0 : UInt64) = (result, handle) := h
  unfold answered
  rw [hfinish]

/-- The file that an answer makes open. -/
def answer? (c : Callers) (x : Promise × MessageReader) : Option (Bytes × Int32) :=
  (c.opening x.1).bind fun path => answered path x.2

/-- What the callers know after what is seen. -/
def see (c : Callers) : Observed → Callers
  | .invoked q req =>
      match req.asked with
      | some call =>
          ⟨Function.update c.opening q call.opens?, call.releases?.elim c.files c.files.erase⟩
      | none => c
  | .returned q reader =>
      ⟨Function.update c.opening q none, c.files ++ (c.answer? (q, reader)).toList⟩
  | .refused .. | .broken _ => c

theorem see_invoked (c : Callers) (i : Invocation) :
    c.see i.observed = ⟨Function.update c.opening i.promise i.opens?,
      i.releases?.elim c.files c.files.erase⟩ := by
  unfold see Invocation.observed
  dsimp only
  rw [asked_request]
  rfl

/-- At the start no file is open. -/
def after (seen : List Observed) : Callers := seen.foldl see ⟨fun _ => none, []⟩

end Callers

/-- The files are the same, and what the names and descriptors stand for. -/
def FileView.Same (f : FileView σ ι) (s s' : σ) : Prop :=
  f.named s' = f.named s ∧ f.content s' = f.content s ∧ f.opened s' = f.opened s

/-- A call that leaves the files alone. -/
def LeavesFiles (p : Provider σ) (f : FileView σ ι) (call : FsCall) : Prop :=
  ∀ s, f.Same s (finalState (call.exec p.fs (p.given s call) s))

/-- Files are opened as they are, and data has a length that can be counted.  Other calls
than those of a session leave the files alone. -/
def Sized (p : Provider σ) (f : FileView σ ι) : FsCall → Prop
  | .open _ flags => AtPositions flags
  | .read _ size _ _ => size.toNat < 2 ^ 31
  | .write _ buffer _ _ => buffer.length < 2 ^ 31
  | .release _ _ => True
  | call => LeavesFiles p f call

/-- Files are written to and released while they are open. -/
def Permitted (p : Provider σ) (f : FileView σ ι) (c : Callers) (call : FsCall) : Prop :=
  Sized p f call ∧ (∀ x, call.writes? = some x → x ∈ c.files) ∧
    ∀ x, call.releases? = some x → x ∈ c.files

/-- The calls that are made are permitted, as they arrive. -/
def FilesContract (p : Provider σ) (f : FileView σ ι) (h : List (WorldEntry σ))
    (x : WorldEntry σ) : Prop :=
  WorldContract h x ∧ match x.event with
    | .perform call => Permitted p f (.after (history h)) call.decoded
    | _ => True

/-! ### Descriptors that are lent -/

/-- The descriptors of the callers, of the answers and of the releases on their way are
different, and among those that are held.  What is on its way to be written has one that
is not released before. -/
structure Lent (c : Callers) (answers : List (Promise × MessageReader))
    (waiting : List Invocation) (promises : ℕ) (held : List (Bytes × Int32)) : Prop where
  leased : Leased Prod.snd held (c.files ++ answers.filterMap c.answer? ++
    waiting.filterMap Invocation.releases?)
  written : ∀ i ∈ waiting, ∀ x, i.writes? = some x → x ∈ held
  unreleased : waiting.Pairwise fun i j =>
    ∀ x, i.releases? = some x → j.writes? ≠ some x
  opening : ∀ i ∈ waiting, c.opening i.promise = i.opens?
  once : (answers.map Prod.fst ++ waiting.map Invocation.promise).Nodup
  made : ∀ q ∈ answers.map Prod.fst ++ waiting.map Invocation.promise, q < promises
  unused : ∀ q, promises ≤ q → c.opening q = none

namespace Lent

variable {c : Callers} {answers : List (Promise × MessageReader)} {waiting : List Invocation}
  {promises : ℕ} {held : List (Bytes × Int32)}

/-- At the start. -/
theorem nil : Lent (.after []) [] [] 0 [] where
  leased := .nil
  written := fun _ h => absurd h List.not_mem_nil
  unreleased := List.Pairwise.nil
  opening := fun _ h => absurd h List.not_mem_nil
  once := List.nodup_nil
  made := fun _ h => absurd h List.not_mem_nil
  unused := fun _ _ => rfl

/-- Calls to be executed and answers are lost. -/
theorem lose (hL : Lent c answers waiting promises held) {answers' : List (Promise × MessageReader)}
    {waiting' : List Invocation} (hanswers : answers'.Sublist answers)
    (hwaiting : waiting'.Sublist waiting) : Lent c answers' waiting' promises held where
  leased := hL.leased.sub ((((List.Sublist.refl _).append (hanswers.filterMap _)).append
    (hwaiting.filterMap _)).subperm)
  written i hi := hL.written i (hwaiting.subset hi)
  unreleased := hL.unreleased.sublist hwaiting
  opening i hi := hL.opening i (hwaiting.subset hi)
  once := hL.once.sublist ((hanswers.map _).append (hwaiting.map _))
  made q hq := hL.made q (((hanswers.map _).append (hwaiting.map _)).subset hq)
  unused := hL.unused

/-- A promise is made that is broken at once. -/
theorem refuse (hL : Lent c answers waiting promises held) :
    Lent c answers waiting (promises + 1) held :=
  { hL with
    made := fun q hq => (hL.made q hq).trans (Nat.lt_succ_self _)
    unused := fun q hq => hL.unused q ((Nat.le_succ _).trans hq) }

/-- A call is to be executed. -/
theorem invoke (hL : Lent c answers waiting promises held) {i : Invocation}
    (hpromise : i.promise = promises)
    (hwrites : ∀ x, i.writes? = some x → x ∈ c.files)
    (hreleases : ∀ x, i.releases? = some x → x ∈ c.files) :
    Lent (c.see i.observed) answers (waiting ++ [i]) (promises + 1) held := by
  subst hpromise
  have hne : ∀ q ∈ answers.map Prod.fst ++ waiting.map Invocation.promise, q ≠ i.promise :=
    fun q hq => (hL.made q hq).ne
  have hanswers : answers.filterMap (c.see i.observed).answer? = answers.filterMap c.answer? := by
    refine List.filterMap_congr fun x hx => ?_
    have hx' := hne x.1 (List.mem_append_left _ (List.mem_map_of_mem hx))
    rw [Callers.see_invoked]
    unfold Callers.answer?
    dsimp only
    rw [Function.update_of_ne hx']
  -- what is released is no longer open, and on its way
  have hperm : ((c.see i.observed).files ++ answers.filterMap (c.see i.observed).answer? ++
      (waiting ++ [i]).filterMap Invocation.releases?).Perm
        (c.files ++ answers.filterMap c.answer? ++
          waiting.filterMap Invocation.releases?) := by
    rw [hanswers, Callers.see_invoked, List.filterMap_append]
    cases hrel : i.releases? with
    | none => simp [hrel]
    | some x =>
        have herase := (List.perm_cons_erase (hreleases x hrel)).symm
        have hlast : [i].filterMap Invocation.releases? = [x] := by simp [hrel]
        rw [hlast, ← List.append_assoc]
        refine List.perm_append_comm.trans ?_
        exact (herase.append_right _).append_right _
  have hnodup := hL.leased.nodup
  refine ⟨hL.leased.sub hperm.subperm, ?_, ?_, ?_, ?_, ?_, ?_⟩
  · intro j hj x hx
    rcases List.mem_append.1 hj with hj | hj
    · exact hL.written j hj x hx
    · obtain rfl := List.mem_singleton.1 hj
      exact hL.leased.mem (List.mem_append_left _ (List.mem_append_left _ (hwrites x hx)))
  · refine List.pairwise_append.2 ⟨hL.unreleased, List.pairwise_singleton _ _, ?_⟩
    rintro j hj k hk x hrel hwrite
    obtain rfl := List.mem_singleton.1 hk
    refine List.disjoint_of_nodup_append hnodup (List.mem_append_left _ (hwrites x hwrite)) ?_
    exact List.mem_filterMap.2 ⟨j, hj, hrel⟩
  · intro j hj
    rw [Callers.see_invoked]
    dsimp only
    rcases List.mem_append.1 hj with hj | hj
    · rw [Function.update_of_ne (hne _ (List.mem_append_right _ (List.mem_map_of_mem hj)))]
      exact hL.opening j hj
    · obtain rfl := List.mem_singleton.1 hj
      exact Function.update_self ..
  · rw [List.map_append, ← List.append_assoc]
    refine List.nodup_append.2 ⟨hL.once, List.nodup_singleton _, ?_⟩
    rintro q hq q' hq' rfl
    exact hne q hq (List.mem_singleton.1 hq')
  · intro q hq
    rw [List.map_append, ← List.append_assoc] at hq
    rcases List.mem_append.1 hq with hq | hq
    · exact (hL.made q hq).trans (Nat.lt_succ_self _)
    · obtain rfl := List.mem_singleton.1 hq
      exact Nat.lt_succ_self _
  · intro q hq
    rw [Callers.see_invoked]
    dsimp only
    rw [Function.update_of_ne (Nat.ne_of_gt hq)]
    exact hL.unused q ((Nat.le_succ _).trans hq)

/-- An answer is returned. -/
theorem answer {q : Promise} {reader : MessageReader}
    (hL : Lent c ((q, reader) :: answers) waiting promises held) :
    Lent (c.see (.returned q reader)) answers waiting promises held := by
  have honce := hL.once
  rw [List.map_cons, List.cons_append] at honce
  obtain ⟨hnot, hrest⟩ := List.nodup_cons.1 honce
  have hne : ∀ q' ∈ answers.map Prod.fst ++ waiting.map Invocation.promise, q' ≠ q :=
    fun q' hq' h => hnot (h ▸ hq')
  have hanswers : answers.filterMap (c.see (.returned q reader)).answer? =
      answers.filterMap c.answer? := by
    refine List.filterMap_congr fun x hx => ?_
    have hx' := hne x.1 (List.mem_append_left _ (List.mem_map_of_mem hx))
    unfold Callers.see Callers.answer?
    dsimp only
    rw [Function.update_of_ne hx']
  refine ⟨?_, hL.written, hL.unreleased, ?_, hrest, ?_, ?_⟩
  · have hleased := hL.leased
    rw [hanswers]
    unfold Callers.see
    dsimp only
    cases hopened : c.answer? (q, reader) with
    | none =>
        rw [List.filterMap_cons_none hopened] at hleased
        rwa [Option.toList_none, List.append_nil]
    | some x =>
        rw [List.filterMap_cons_some hopened] at hleased
        rwa [Option.toList_some, List.append_assoc c.files, List.singleton_append]
  · intro i hi
    unfold Callers.see
    dsimp only
    rw [Function.update_of_ne (hne _ (List.mem_append_right _ (List.mem_map_of_mem hi)))]
    exact hL.opening i hi
  · exact fun q' hq' => hL.made q' (List.mem_cons_of_mem _ hq')
  · intro q' hq'
    have hlt := hL.made q (List.mem_cons_self ..)
    unfold Callers.see
    dsimp only
    rw [Function.update_of_ne (hlt.trans_le hq').ne']
    exact hL.unused q' hq'

/-- A call is executed, and there is an answer. -/
theorem execute {i : Invocation} (hL : Lent c answers (i :: waiting) promises held)
    {reader : MessageReader} {held' : List (Bytes × Int32)}
    (hleased : Leased Prod.snd held' (c.files ++ (answers.filterMap c.answer? ++
      (c.answer? (i.promise, reader)).toList) ++
        waiting.filterMap Invocation.releases?))
    (hwritten : ∀ j ∈ waiting, ∀ x, j.writes? = some x → x ∈ held') :
    Lent c (answers ++ [(i.promise, reader)]) waiting promises held' := by
  have hpromises : (answers ++ [(i.promise, reader)]).map Prod.fst ++
      waiting.map Invocation.promise =
        answers.map Prod.fst ++ (i :: waiting).map Invocation.promise := by
    simp
  have hanswers : (answers ++ [(i.promise, reader)]).filterMap c.answer? =
      answers.filterMap c.answer? ++ (c.answer? (i.promise, reader)).toList := by
    rw [List.filterMap_append]
    cases h : c.answer? (i.promise, reader) with
    | none => rw [List.filterMap_cons_none h]; rfl
    | some x => rw [List.filterMap_cons_some h]; rfl
  refine ⟨hanswers ▸ hleased, hwritten, (List.pairwise_cons.1 hL.unreleased).2,
    fun j hj => hL.opening j (List.mem_cons_of_mem _ hj), ?_, ?_, hL.unused⟩
  · rw [hpromises]
    exact hL.once
  · rw [hpromises]
    exact hL.made

/-- The answer to a call is about the file that the call opens. -/
theorem answer?_eq {i : Invocation} (hL : Lent c answers (i :: waiting) promises held)
    (reader : MessageReader) : c.answer? (i.promise, reader) =
      i.opens?.bind fun path => Callers.answered path reader := by
  unfold Callers.answer?
  rw [hL.opening i (List.mem_cons_self ..)]

/-- No file is opened and none is released. -/
theorem serve {i : Invocation} (hL : Lent c answers (i :: waiting) promises held)
    {reader : MessageReader} (hanswer : c.answer? (i.promise, reader) = none)
    (hreleases : i.releases? = none) :
    Lent c (answers ++ [(i.promise, reader)]) waiting promises held := by
  refine hL.execute ?_ fun j hj => hL.written j (List.mem_cons_of_mem _ hj)
  have hleased := hL.leased
  rw [List.filterMap_cons_none hreleases] at hleased
  rwa [hanswer, Option.toList_none, List.append_nil]

/-- A file is opened, with a descriptor that nothing has. -/
theorem «open» {i : Invocation} (hL : Lent c answers (i :: waiting) promises held)
    {reader : MessageReader} {x : Bytes × Int32}
    (hanswer : c.answer? (i.promise, reader) = some x)
    (hreleases : i.releases? = none) (hnew : x.2 ∉ held.map Prod.snd) :
    Lent c (answers ++ [(i.promise, reader)]) waiting promises (x :: held) := by
  refine hL.execute ?_ fun j hj y hy =>
    List.mem_cons_of_mem _ (hL.written j (List.mem_cons_of_mem _ hj) y hy)
  have hleased := hL.leased
  rw [List.filterMap_cons_none hreleases] at hleased
  rw [hanswer, Option.toList_some]
  refine (hleased.take hnew).sub (List.Perm.subperm ?_)
  rw [← List.append_assoc]
  exact (List.perm_append_singleton ..).append_right _

/-- A file is released, and its descriptor is not used again. -/
theorem release {i : Invocation} (hL : Lent c answers (i :: waiting) promises held)
    {reader : MessageReader} {x : Bytes × Int32}
    (hanswer : c.answer? (i.promise, reader) = none)
    (hreleases : i.releases? = some x) :
    Lent c (answers ++ [(i.promise, reader)]) waiting promises (held.erase x) := by
  have hunreleased := (List.pairwise_cons.1 hL.unreleased).1
  refine hL.execute ?_ fun j hj y hy => ?_
  · have hleased := hL.leased
    rw [List.filterMap_cons_some hreleases] at hleased
    rw [hanswer, Option.toList_none, List.append_nil]
    exact (hleased.sub List.perm_middle.symm.subperm).drop
  · have hne : y ≠ x := by
      rintro rfl
      exact hunreleased j hj y hreleases hy
    exact (List.mem_erase_of_ne hne).2 (hL.written j (List.mem_cons_of_mem _ hj) y hy)

end Lent

/-! ### Files -/

section Files

variable (f : FileView σ ι) (basePath : Bytes) (s : σ)

/-- A write that returned `n`, as far as it was made. -/
def FsCall.written? : FsCall → Int32 → Option (Write ι UInt8)
  | write path buffer offset _, n =>
      if 0 ≤ n then
        (f.named s (systemPath basePath path)).map fun i =>
          ⟨i, offset.toInt64.toInt.toNat, buffer.take n.toInt.toNat⟩
      else none
  | _, _ => none

/-- A read that succeeds returns a part of what is there. -/
def FsCall.Shows (content : ι → Bytes) : (call : FsCall) → Int32 × call.Out → Prop
  | read path size offset _, (result, buffer) => 0 ≤ result →
      ∃ i, f.named s (systemPath basePath path) = some i ∧
        PartOf ((content i).drop offset.toInt64.toInt.toNat) size.toNat result.toInt.toNat
          (buffer : Vector UInt8 size.toNat).toList
  | _, _ => True

/-- The write that was made by a call. -/
def Executed.write? (x : Executed σ) : Option (Write ι UInt8) :=
  match x.result with
  | .ok r _ => x.invocation.call.decoded.written? f basePath s r.1
  | .error .. => none

/-- What a call returned is there. -/
def Executed.Shows (content : ι → Bytes) (x : Executed σ) : Prop :=
  match x.result with
  | .ok r _ => x.invocation.call.decoded.Shows f basePath s content r
  | .error .. => True

/-- The writes that were made, in their order. -/
def writesOf (log : List (Executed σ)) : List (Write ι UInt8) :=
  log.filterMap (Executed.write? f basePath s)

variable [DecidableEq ι]

/-- The files after `log`, from the state `s` on: they are what its writes leave, and what
was read was there.  Descriptors that are held stand for what their paths name. -/
structure Filed (log : List (Executed σ)) (held : List (Bytes × Int32)) (s₁ : σ) : Prop where
  named : f.named s₁ = f.named s
  content : f.content s₁ = replay 0 (f.content s) (writesOf f basePath s log)
  shown : ∀ log₁ x log₂, log = log₁ ++ x :: log₂ →
    x.Shows f basePath s (replay 0 (f.content s) (writesOf f basePath s log₁))
  opened : ∀ x ∈ held, ∃ i, f.named s (systemPath basePath x.1) = some i ∧
    f.opened s₁ x.2 = some i

variable {f basePath s} {log : List (Executed σ)} {held : List (Bytes × Int32)} {s₁ : σ}

theorem Filed.nil : Filed f basePath s [] [] s where
  named := rfl
  content := rfl
  shown log₁ x log₂ h := absurd h.symm (by simp)
  opened := fun _ h => absurd h List.not_mem_nil

/-- A call is executed. -/
theorem Filed.append (hF : Filed f basePath s log held s₁) {x : Executed σ} {s₂ : σ}
    {held' : List (Bytes × Int32)} (hnamed : f.named s₂ = f.named s₁)
    (hcontent : f.content s₂ = replay 0 (f.content s₁) (x.write? f basePath s).toList)
    (hshows : x.Shows f basePath s (f.content s₁))
    (hopened : ∀ y ∈ held', ∃ i, f.named s (systemPath basePath y.1) = some i ∧
      f.opened s₂ y.2 = some i) : Filed f basePath s (log ++ [x]) held' s₂ where
  named := hnamed.trans hF.named
  content := by
    have hwritten : writesOf f basePath s (log ++ [x]) =
        writesOf f basePath s log ++ (x.write? f basePath s).toList := by
      unfold writesOf
      rw [List.filterMap_append]
      cases h : x.write? f basePath s with
      | none => rw [List.filterMap_cons_none h]; rfl
      | some w => rw [List.filterMap_cons_some h]; rfl
    rw [hwritten, replay_append, ← hF.content]
    exact hcontent
  shown log₁ y log₂ h := by
    rcases split_append_singleton h with ⟨rfl, rfl⟩ | ⟨log₂', hold⟩
    · exact hF.content ▸ hshows
    · exact hF.shown log₁ y log₂' hold
  opened := hopened

/-- The files stay as they are. -/
theorem Filed.same (hF : Filed f basePath s log held s₁) {s₂ : σ} (hsame : f.Same s₁ s₂) :
    Filed f basePath s log held s₂ where
  named := hsame.1.trans hF.named
  content := hsame.2.1.trans hF.content
  shown := hF.shown
  opened := by
    rw [hsame.2.2]
    exact hF.opened

end Files

/-! ### One call -/

section Call

variable [DecidableEq ι] {sys : Sys σ} {f : FileView σ ι} {basePath token : Bytes}
  {uninitialized : σ → Stat} {beyond : ℕ → UInt8} {s s₁ s₂ : σ} {c : Callers}
  {answers : List (Promise × MessageReader)} {waiting : List Invocation} {promises : ℕ}
  {held : List (Bytes × Int32)} {log : List (Executed σ)} {i : Invocation}
  {r : Int32 × i.call.decoded.Out} {reader : MessageReader}

/-- The files are kept, and there is an answer. -/
def KeepsFiles (f : FileView σ ι) (basePath : Bytes) (s : σ) (c : Callers)
    (answers : List (Promise × MessageReader)) (waiting : List Invocation) (promises : ℕ)
    (log : List (Executed σ)) (s₂ : σ) (reader : MessageReader) (x : Executed σ) : Prop :=
  ∃ held, Lent c (answers ++ [(x.invocation.promise, reader)]) waiting promises held ∧
    Filed f basePath s (log ++ [x]) held s₂

/-- A call that opens, writes and releases nothing. -/
theorem Filed.served (hF : Filed f basePath s log held s₁)
    (hL : Lent c answers (i :: waiting) promises held) (hopens : i.opens? = none)
    (hreleases : i.releases? = none) (hsame : f.Same s₁ s₂)
    (hwrite : i.call.decoded.written? f basePath s r.1 = none)
    (hshows : i.call.decoded.Shows f basePath s (f.content s₁) r) :
    KeepsFiles f basePath s c answers waiting promises log s₂ reader ⟨i, .ok r s₂⟩ := by
  have hanswer : c.answer? (i.promise, reader) = none := by rw [hL.answer?_eq, hopens]; rfl
  have hlog : Executed.write? f basePath s (⟨i, .ok r s₂⟩ : Executed σ) = none := hwrite
  refine ⟨held, hL.serve hanswer hreleases, hF.append hsame.1 ?_ hshows (hF.same hsame).opened⟩
  rw [hlog]
  exact hsame.2.1

/-- `open`. -/
theorem Filed.opens (hF : Filed f basePath s log held s₁)
    (hL : Lent c answers (i :: waiting) promises held) {path : Bytes}
    (hopens : i.opens? = some path) (hreleases : i.releases? = none)
    (hwrite : i.call.decoded.written? f basePath s r.1 = none)
    (hshows : i.call.decoded.Shows f basePath s (f.content s₁) r) {handle : UInt64}
    (hopen : f.Opens (systemPath basePath path) (r.1, handle) s₁ s₂)
    (hanswered : Callers.answered path reader =
      if r.1 = 0 then some (path, fdOf handle) else none) :
    KeepsFiles f basePath s c answers waiting promises log s₂ reader ⟨i, .ok r s₂⟩ := by
  have hanswer : c.answer? (i.promise, reader) =
      if r.1 = 0 then some (path, fdOf handle) else none := by
    rw [hL.answer?_eq, hopens]
    exact hanswered
  have hlog : Executed.write? f basePath s (⟨i, .ok r s₂⟩ : Executed σ) = none := hwrite
  obtain ⟨hnamed, hcontent, ⟨hzero, hfresh, hsome, hopened⟩ | ⟨hneg, hopened⟩⟩ := hopen
  · rw [if_pos hzero] at hanswer
    have hne : ∀ y ∈ held, y.2 ≠ fdOf handle := by
      intro y hy heq
      obtain ⟨j, -, hj⟩ := hF.opened y hy
      rw [heq, hfresh] at hj
      cases hj
    refine ⟨_, hL.open hanswer hreleases ?_, hF.append hnamed (hlog ▸ hcontent) hshows ?_⟩
    · intro hmem
      obtain ⟨y, hy, heq⟩ := List.mem_map.1 hmem
      exact hne y hy heq
    · intro y hy
      rw [hopened]
      rcases List.mem_cons.1 hy with rfl | hy
      · obtain ⟨j, hj⟩ := Option.isSome_iff_exists.1 hsome
        exact ⟨j, hF.named ▸ hj, (Function.update_self ..).trans hj⟩
      · rw [Function.update_of_ne (hne y hy)]
        exact hF.opened y hy
  · rw [if_neg (Int32.ne_of_lt hneg)] at hanswer
    exact ⟨held, hL.serve hanswer hreleases, hF.append hnamed (hlog ▸ hcontent) hshows
      (hF.same ⟨hnamed, hcontent, hopened⟩).opened⟩

/-- `release`. -/
theorem Filed.releases (hF : Filed f basePath s log held s₁)
    (hL : Lent c answers (i :: waiting) promises held) (hopens : i.opens? = none)
    {x : Bytes × Int32} (hreleases : i.releases? = some x)
    (hwrite : i.call.decoded.written? f basePath s r.1 = none)
    (hshows : i.call.decoded.Shows f basePath s (f.content s₁) r)
    (hnamed : f.named s₂ = f.named s₁) (hcontent : f.content s₂ = f.content s₁)
    (hopened : f.opened s₂ = Function.update (f.opened s₁) x.2 none) :
    KeepsFiles f basePath s c answers waiting promises log s₂ reader ⟨i, .ok r s₂⟩ := by
  have hanswer : c.answer? (i.promise, reader) = none := by rw [hL.answer?_eq, hopens]; rfl
  have hlog : Executed.write? f basePath s (⟨i, .ok r s₂⟩ : Executed σ) = none := hwrite
  have hx : x ∈ held := by
    refine hL.leased.mem (List.mem_append_right _ ?_)
    rw [List.filterMap_cons_some hreleases]
    exact List.mem_cons_self ..
  refine ⟨_, hL.release hanswer hreleases, hF.append hnamed (hlog ▸ hcontent) hshows ?_⟩
  intro y hy
  have hmem := List.mem_of_mem_erase hy
  have hne : y.2 ≠ x.2 := by
    intro heq
    obtain rfl := hL.leased.eq_of_key hmem hx heq
    exact (hL.leased.distinct.of_map Prod.snd).not_mem_erase hy
  rw [hopened, Function.update_of_ne hne]
  exact hF.opened y hmem

/-- `write`. -/
theorem Filed.writes (hF : Filed f basePath s log held s₁)
    (hL : Lent c answers (i :: waiting) promises held) (hopens : i.opens? = none)
    (hreleases : i.releases? = none)
    (hshows : i.call.decoded.Shows f basePath s (f.content s₁) r)
    (hnamed : f.named s₂ = f.named s₁) (hopened : f.opened s₂ = f.opened s₁)
    (hcontent : f.content s₂ = replay 0 (f.content s₁)
      (i.call.decoded.written? f basePath s r.1).toList) :
    KeepsFiles f basePath s c answers waiting promises log s₂ reader ⟨i, .ok r s₂⟩ := by
  have hanswer : c.answer? (i.promise, reader) = none := by rw [hL.answer?_eq, hopens]; rfl
  refine ⟨held, hL.serve hanswer hreleases, hF.append hnamed hcontent hshows ?_⟩
  rw [hopened]
  exact hF.opened

/-- **One call.**  Whatever it is, the files are kept. -/
theorem Filed.execute (hsys : sys.StoresFiles f) (hF : Filed f basePath s log held s₁)
    (hL : Lent c answers (i :: waiting) promises held)
    (hsized : Sized (ProviderMain.provider sys basePath token uninitialized beyond) f
      i.call.decoded)
    (hexec : i.call.decoded.exec
      (ProviderMain.provider sys basePath token uninitialized beyond).fs
      ((ProviderMain.provider sys basePath token uninitialized beyond).given s₁ i.call.decoded) s₁ =
        .ok r s₂)
    (hfinish : ∀ out, i.call.finish (some reader) out = i.call.received
      (ProviderMain.provider sys basePath token uninitialized beyond) r out) :
    KeepsFiles f basePath s c answers waiting promises log s₂ reader ⟨i, .ok r s₂⟩ := by
  obtain ⟨q, id, call⟩ := i
  have hquiet (hopens : call.decoded.opens? = none) (hreleases : call.decoded.releases? = none)
      (hsame : LeavesFiles (ProviderMain.provider sys basePath token uninitialized beyond) f
        call.decoded)
      (hwrite : call.decoded.written? f basePath s r.1 = none)
      (hshows : call.decoded.Shows f basePath s (f.content s₁) r) :
      KeepsFiles f basePath s c answers waiting promises log s₂ reader
        ⟨⟨q, id, call⟩, .ok r s₂⟩ := by
    have hs := hsame s₁
    rw [hexec] at hs
    exact hF.served hL hopens hreleases hs hwrite hshows
  cases call with
  | «open» path flags =>
      obtain ⟨r', s', hopen, hopened⟩ := hsys.opens basePath (clip path) hsized (-1) s₁
      have hsame := hexec.symm.trans hopen
      injection hsame with hr hs
      subst r s'
      refine hF.opens hL rfl rfl rfl trivial hopened ?_
      have hreceived : (FsCall.open path flags).finish (some reader) (0 : UInt64) =
          (r'.1, (if 0 = r'.1 then low32 r'.2 else 0 : UInt64)) := hfinish (0 : UInt64)
      refine (Callers.answered_eq (clip path) hreceived).trans ?_
      by_cases hzero : r'.1 = 0
      · rw [if_pos hzero, if_pos hzero, if_pos hzero.symm, fdOf_low32]
      · rw [if_neg hzero, if_neg hzero]
  | release path handle =>
      obtain ⟨n, s', hrelease, hnamed, hcontent, hopened⟩ :=
        hsys.releases (clip path) (low32_ne_invalidHandle handle) s₁
      have hsame := hexec.symm.trans (bind_pure_of_ok hrelease fun n => (n, ()))
      injection hsame with hr hs
      subst hs
      exact hF.releases hL rfl rfl rfl trivial hnamed hcontent hopened
  | write path buffer offset handle =>
      obtain ⟨j, hj, hheld⟩ := hF.opened _ (hL.written _ (List.mem_cons_self ..) _ rfl)
      obtain ⟨n, s', hwrite, hnamed, hopened, hcontent⟩ := hsys.writes basePath (clip path) hsized
        (low32 offset) (low32_ne_invalidHandle handle) hheld
      have hsame := hexec.symm.trans (bind_pure_of_ok hwrite fun n => (n, ()))
      injection hsame with hr hs
      subst hr hs
      refine hF.writes hL rfl rfl trivial hnamed hopened (hcontent.trans (congrArg _ ?_))
      change _ = Option.toList (if 0 ≤ n then (f.named s (systemPath basePath (clip path))).map _
        else none)
      by_cases hpos : 0 ≤ n
      · rw [if_pos hpos, if_pos hpos, hj]
        rfl
      · rw [if_neg hpos, if_neg hpos]
        rfl
  | read path size offset handle =>
      obtain ⟨r', s', hread, hnamed, hcontent, hopened, hshows⟩ := hsys.reads basePath (clip path)
        hsized (Vector.replicate (low32 size).toNat 0) (low32 offset)
        (low32_ne_invalidHandle handle) s₁
      have hsame := hexec.symm.trans hread
      injection hsame with hr hs
      subst hr hs
      refine hF.served hL rfl rfl ⟨hnamed, hcontent, hopened⟩ rfl fun hpos => ?_
      rw [← hF.named]
      exact hshows hpos
  | _ => exact hquiet rfl rfl hsized rfl trivial

/-- The calls of a session return; a call that throws leaves the files alone. -/
theorem Sized.same_of_error (hsys : sys.StoresFiles f) {call : FsCall}
    (hsized : Sized (ProviderMain.provider sys basePath token uninitialized beyond) f call.decoded)
    (hheld : ∀ x, call.decoded.writes? = some x → ∃ j, f.opened s₁ x.2 = some j) {e : Exn}
    (hexec : call.decoded.exec
      (ProviderMain.provider sys basePath token uninitialized beyond).fs
      ((ProviderMain.provider sys basePath token uninitialized beyond).given s₁ call.decoded) s₁ =
        .error e s₂) : f.Same s₁ s₂ := by
  have hquiet (hsame : LeavesFiles
      (ProviderMain.provider sys basePath token uninitialized beyond) f call.decoded) :
      f.Same s₁ s₂ := by
    have hs := hsame s₁
    rwa [hexec] at hs
  cases call with
  | «open» path flags =>
      obtain ⟨r', s', hopen, -⟩ := hsys.opens basePath (clip path) hsized (-1) s₁
      cases hexec.symm.trans hopen
  | release path handle =>
      obtain ⟨n, s', hrelease, -⟩ := hsys.releases (clip path) (low32_ne_invalidHandle handle) s₁
      cases hexec.symm.trans (bind_pure_of_ok hrelease fun n => (n, ()))
  | write path buffer offset handle =>
      obtain ⟨j, hj⟩ := hheld _ rfl
      obtain ⟨n, s', hwrite, -⟩ := hsys.writes basePath (clip path) hsized (low32 offset)
        (low32_ne_invalidHandle handle) hj
      cases hexec.symm.trans (bind_pure_of_ok hwrite fun n => (n, ()))
  | read path size offset handle =>
      obtain ⟨r', s', hread, -⟩ := hsys.reads basePath (clip path) hsized
        (Vector.replicate (low32 size).toNat 0) (low32 offset) (low32_ne_invalidHandle handle) s₁
      cases hexec.symm.trans hread
  | _ => exact hquiet hsized

end Call

/-! ### Runs -/

section Run

variable {sys : Sys σ} {f : FileView σ ι} {basePath token : Bytes}
  {uninitialized : σ → Stat} {beyond : ℕ → UInt8} {s : σ} {seen seen' : List Observed}
  {a b : Atomic σ} {log : List (Executed σ)} {held : List (Bytes × Int32)}

/-- The calls that are invoked are permitted. -/
def AllPermitted (p : Provider σ) (f : FileView σ ι) (seen : List Observed) : Prop :=
  ∀ seen₁ q req seen₂, seen = seen₁ ++ .invoked q req :: seen₂ →
    ∃ call, req.asked = some call ∧ Permitted p f (.after seen₁) call

theorem AllPermitted.of_append {p : Provider σ} (h : AllPermitted p f (seen ++ seen')) :
    AllPermitted p f seen := by
  intro seen₁ q req seen₂ heq
  refine h seen₁ q req (seen₂ ++ seen') ?_
  rw [heq, List.append_assoc, List.cons_append]

theorem Callers.after_append (seen seen' : List Observed) :
    after (seen ++ seen') = seen'.foldl see (after seen) := List.foldl_append ..

/-- Promises are broken, which tells the callers nothing of files. -/
theorem Callers.after_broken (seen : List Observed) (qs : List Promise) :
    after (seen ++ qs.map .broken) = after seen := by
  rw [after_append]
  induction qs with
  | nil => rfl
  | cons q qs ih => exact ih

/-- Credentials are asked for, which leaves the files alone. -/
theorem same_of_getCredentials (hpass : ∀ s, f.Same s (sys.getpass s).2) (s : σ) :
    f.Same s (finalState ((ProviderMain.provider sys basePath token uninitialized
      beyond).fs.getCredentials s)) := by
  change f.Same s (finalState (ProviderMain.getCredentials sys token s))
  unfold ProviderMain.getCredentials
  split_ifs with htoken
  · exact ⟨rfl, rfl, rfl⟩
  · have hask : sysCall sys.getpass s = .ok (sys.getpass s).1 (sys.getpass s).2 := rfl
    rw [bind_of_ok hask]
    cases (sys.getpass s).1 with
    | none => exact hpass s
    | some password => exact hpass s

variable [DecidableEq ι]

/-- What was executed explains what was seen, descriptors are lent and the files kept. -/
structure FilesInvariant (p : Provider σ) (f : FileView σ ι) (basePath : Bytes) (s : σ)
    (seen : List Observed) (a : Atomic σ) (log : List (Executed σ))
    (held : List (Bytes × Int32)) : Prop where
  explained : Explained p s seen a log
  lent : Lent (.after seen) a.answers a.waiting a.promises held
  filed : Filed f basePath s log held a.state
  sized : ∀ i ∈ a.waiting, Sized p f i.call.decoded

/-- **One step of the object.** -/
theorem FilesInvariant.step (hsys : sys.StoresFiles f) (hpass : ∀ s, f.Same s (sys.getpass s).2)
    (hK : FilesInvariant (ProviderMain.provider sys basePath token uninitialized beyond) f
      basePath s seen a log held)
    (hstep : Atomic.Step (ProviderMain.provider sys basePath token uninitialized beyond) a seen' b)
    (hpermitted : AllPermitted (ProviderMain.provider sys basePath token uninitialized beyond) f
      (seen ++ seen')) :
    ∃ log' held', FilesInvariant (ProviderMain.provider sys basePath token uninitialized beyond) f
      basePath s (seen ++ seen') b log' held' := by
  cases hstep with
  | invoke id call hcall =>
      obtain ⟨call', hasked, hsized, hwrites, hreleases⟩ := hpermitted seen _ _ [] rfl
      obtain rfl : call.decoded = call' := by
        rw [asked_request] at hasked
        exact Option.some.inj hasked
      refine ⟨log, held, hK.explained.invoke ⟨a.promises, id, call⟩ hcall, ?_, hK.filed, ?_⟩
      · rw [Callers.after_append]
        exact hK.lent.invoke (i := ⟨a.promises, id, call⟩) rfl hwrites hreleases
      · intro i hi
        rcases List.mem_append.1 hi with hi | hi
        · exact hK.sized i hi
        · obtain rfl := List.mem_singleton.1 hi
          exact hsized
  | refuse e =>
      refine ⟨log, held, { hK.explained.see (by simp) with }, ?_, hK.filed, hK.sized⟩
      rw [Callers.after_append]
      exact hK.lent.refuse
  | execute hhead hrun =>
      rw [List.append_nil]
      obtain ⟨r, hexec, hfinish, hE⟩ := hK.explained.executed hhead hrun
      have hL := hK.lent
      rw [hhead] at hL
      obtain ⟨held', hL', hF'⟩ := hK.filed.execute hsys hL
        (hK.sized _ (hhead ▸ List.mem_cons_self ..)) hexec hfinish
      exact ⟨_, held', hE, hL', hF', fun i hi => hK.sized i (hhead ▸ List.mem_cons_of_mem _ hi)⟩
  | throw hhead hrun =>
      rename_i i waiting e s'
      rw [List.append_nil]
      obtain ⟨hexec, hE⟩ := hK.explained.threw hhead hrun
      have hL := hK.lent
      rw [hhead] at hL
      have hsame := (hK.sized _ (hhead ▸ List.mem_cons_self ..)).same_of_error hsys
        (fun x hx => (hK.filed.opened x (hL.written _ (List.mem_cons_self ..) x hx)).imp
          fun _ h => h.2) hexec
      have hF := hK.filed.same hsame
      refine ⟨_, held, hE, hL.lose (List.Sublist.refl _) (List.sublist_cons_self ..), ?_,
        fun i hi => hK.sized i (hhead ▸ List.mem_cons_of_mem _ hi)⟩
      exact hK.filed.append hsame.1 hsame.2.1 trivial hF.opened
  | askCredentials s' hs =>
      rw [List.append_nil]
      subst hs
      exact ⟨log, held, { hK.explained with sequential := hK.explained.sequential.credentials },
        hK.lent, hK.filed.same (same_of_getCredentials hpass a.state), hK.sized⟩
  | answer hhead hopen =>
      have hL := hK.lent
      rw [hhead] at hL
      refine ⟨log, held, hK.explained.answer hhead, ?_, hK.filed, hK.sized⟩
      rw [Callers.after_append]
      exact hL.answer
  | lose hwaiting hanswers =>
      rw [List.append_nil]
      exact ⟨log, held, hK.explained.lose hwaiting hanswers, hK.lent.lose hanswers hwaiting,
        hK.filed, fun i hi => hK.sized i (hwaiting.subset hi)⟩
  | abandon hnodup hopen =>
      refine ⟨log, held, { hK.explained.see (by simp) with }, ?_, hK.filed, hK.sized⟩
      rw [Callers.after_broken]
      exact hK.lent

/-- What the object does keeps the files. -/
theorem atomic_kept (basePath : Bytes) (hsys : sys.StoresFiles f)
    (hpass : ∀ s, f.Same s (sys.getpass s).2)
    (h : (atomic (ProviderMain.provider sys basePath token uninitialized beyond) s).Run
      (atomic (ProviderMain.provider sys basePath token uninitialized beyond) s).init seen a)
    (hpermitted : AllPermitted (ProviderMain.provider sys basePath token uninitialized beyond) f
      seen) :
    ∃ log held, FilesInvariant (ProviderMain.provider sys basePath token uninitialized beyond) f
      basePath s seen a log held := by
  refine h.invariant (P := fun seen a =>
    AllPermitted (ProviderMain.provider sys basePath token uninitialized beyond) f seen →
      ∃ log held, FilesInvariant (ProviderMain.provider sys basePath token uninitialized beyond) f
        basePath s seen a log held) ?_ ?_ hpermitted
  · exact fun _ => ⟨[], [], ⟨.nil, List.Sublist.refl _, fun _ h => absurd h List.not_mem_nil,
      fun _ h => absurd h List.not_mem_nil, fun _ _ h => absurd h List.not_mem_nil⟩, .nil, .nil,
      fun _ h => absurd h List.not_mem_nil⟩
  · intro seen a seen' b ih hstep hpermitted
    obtain ⟨log, held, hK⟩ := ih hpermitted.of_append
    exact hK.step hsys hpass hstep hpermitted

end Run

/-! ### The service and its provider -/

/-- What is seen of a step is seen of the service. -/
theorem observed_eq (x : WorldEntry σ) :
    observed x = (x.effects.filterMap WorldEffect.server?).filterMap ServerEffect.observed? := by
  unfold observed
  rw [List.filterMap_filterMap]
  refine List.filterMap_congr fun o _ => ?_
  cases o <;> rfl

/-- A call that is seen to be invoked is the first that is seen, and the one performed. -/
theorem ServerHandler.Outcome.invoked {s s' : ServerHandler} {req : MessageWriter}
    {effects : List ServerEffect} (ho : s.Outcome (.perform req) s' effects)
    {ls₁ ls₂ : List Observed} {q : Promise} {writer : MessageWriter}
    (h : effects.filterMap ServerEffect.observed? = ls₁ ++ .invoked q writer :: ls₂) :
    ls₁ = [] ∧ writer = req.setId s.nextId.id := by
  have hfirst {l : List Observed}
      (hl : effects.filterMap ServerEffect.observed? =
        .invoked s.promises (req.setId s.nextId.id) :: l)
      (hrest : ∀ q writer, .invoked q writer ∉ l) : ls₁ = [] ∧ writer = req.setId s.nextId.id := by
    rw [hl] at h
    cases ls₁ with
    | nil =>
        injection h with hhead _
        injection hhead with _ hwriter
        exact ⟨rfl, hwriter.symm⟩
    | cons o ls₁ =>
        injection h with _ htail
        exact absurd (htail ▸ List.mem_append_right _ (List.mem_cons_self ..)) (hrest q writer)
  cases ho with
  | performRefused hflag =>
      have hmem : Observed.invoked q writer ∈ [Observed.refused s.promises ⟨"unauthenticated"⟩] :=
        (show [Observed.refused s.promises ⟨"unauthenticated"⟩] = _ from h) ▸
          List.mem_append_right _ (List.mem_cons_self ..)
      simp at hmem
  | performCollision hflag hid => exact hfirst rfl (by simp [ServerEffect.observed?])
  | performRegister hflag hid => exact hfirst rfl (by simp [ServerEffect.observed?])

/-- A call that is seen to be invoked is the call of the step. -/
theorem observed_invoked (w : World σ) (handler : Bytes → EStateM Exn σ MessageWriter)
    (e : WorldEvent) {ls₁ ls₂ : List Observed} {q : Promise} {req : MessageWriter}
    (h : observed ⟨w, e, (w.step handler e).2⟩ = ls₁ ++ .invoked q req :: ls₂) :
    ls₁ = [] ∧ ∃ call, e = .perform call ∧ req.asked = some call.decoded := by
  rw [observed_eq] at h
  have hpart := w.step_server handler e
  unfold ServerPart at hpart
  cases hev : w.serverEvent? e with
  | none =>
      rw [hev] at hpart
      rw [show (w.step handler e).2.filterMap WorldEffect.server? = [] from congrArg Prod.snd hpart]
        at h
      exact absurd h.symm (by simp)
  | some ev =>
      rw [hev] at hpart
      have heffects : (w.step handler e).2.filterMap WorldEffect.server? = (w.server.step ev).2 :=
        congrArg Prod.snd hpart
      rw [heffects] at h
      have hmem : Observed.invoked q req ∈
          (w.server.step ev).2.filterMap ServerEffect.observed? :=
        h ▸ List.mem_append_right _ (List.mem_cons_self ..)
      obtain ⟨o, ho, hseen⟩ := List.mem_filterMap.1 hmem
      obtain ⟨writer, rfl⟩ : ∃ writer, ev = .perform writer := by
        cases o with
        | queued promise writer =>
            cases promise with
            | none => cases hseen
            | some q' => exact ((w.server.step_outcome ev).of_queued ho).2
        | _ => cases hseen
      obtain ⟨hnil, hreq⟩ := (w.server.step_outcome (.perform writer)).invoked h
      refine ⟨hnil, ?_⟩
      cases e with
      | perform call =>
          simp only [World.serverEvent?] at hev
          split_ifs at hev
          obtain rfl : call.request = writer := by simpa using hev
          exact ⟨call, rfl, hreq ▸ asked_request call _⟩
      | connect wsi wsi' =>
          simp only [World.serverEvent?] at hev
          split_ifs at hev
          cases hev
      | writable =>
          simp only [World.serverEvent?] at hev
          split_ifs at hev
          cases hev
      | deliverResponse size isFinal verdict =>
          simp only [World.serverEvent?] at hev
          obtain ⟨v, -, hv⟩ := Option.bind_eq_some_iff.1 hev
          split_ifs at hv
          cases hv
      | serverClosed =>
          obtain ⟨v, -, hv⟩ := Option.map_eq_some_iff.1 hev
          cases hv
      | _ => cases hev

/-- In a run that is allowed every call is permitted. -/
theorem allPermitted_history {p : Provider σ} {f : FileView σ ι} {s : σ} {authApp authHdr : Bytes}
    {evs : List WorldEvent} (hC : (world p s authApp authHdr).Admits (FilesContract p f) evs) :
    AllPermitted p f (history ((world p s authApp authHdr).trace evs)) := by
  refine Machine.invariant (M := world p s authApp authHdr)
    (P := fun h _ => AllPermitted p f (history h)) ?_ ?_ evs hC
  · intro seen₁ q req seen₂ h
    exact absurd h.symm (by simp [history])
  · intro h w e ih hallowed seen₁ q req seen₂ hsplit
    have hhistory : history (h ++ [(world p s authApp authHdr).entry w e]) =
        history h ++ observed ((world p s authApp authHdr).entry w e) := by
      simp [history]
    rw [hhistory] at hsplit
    rcases List.append_eq_append_iff.1 hsplit with ⟨ls, rfl, hnew⟩ | ⟨ls, hold, hnew⟩
    · obtain ⟨rfl, call, rfl, hasked⟩ := observed_invoked w p.handler e hnew
      rw [List.append_nil]
      exact ⟨call.decoded, hasked, hallowed.2⟩
    · cases ls with
      | nil =>
          obtain ⟨-, call, rfl, hasked⟩ := observed_invoked w p.handler e
            (show observed _ = [] ++ _ from hnew.symm)
          rw [List.append_nil] at hold
          exact ⟨call.decoded, hasked, hold ▸ hallowed.2⟩
      | cons o ls =>
          obtain ⟨rfl, -⟩ := List.cons.inj hnew
          exact ih seen₁ q req ls hold

/-- **Acknowledged writes are kept.**  In every run of the service and a provider with the
files of `sys`, whatever is called when and whatever the network does, there is a list of
calls, in the order of their invocation and each at most once, that were executed one after
the other and explain every answer.  The files are what its writes make of them, one after
the other, each as far as it was made; and a read in it that succeeds returns a part of
what is at its position after the writes before it in the list. -/
theorem world_durable [DecidableEq ι] {sys : Sys σ} {f : FileView σ ι} (hsys : sys.StoresFiles f)
    (hpass : ∀ s, f.Same s (sys.getpass s).2) (basePath token : Bytes) (uninitialized : σ → Stat)
    (beyond : ℕ → UInt8) (s : σ) (authApp authHdr : Bytes) {evs : List WorldEvent}
    (hC : (world (ProviderMain.provider sys basePath token uninitialized beyond) s authApp
      authHdr).Admits
        (FilesContract (ProviderMain.provider sys basePath token uninitialized beyond) f) evs) :
    let p := ProviderMain.provider sys basePath token uninitialized beyond
    let M := world p s authApp authHdr
    ∃ log, Sequential p s log (M.state evs).client.state ∧
      (log.map fun x => x.invocation.observed).Sublist (history (M.trace evs)) ∧
      (log.map fun x => x.invocation.promise).Pairwise (· < ·) ∧
      (∀ promise reader, .returned promise reader ∈ history (M.trace evs) →
        Explains p log promise reader) ∧
      f.content (M.state evs).client.state =
        replay 0 (f.content s) (writesOf f basePath s log) ∧
      ∀ log₁ x log₂, log = log₁ ++ x :: log₂ →
        x.Shows f basePath s (replay 0 (f.content s) (writesOf f basePath s log₁)) := by
  intro p M
  obtain ⟨a, hrun, t, -, rfl⟩ :=
    (world_refinement p s authApp authHdr).run (hC.mono fun _ _ h => h.1)
  obtain ⟨log, held, hlog⟩ := atomic_kept basePath hsys hpass hrun
    (allPermitted_history hC)
  exact ⟨log, hlog.explained.sequential,
    (List.sublist_append_left _ _).trans hlog.explained.order,
    hlog.explained.promises (atomic_sequential hrun).2, hlog.explained.returned,
    hlog.filed.content, hlog.filed.shown⟩

/-- The files of `Sys.memory` below `"/b"`. -/
def memoryProvider : Provider Memory :=
  ProviderMain.provider Sys.memory [0x2f, 0x62] [] (fun _ => default) fun _ => 0

/-- The service and this provider. -/
def memoryWorld : Machine (World Memory) WorldEvent WorldEffect :=
  world memoryProvider ⟨[0x78], []⟩ [] []

/-- A file is opened; two threads write and read it at once, and the answer to the second
is lost with the connection. -/
def durableRun : List WorldEvent :=
  [.filterConnection 1 .empty true, .connect 1 7, .perform (.open [0x2f, 0x61] 2), .poll,
    .writable, .deliverRequest 0 true, .writeable, .deliverResponse 0 true false,
    .perform (.write [0x2f, 0x61] [0x68, 0x69] 1 3), .perform (.read [0x2f, 0x61] 4 0 3), .poll,
    .writable, .writable, .deliverRequest 0 true, .deliverRequest 0 true, .writeable,
    .deliverResponse 0 true false, .clientClosed, .serverClosed]

theorem world_durable_lost :
    ∃ log, Explains memoryProvider log 1 ⟨[0, 0, 0, 2, 0x91, 0, 0, 0, 2], 5⟩ ∧
      (fun _ => [0x78, 0x68, 0x69]) = replay 0 (fun _ : Unit => [0x78])
        (writesOf Memory.view [0x2f, 0x62] ⟨[0x78], []⟩ log) := by
  have hnone {α : Type} {c : Option α} (hc : c = none) {files : List α} :
      ∀ x, c = some x → x ∈ files := by
    intro x hx
    rw [hc] at hx
    cases hx
  have hC : memoryWorld.Admits (FilesContract memoryProvider Memory.view) durableRun := by
    refine ⟨⟨trivial, trivial⟩, ⟨fun _ => rfl, trivial⟩,
      ⟨fun _ => ?_, ?_, hnone rfl, hnone rfl⟩, ⟨trivial, trivial⟩, ⟨trivial, trivial⟩,
      ⟨trivial, trivial⟩, ⟨trivial, trivial⟩, ⟨trivial, trivial⟩,
      ⟨fun _ => ?_, ?_, ?_, hnone rfl⟩, ⟨fun _ => ?_, ?_, hnone rfl, hnone rfl⟩, ⟨trivial, trivial⟩,
      ⟨trivial, trivial⟩, ⟨trivial, trivial⟩, ⟨trivial, trivial⟩, ⟨trivial, trivial⟩,
      ⟨trivial, trivial⟩, ⟨trivial, trivial⟩, ⟨trivial, trivial⟩, ⟨trivial, trivial⟩, trivial⟩
    · decide
    · show AtPositions 2
      decide
    · decide
    · show 2 < 2 ^ 31
      decide
    · intro x hx
      obtain rfl : ([0x2f, 0x61], 3) = x := Option.some.inj hx
      exact List.mem_of_elem_eq_true rfl
    · decide
    · show 4 < 2 ^ 31
      decide
  obtain ⟨log, -, -, -, hanswers, hcontent, -⟩ := world_durable Sys.memory_storesFiles
    (fun _ => ⟨rfl, rfl, rfl⟩) [0x2f, 0x62] [] (fun _ => default) (fun _ => 0) ⟨[0x78], []⟩ [] [] hC
  refine ⟨log, hanswers 1 _ ?_, hcontent⟩
  have hseen : Observed.returned 1 ⟨[0, 0, 0, 2, 0x91, 0, 0, 0, 2], 5⟩ ∈
      history (memoryWorld.trace durableRun) := by decide
  exact hseen

end Webfuse
