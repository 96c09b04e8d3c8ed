/-
# Results are those of a sequential execution

What the object of `Webfuse.World.Atomic` does over a run is one list of calls, in the
order of their invocation and each of them once, that were executed one after the other
on the filesystem of the provider (`Sequential`).  With `world_refinement` that is so for
the service and its provider, however their steps are interleaved: a thread that gets an
answer gets what the provider's filesystem returned for its own call, at its place in
that list (`world_sequential`).
-/

import Webfuse.Wire.Remote
import Webfuse.World.Linearizable

namespace Webfuse

open Basis MessageWriter

variable {σ : Type}

/-- A call that was executed, and what the provider's filesystem returned for it. -/
structure Executed (σ : Type) where
  invocation : Invocation
  result : EStateM.Result Exn σ (Int32 × invocation.call.decoded.Out)

/-- The calls of `log`, one after the other, lead from the state `s` to the other state;
in between credentials may be asked for. -/
inductive Sequential (p : Provider σ) (s : σ) : List (Executed σ) → σ → Prop
  | nil : Sequential p s [] s
  | call {log : List (Executed σ)} {s₁ : σ} (h : Sequential p s log s₁) (i : Invocation)
      {result : EStateM.Result Exn σ (Int32 × i.call.decoded.Out)}
      (hrun : i.call.decoded.exec p.fs (p.given s₁ i.call.decoded) s₁ = result) :
      Sequential p s (log ++ [⟨i, result⟩]) (finalState result)
  | credentials {log : List (Executed σ)} {s₁ : σ} (h : Sequential p s log s₁) :
      Sequential p s log (finalState (p.fs.getCredentials s₁))

/-- The method of the promise finishes with what its execution returned. -/
def Explains (p : Provider σ) (log : List (Executed σ)) (promise : Promise)
    (reader : MessageReader) : Prop :=
  ∃ x ∈ log, x.invocation.promise = promise ∧ ∃ r s, x.result = .ok r s ∧
    ∀ out, x.invocation.call.finish (some reader) out = x.invocation.call.received p r out

/-- What is seen of an invocation. -/
def Invocation.observed (i : Invocation) : Observed :=
  .invoked i.promise (i.call.request.setId i.id)

namespace Observed

def invoked? : Observed → Option Promise
  | invoked promise _ => some promise
  | _ => none

def resolved? : Observed → Option Promise
  | invoked _ _ => none
  | refused promise _ => some promise
  | returned promise _ => some promise
  | broken promise => some promise

end Observed

theorem Explains.append {p : Provider σ} {log log' : List (Executed σ)} {promise : Promise}
    {reader : MessageReader} (h : Explains p log promise reader) :
    Explains p (log ++ log') promise reader := by
  obtain ⟨x, hx, h⟩ := h
  exact ⟨x, List.mem_append_left _ hx, h⟩

/-! ### One object -/

/-- The executed calls and those to be executed were invoked, in this order, and what is
and will be returned is what was executed. -/
structure Explained (p : Provider σ) (s : σ) (seen : List Observed) (a : Atomic σ)
    (log : List (Executed σ)) : Prop where
  sequential : Sequential p s log a.state
  order : (log.map (fun x => x.invocation.observed) ++
    a.waiting.map Invocation.observed).Sublist seen
  proper : ∀ i ∈ a.waiting, i.call ≠ .getCredentials
  answers : ∀ x ∈ a.answers, Explains p log x.1 x.2
  returned : ∀ promise reader, .returned promise reader ∈ seen → Explains p log promise reader

section Step

variable {p : Provider σ} {s : σ} {seen seen' : List Observed} {a b : Atomic σ}
  {log : List (Executed σ)}

/-- More was seen, but no answer. -/
theorem Explained.see (h : Explained p s seen a log)
    (hnone : ∀ promise reader, Observed.returned promise reader ∉ seen') :
    Explained p s (seen ++ seen') a log where
  sequential := h.sequential
  order := h.order.trans (List.sublist_append_left seen seen')
  proper := h.proper
  answers := h.answers
  returned promise reader hmem := by
    rcases List.mem_append.1 hmem with hmem | hmem
    · exact h.returned promise reader hmem
    · exact absurd hmem (hnone promise reader)

/-- A call is to be executed. -/
theorem Explained.invoke (h : Explained p s seen a log) (i : Invocation)
    (hcall : i.call ≠ .getCredentials) {promises : ℕ} {unresolved : Set Promise} :
    Explained p s (seen ++ [i.observed])
      { a with promises := promises, waiting := a.waiting ++ [i], unresolved := unresolved } log :=
  { (h.see (by simp [Invocation.observed]) : Explained p s (seen ++ [i.observed]) a log) with
    order := by
      have := h.order.append (List.Sublist.refl [i.observed])
      simpa using this
    proper := by
      intro j hj
      rcases List.mem_append.1 hj with hj | hj
      · exact h.proper j hj
      · obtain rfl := List.mem_singleton.1 hj
        exact hcall }

/-- The head of the calls to be executed is executed. -/
theorem Explained.execute (h : Explained p s seen a log) {i : Invocation}
    {waiting : List Invocation} (hhead : a.waiting = i :: waiting)
    {result : EStateM.Result Exn σ (Int32 × i.call.decoded.Out)}
    (hrun : i.call.decoded.exec p.fs (p.given a.state i.call.decoded) a.state = result)
    {answers : List (Promise × MessageReader)}
    (hanswers : ∀ x ∈ answers, x ∈ a.answers ∨ Explains p [⟨i, result⟩] x.1 x.2) :
    Explained p s seen
      { a with state := finalState result, waiting := waiting, answers := answers }
      (log ++ [⟨i, result⟩]) where
  sequential := h.sequential.call i hrun
  order := by
    have horder := h.order
    rw [hhead] at horder
    simpa using horder
  proper j hj := h.proper j (by simp [hhead, hj])
  answers x hx := by
    rcases hanswers x hx with hold | ⟨y, hy, hnew⟩
    · exact (h.answers x hold).append
    · exact ⟨y, List.mem_append_right _ hy, hnew⟩
  returned promise reader hmem := (h.returned promise reader hmem).append

/-- The execution returns, and there is an answer. -/
theorem Explained.executed (h : Explained p s seen a log) {i : Invocation}
    {waiting : List Invocation} (hhead : a.waiting = i :: waiting) {reader : MessageReader} {s' : σ}
    (hrun : loopback p i.id i.call.request a.state = .ok reader s') :
    ∃ r, i.call.decoded.exec p.fs (p.given a.state i.call.decoded) a.state = .ok r s' ∧
      (∀ out, i.call.finish (some reader) out = i.call.received p r out) ∧
      Explained p s seen { a with
        state := s', waiting := waiting, answers := a.answers ++ [(i.promise, reader)] }
        (log ++ [⟨i, .ok r s'⟩]) := by
  obtain ⟨r, s'', reader', hexec, hloop, hfinish⟩ | ⟨e, s'', hexec, hloop⟩ :=
    loopback_cases p i.id (h.proper i (by simp [hhead])) a.state
  · obtain ⟨rfl, rfl⟩ : reader' = reader ∧ s'' = s' := by simpa [hloop] using hrun
    refine ⟨r, hexec, hfinish, h.execute hhead hexec fun x hx => ?_⟩
    rcases List.mem_append.1 hx with hx | hx
    · exact .inl hx
    · obtain rfl := List.mem_singleton.1 hx
      exact .inr ⟨_, List.mem_singleton.2 rfl, rfl, r, s'', rfl, hfinish⟩
  · rw [hloop] at hrun
    cases hrun

/-- The execution throws, and there is no answer. -/
theorem Explained.threw (h : Explained p s seen a log) {i : Invocation}
    {waiting : List Invocation} (hhead : a.waiting = i :: waiting) {e : Exn} {s' : σ}
    (hrun : loopback p i.id i.call.request a.state = .error e s') :
    i.call.decoded.exec p.fs (p.given a.state i.call.decoded) a.state = .error e s' ∧
      Explained p s seen { a with state := s', waiting := waiting }
        (log ++ [⟨i, .error e s'⟩]) := by
  obtain ⟨r, s'', reader', hexec, hloop, -⟩ | ⟨e', s'', hexec, hloop⟩ :=
    loopback_cases p i.id (h.proper i (by simp [hhead])) a.state
  · rw [hloop] at hrun
    cases hrun
  · obtain ⟨rfl, rfl⟩ : e' = e ∧ s'' = s' := by simpa [hloop] using hrun
    exact ⟨hexec, h.execute hhead hexec fun x hx => .inl hx⟩

/-- An answer is returned. -/
theorem Explained.answer (h : Explained p s seen a log) {promise : Promise}
    {reader : MessageReader} {answers : List (Promise × MessageReader)}
    (hhead : a.answers = (promise, reader) :: answers) {unresolved : Set Promise} :
    Explained p s (seen ++ [.returned promise reader])
      { a with answers := answers, unresolved := unresolved } log where
  sequential := h.sequential
  order := h.order.trans (List.sublist_append_left seen _)
  proper := h.proper
  answers x hx := h.answers x (hhead ▸ List.mem_cons_of_mem _ hx)
  returned promise' reader' hmem := by
    rcases List.mem_append.1 hmem with hmem | hmem
    · exact h.returned promise' reader' hmem
    · obtain ⟨rfl, rfl⟩ : promise' = promise ∧ reader' = reader := by simpa using hmem
      exact h.answers (promise', reader') (hhead ▸ List.mem_cons_self ..)

/-- Calls to be executed and answers are lost. -/
theorem Explained.lose (h : Explained p s seen a log) {waiting : List Invocation}
    {answers : List (Promise × MessageReader)} (hwaiting : waiting.Sublist a.waiting)
    (hanswers : answers.Sublist a.answers) :
    Explained p s seen { a with waiting := waiting, answers := answers } log where
  sequential := h.sequential
  order := ((List.Sublist.refl _).append (hwaiting.map _)).trans h.order
  proper i hi := h.proper i (hwaiting.subset hi)
  answers x hx := h.answers x (hanswers.subset hx)
  returned := h.returned

theorem Explained.step (h : Explained p s seen a log) (hstep : Atomic.Step p a seen' b) :
    ∃ log', Explained p s (seen ++ seen') b log' := by
  cases hstep with
  | invoke id call hcall => exact ⟨log, h.invoke ⟨a.promises, id, call⟩ hcall⟩
  | refuse e => exact ⟨log, { h.see (by simp) with }⟩
  | execute hhead hrun =>
      obtain ⟨r, -, -, h'⟩ := h.executed hhead hrun
      rw [List.append_nil]
      exact ⟨_, h'⟩
  | throw hhead hrun =>
      rw [List.append_nil]
      exact ⟨_, (h.threw hhead hrun).2⟩
  | askCredentials s' hs =>
      rw [List.append_nil]
      subst hs
      exact ⟨log, { h with sequential := h.sequential.credentials }⟩
  | answer hhead hopen => exact ⟨log, h.answer hhead⟩
  | lose hwaiting hanswers =>
      rw [List.append_nil]
      exact ⟨log, h.lose hwaiting hanswers⟩
  | abandon hnodup hopen => exact ⟨log, { h.see (by simp) with }⟩

/-- Promises are made one after the other, and resolved at most once. -/
structure Resolved (seen : List Observed) (a : Atomic σ) : Prop where
  ordered : (seen.filterMap Observed.invoked?).Pairwise (· < ·)
  invoked : ∀ q ∈ seen.filterMap Observed.invoked?, q < a.promises
  once : (seen.filterMap Observed.resolved?).Nodup
  closed : ∀ q ∈ seen.filterMap Observed.resolved?, q < a.promises ∧ q ∉ a.unresolved
  opened : ∀ q ∈ a.unresolved, q < a.promises

/-- Promises that are open, or new, are resolved. -/
theorem Resolved.resolve (h : Resolved seen a) (qs : List Promise)
    (hinvoked : seen'.filterMap Observed.invoked? = [])
    (hresolved : seen'.filterMap Observed.resolved? = qs) (hnodup : qs.Nodup)
    (hopen : ∀ q ∈ qs, q ∈ a.unresolved ∨ q = a.promises)
    (hclosed : ∀ q ∈ qs, q < b.promises ∧ q ∉ b.unresolved)
    (hsub : b.unresolved ⊆ a.unresolved) (hpromises : a.promises ≤ b.promises) :
    Resolved (seen ++ seen') b where
  ordered := by
    rw [List.filterMap_append, hinvoked, List.append_nil]
    exact h.ordered
  invoked q hq := by
    rw [List.filterMap_append, hinvoked, List.append_nil] at hq
    exact (h.invoked q hq).trans_le hpromises
  once := by
    rw [List.filterMap_append, hresolved]
    refine List.nodup_append.2 ⟨h.once, hnodup, ?_⟩
    rintro q hq q' hq' rfl
    obtain ⟨hlt, hnot⟩ := h.closed q hq
    rcases hopen q hq' with hin | rfl
    · exact hnot hin
    · exact lt_irrefl _ hlt
  closed q hq := by
    rw [List.filterMap_append, hresolved] at hq
    rcases List.mem_append.1 hq with hq | hq
    · obtain ⟨hlt, hnot⟩ := h.closed q hq
      exact ⟨hlt.trans_le hpromises, fun hin => hnot (hsub hin)⟩
    · exact hclosed q hq
  opened q hq := (h.opened q (hsub hq)).trans_le hpromises

theorem Resolved.step (h : Resolved seen a) (hstep : Atomic.Step p a seen' b) :
    Resolved (seen ++ seen') b := by
  have hnew : a.promises ∉ a.unresolved := fun hin => lt_irrefl _ (h.opened _ hin)
  cases hstep with
  | invoke id call hcall =>
      refine ⟨?_, ?_, ?_, ?_, ?_⟩
      · rw [List.filterMap_append]
        refine List.pairwise_append.2 ⟨h.ordered, List.pairwise_singleton _ _, ?_⟩
        intro q hq q' hq'
        obtain rfl := List.mem_singleton.1 hq'
        exact h.invoked q hq
      · intro q hq
        rw [List.filterMap_append] at hq
        rcases List.mem_append.1 hq with hq | hq
        · exact (h.invoked q hq).trans (Nat.lt_succ_self _)
        · obtain rfl := List.mem_singleton.1 hq
          exact Nat.lt_succ_self _
      · rw [List.filterMap_append]
        exact (List.append_nil _).symm ▸ h.once
      · intro q hq
        rw [List.filterMap_append] at hq
        obtain ⟨hlt, hnot⟩ := h.closed q (by simpa [Observed.resolved?] using hq)
        refine ⟨hlt.trans (Nat.lt_succ_self _), ?_⟩
        rintro (rfl | hin)
        · exact lt_irrefl _ hlt
        · exact hnot hin
      · rintro q (rfl | hq)
        · exact Nat.lt_succ_self _
        · exact (h.opened q hq).trans (Nat.lt_succ_self _)
  | refuse e =>
      refine h.resolve [a.promises] rfl rfl (List.nodup_singleton _) ?_ ?_
        subset_rfl (Nat.le_succ _)
      · exact fun q hq => .inr (List.mem_singleton.1 hq)
      · intro q hq
        obtain rfl := List.mem_singleton.1 hq
        exact ⟨Nat.lt_succ_self _, hnew⟩
  | answer hhead hopen =>
      rename_i promise reader answers
      refine h.resolve [promise] rfl rfl (List.nodup_singleton _) ?_ ?_
        Set.sdiff_subset le_rfl
      · intro q hq
        obtain rfl := List.mem_singleton.1 hq
        exact .inl hopen
      · intro q hq
        obtain rfl := List.mem_singleton.1 hq
        exact ⟨h.opened q hopen, fun hin => hin.2 rfl⟩
  | abandon hnodup hopen =>
      rename_i promises
      have hinvoked : (promises.map Observed.broken).filterMap Observed.invoked? = [] := by
        simp [List.filterMap_map, Function.comp_def, Observed.invoked?]
      have hresolved : (promises.map Observed.broken).filterMap Observed.resolved? = promises := by
        simp [List.filterMap_map, Function.comp_def, Observed.resolved?]
      refine h.resolve promises hinvoked hresolved hnodup (fun q hq => .inl (hopen q hq)) ?_
        Set.sdiff_subset le_rfl
      exact fun q hq => ⟨h.opened q (hopen q hq), fun hin => hin.2 hq⟩
  | execute hhead hrun =>
      rw [List.append_nil]
      exact { h with }
  | throw hhead hrun =>
      rw [List.append_nil]
      exact { h with }
  | askCredentials s' hs =>
      rw [List.append_nil]
      exact { h with }
  | lose hwaiting hanswers =>
      rw [List.append_nil]
      exact { h with }

/-- The calls were executed in the order of their invocation, each once. -/
theorem Explained.promises (h : Explained p s seen a log) (hresolved : Resolved seen a) :
    (log.map fun x => x.invocation.promise).Pairwise (· < ·) := by
  have horder := (List.sublist_append_left _ _).trans h.order
  have hpromises : (log.map fun x => x.invocation.promise) =
      (log.map fun x => x.invocation.observed).filterMap Observed.invoked? := by
    simp [List.filterMap_map, Function.comp_def, Observed.invoked?, Invocation.observed]
  rw [hpromises]
  exact hresolved.ordered.sublist (horder.filterMap _)

/-- **What is seen of the object is explained by one sequential execution.** -/
theorem atomic_sequential (h : (atomic p s).Run (atomic p s).init seen a) :
    (∃ log, Explained p s seen a log) ∧ Resolved seen a := by
  refine h.invariant (P := fun seen a => (∃ log, Explained p s seen a log) ∧ Resolved seen a)
    ⟨⟨[], ?_⟩, ?_⟩ ?_
  · exact ⟨.nil, List.Sublist.refl _, nofun, nofun, nofun⟩
  · exact ⟨List.Pairwise.nil, nofun, List.nodup_nil, nofun, nofun⟩
  · rintro seen a seen' b ⟨⟨log, hlog⟩, hresolved⟩ hstep
    exact ⟨hlog.step hstep, hresolved.step hstep⟩

end Step

/-! ### The service and its provider -/

/-- What the callers of `perform` see of a run. -/
def history (h : List (WorldEntry σ)) : List Observed := h.flatMap observed

/-- **Every answer is that of a sequential execution.**  In every run of the service and
its provider there is a list of calls, in the order of their invocation and each at most
once, that were executed one after the other on the provider's filesystem and left it in
the state it is in; a method that is answered returns what its call returned there; and no
promise is resolved twice. -/
theorem world_sequential (p : Provider σ) (s : σ) (authApp authHdr : Bytes)
    {evs : List WorldEvent} (hC : (world p s authApp authHdr).Admits WorldContract evs) :
    ∃ log, Sequential p s log ((world p s authApp authHdr).state evs).client.state ∧
      (log.map fun x => x.invocation.observed).Sublist
        (history ((world p s authApp authHdr).trace evs)) ∧
      (log.map fun x => x.invocation.promise).Pairwise (· < ·) ∧
      (∀ promise reader,
        .returned promise reader ∈ history ((world p s authApp authHdr).trace evs) →
          Explains p log promise reader) ∧
      ((history ((world p s authApp authHdr).trace evs)).filterMap Observed.resolved?).Nodup := by
  obtain ⟨a, hrun, t, -, rfl⟩ := (world_refinement p s authApp authHdr).run hC
  obtain ⟨⟨log, hlog⟩, hresolved⟩ := atomic_sequential hrun
  exact ⟨log, hlog.sequential, (List.sublist_append_left _ _).trans hlog.order,
    hlog.promises hresolved, hlog.returned, hresolved.once⟩

/-- Both answers of `overlappingRun` are those of the empty filesystem. -/
theorem world_sequential_overlapping :
    ∃ log, Sequential Provider.empty () log () ∧
      Explains Provider.empty log 0 ⟨[0, 0, 0, 1, 0x8f, 0xff, 0xff, 0xff, 0xff], 5⟩ ∧
      Explains Provider.empty log 1 ⟨[0, 0, 0, 2, 0x81, 0, 0, 0, 0], 5⟩ := by
  have hC : (world Provider.empty () [] []).Admits WorldContract overlappingRun := by
    refine ⟨trivial, fun _ => rfl, fun _ => ?_, fun _ => ?_, trivial, trivial, trivial, trivial,
      trivial, trivial, trivial, trivial, trivial, trivial, trivial, trivial⟩ <;> decide
  obtain ⟨log, hlog, -, -, hanswers, -⟩ := world_sequential Provider.empty () [] [] hC
  exact ⟨log, hlog, hanswers 0 _ (by decide), hanswers 1 _ (by decide)⟩

end Webfuse
