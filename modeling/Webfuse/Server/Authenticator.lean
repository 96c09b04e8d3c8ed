/-
# `authenticator::authenticate`

`src/webfuse/util/authenticator.cpp`: the authenticator is a program.  It is started
with the token on its standard input, and the token is accepted when its exit status
is zero.

What the system calls return is given (`ProcessOutcome`), and the wait status is a
word as Linux packs it: the signal that ended the process in the low seven bits, the
exit code in bits 8 to 15.  `authenticate` takes the exit code without asking whether
the process exited (`WEXITSTATUS` without `WIFEXITED`), and the exit code of a process
that was killed is zero.
-/

import Webfuse.Server.Handler

namespace Webfuse

open Basis

/-- What the system calls of `authenticate` return: `pipe`, `fork` in the process that
called it, and `waitpid` with the status it stores. -/
structure ProcessOutcome where
  pipe : Int32
  fork : Int32
  waitpid : Int32
  status : UInt32

def EXIT_SUCCESS : UInt32 := 0
def EXIT_FAILURE : UInt32 := 1

/-- `WEXITSTATUS`. -/
def wexitstatus (status : UInt32) : UInt32 := (status &&& 0xff00) >>> 8

/-- `WTERMSIG`. -/
def wtermsig (status : UInt32) : UInt32 := status &&& 0x7f

/-- What is done with the token and the program. -/
inductive AuthenticatorEffect
  /-- The token is written to the pipe. -/
  | write (token : Bytes)
  /-- `execl` of the program, and `exit(EXIT_FAILURE)` where that fails. -/
  | execl (app : Bytes)
deriving DecidableEq

/-- `authenticate`.  The child never returns from it. -/
def authenticate (app token : Bytes) (o : ProcessOutcome) :
    Option Bool × List AuthenticatorEffect :=
  if 0 ≠ o.pipe then (some false, [])
  else if o.fork = 0 then (none, [.execl app])
  else if 0 < o.fork then
    let exitStatus := if o.waitpid = o.fork then wexitstatus o.status else EXIT_FAILURE
    (some (exitStatus = EXIT_SUCCESS), [.write token])
  else (some false, [])

/-- The verdict the server is given. -/
def verdictOf (app token : Bytes) (o : ProcessOutcome) : Bool :=
  (authenticate app token o).1 = some true

namespace ProcessOutcome

variable (o : ProcessOutcome)

/-- The child was started, and its status is known. -/
def Reaped : Prop := o.pipe = 0 ∧ 0 < o.fork ∧ o.waitpid = o.fork

/-- The child terminated normally, with exit code zero. -/
def Succeeded : Prop := o.Reaped ∧ wtermsig o.status = 0 ∧ wexitstatus o.status = 0

/-- The child was ended by a signal; the bits of an exit code are zero then. -/
def Killed : Prop := o.Reaped ∧ wtermsig o.status ≠ 0 ∧ wexitstatus o.status = 0

end ProcessOutcome

/-- The token is accepted when the exit code in the status is zero. -/
theorem verdictOf_iff (app token : Bytes) (o : ProcessOutcome) :
    verdictOf app token o = true ↔ o.Reaped ∧ wexitstatus o.status = 0 := by
  unfold verdictOf authenticate ProcessOutcome.Reaped
  by_cases hpipe : o.pipe = 0
  · rw [if_neg (not_not.2 hpipe.symm)]
    by_cases hchild : o.fork = 0
    · rw [if_pos hchild]
      simp [hchild]
    · rw [if_neg hchild]
      by_cases hparent : 0 < o.fork
      · rw [if_pos hparent]
        by_cases hwait : o.waitpid = o.fork
        · simp [hpipe, hparent, hwait, EXIT_SUCCESS]
        · simp [hwait, EXIT_SUCCESS, EXIT_FAILURE]
      · rw [if_neg hparent]
        simp [hparent]
  · rw [if_pos (Ne.symm hpipe)]
    simp [hpipe]

/-- **A token is accepted by a success alone exactly when the child was not killed.** -/
theorem accepted_by_success_iff (app token : Bytes) (o : ProcessOutcome) :
    (verdictOf app token o = true → o.Succeeded) ↔ ¬ o.Killed := by
  rw [verdictOf_iff]
  unfold ProcessOutcome.Succeeded ProcessOutcome.Killed
  constructor
  · rintro h ⟨hreaped, hsignal, hcode⟩
    exact hsignal (h ⟨hreaped, hcode⟩).2.1
  · rintro h ⟨hreaped, hcode⟩
    refine ⟨hreaped, ?_, hcode⟩
    by_contra hsignal
    exact h ⟨hreaped, hsignal, hcode⟩

/-! ### The flag -/

namespace ServerHandler

variable (s : ServerHandler)

/-- With an authenticator, the flag after a handshake is the verdict on its token, if
one is looked for and sent. -/
theorem filterConnection_flag (h : s.authenticator ≠ []) (headers : Headers) (verdict : Bool) :
    (s.filterConnection headers verdict).1.isAuthenticated = true ↔
      s.authHeader ≠ [] ∧ s.getAuthToken headers ≠ [] ∧ verdict = true := by
  unfold filterConnection authenticateViaHeader
  rw [if_neg h]
  by_cases hheader : s.authHeader = []
  · simp [hheader]
  · rw [if_neg hheader]
    by_cases htoken : s.getAuthToken headers = []
    · simp [htoken]
    · simp [hheader, htoken]

/-- The flag is set by credentials that are read and accepted. -/
theorem finishAuthentication_flag (wsi : Wsi) (reader : MessageReader) (verdict : Bool) :
    (s.finishAuthentication wsi reader verdict).1.isAuthenticated = true ↔
      s.isAuthenticated = true ∨
        (∃ credentials st, (readStr : ReadM Unit Bytes) ⟨reader, ()⟩ = .ok credentials st) ∧
          verdict = true := by
  unfold finishAuthentication
  cases (readStr : ReadM Unit Bytes) ⟨reader, ()⟩ with
  | ok credentials st => cases verdict <;> simp
  | error e st => simp

end ServerHandler

/-- **When authentication fails closed.**  `authenticate` returns true only if the child
terminated normally with exit code zero, if and only if the child was not killed by a
signal.  With an authenticator, `filter_connection` sets the flag only in that case, if
and only if it asks about no token or the child was not killed; and so does
`finish_authentication`, which asks where it can read credentials. -/
theorem fails_closed_iff (s : ServerHandler) (token : Bytes) (o : ProcessOutcome) :
    (((authenticate s.authenticator token o).1 = some true → o.Succeeded) ↔ ¬ o.Killed) ∧
    (∀ headers : Headers, s.authenticator ≠ [] →
      (((s.filterConnection headers
          (verdictOf s.authenticator (s.getAuthToken headers) o)).1.isAuthenticated = true →
            o.Succeeded) ↔
        (s.authHeader ≠ [] ∧ s.getAuthToken headers ≠ [] → ¬ o.Killed))) ∧
    ∀ (wsi : Wsi) (reader : MessageReader), s.isAuthenticated = false →
      (((s.finishAuthentication wsi reader
          (verdictOf s.authenticator token o)).1.isAuthenticated = true → o.Succeeded) ↔
        ((∃ credentials st, (readStr : ReadM Unit Bytes) ⟨reader, ()⟩ = .ok credentials st) →
          ¬ o.Killed)) := by
  refine ⟨?_, ?_, ?_⟩
  · rw [← accepted_by_success_iff s.authenticator token o, verdictOf, decide_eq_true_iff]
  · intro headers hauth
    rw [s.filterConnection_flag hauth, ← accepted_by_success_iff s.authenticator
      (s.getAuthToken headers) o, ← and_assoc, and_imp]
  · intro wsi reader hflag
    rw [s.finishAuthentication_flag, ← accepted_by_success_iff s.authenticator token o,
      hflag]
    simp only [Bool.false_eq_true, false_or, and_imp]

/-- An authenticator that is killed by signal 9 accepts the token. -/
theorem killed_authenticator_accepts :
    authenticate [0x61] [0x74] ⟨0, 42, 42, 9⟩ = (some true, [.write [0x74]]) ∧
      ¬ ProcessOutcome.Succeeded ⟨0, 42, 42, 9⟩ ∧
      ((ServerHandler.make [0x61] [0x68]).filterConnection
        ⟨⟨0, 0, []⟩, ⟨0, 0, []⟩, fun _ => ⟨1, 1, [0x74, 0]⟩⟩
        (verdictOf [0x61] [0x74] ⟨0, 42, 42, 9⟩)).1.isAuthenticated = true := by
  refine ⟨by decide, ?_, by decide⟩
  rintro ⟨-, hsignal, -⟩
  exact absurd hsignal (by decide)

end Webfuse
