/-
# `ws_config`

`src/webfuse/ws/config.cpp`: the options of the service are taken out of its command
line, and what is left is handed on to FUSE.  The constructor goes through the
arguments with a reader that an option with a value moves twice, so an argument is
what the argument before it makes of it: an option, the value of an option or an
argument of FUSE.

`items` is that reading of a command line as a recursion over the arguments, and
`outcome_configLoop` says that the loop does what the items say, one after the other.
-/

import Webfuse.Server.Authenticator
import Webfuse.Util.CommandLine
import Webfuse.Util.Text

namespace Webfuse

open Basis

/-- `enum class command`. -/
inductive Command
  | run | printVersion | showHelp
deriving DecidableEq, Repr

/-- `class ws_config`. -/
structure WsConfig where
  exitCode : UInt32
  args : CommandlineArgs
  cmd : Command
  port : UInt16
  vhostName : Bytes
  docroot : Bytes
  useTls : Bool
  certPath : Bytes
  keyPath : Bytes
  authenticator : Bytes
  authHeader : Bytes
  timeoutSecs : UInt64
deriving DecidableEq, Repr

/-- What the constructor works on: the object, the reader and the lines that were
written to the standard error output. -/
structure Construction where
  config : WsConfig
  reader : CommandlineReader
  cerr : List String

abbrev ConfigM := EStateM Exn Construction

/-- The options with a value. -/
inductive Setting
  | port | vhost | key | cert | authenticator | authHeader | timeout | docroot
deriving DecidableEq, Repr

namespace Setting

/-- The message of `get_arg` where the value is missing. -/
def missing : Setting → String
  | port => "missing PORT"
  | vhost => "missing VHOST"
  | key => "missing KEY_PATH"
  | cert => "missing CERT_PATH"
  | authenticator => "missing AUTHENTICATOR"
  | authHeader => "missing AUTH_HEADER"
  | timeout => "missing TIMEOUT"
  | docroot => "missing DOCROOT"

/-- What is done with a value. -/
def store (value : Bytes) (config : WsConfig) : Setting → Except Exn WsConfig
  | port => do
      let n ← stoi value
      return { config with port := portOf n }
  | vhost => return { config with vhostName := value }
  | key => return { config with keyPath := value, useTls := true }
  | cert => return { config with certPath := value, useTls := true }
  | authenticator => return { config with authenticator := value }
  | authHeader => return { config with authHeader := value.map tolower }
  | timeout => do
      let n ← stoi value
      return { config with timeoutSecs := n.toInt64.toUInt64 }
  | docroot => return { config with docroot := value }

end Setting

/-- A part of the constructor that only works on the object. -/
def onConfig (f : WsConfig → Except Exn WsConfig) : ConfigM Unit := fun s =>
  match f s.config with
  | .ok config => .ok () { s with config }
  | .error e => .error e s

/-- `get_arg`. -/
def getArg (errorMessage : String) : ConfigM (Option Bytes) := fun s =>
  let (hasNext, reader) := s.reader.next
  if hasNext then .ok (some reader.current) { s with reader }
  else
    .ok none
      { config := { s.config with cmd := .showHelp, exitCode := EXIT_FAILURE }
        reader
        cerr := s.cerr ++ ["error: " ++ errorMessage] }

/-- The branch of an option with a value. -/
def Setting.take (setting : Setting) : ConfigM Unit := do
  match ← getArg setting.missing with
  | some value => onConfig fun config => setting.store value config
  | none => return ()

/-- The branches of an argument, in the order of the source. -/
def onArgument (arg : Bytes) : ConfigM Unit :=
  if arg = ascii "-h" ∨ arg = ascii "--help" then
    onConfig fun config => .ok { config with cmd := .showHelp }
  else if arg = ascii "--wf-port" then Setting.port.take
  else if arg = ascii "--wf-vhost" then Setting.vhost.take
  else if arg = ascii "--wf-key" then Setting.key.take
  else if arg = ascii "--wf-cert" then Setting.cert.take
  else if arg = ascii "--wf-authenticator" then Setting.authenticator.take
  else if arg = ascii "--wf-auth-header" then Setting.authHeader.take
  else if arg = ascii "--wf-timeout" then Setting.timeout.take
  else if arg = ascii "--wf-docroot" then Setting.docroot.take
  else if arg = ascii "--wf-version" then
    onConfig fun config => .ok { config with cmd := .printVersion }
  else
    onConfig fun config => do
      let args ← config.args.push arg
      return { config with args }

/-- The loop of the constructor, with a bound on its rounds. -/
def configLoop : ℕ → ConfigM Unit
  | 0 => pure ()
  | rounds + 1 => fun s =>
      if s.config.exitCode = EXIT_SUCCESS then
        let (hasNext, reader) := s.reader.next
        if hasNext then
          (onArgument reader.current >>= fun _ => configLoop rounds) { s with reader }
        else .ok () { s with reader }
      else .ok () s

/-- `verify`. -/
def verify (s : Construction) : Construction :=
  if s.config.cmd = .run then
    if s.config.useTls ∧ (s.config.keyPath = [] ∨ s.config.certPath = []) then
      { s with
        config := { s.config with cmd := .showHelp, exitCode := EXIT_FAILURE }
        cerr := s.cerr ++ ["error: use of TLS requires both, key ander certificate path"] }
    else s
  else s

def defaultPort : UInt16 := 8081
def defaultVhostName : Bytes := ascii "localhost"
def defaultTimeoutSecs : UInt64 := 10

/-- The members before the first argument is read. -/
def initialConfig (args : CommandlineArgs) : WsConfig where
  exitCode := EXIT_SUCCESS
  args := args
  cmd := .run
  port := defaultPort
  vhostName := defaultVhostName
  docroot := []
  useTls := false
  certPath := []
  keyPath := []
  authenticator := []
  authHeader := []
  timeoutSecs := defaultTimeoutSecs

/-- The constructor of `ws_config`.  Every round of the loop moves the reader, so
there are no more rounds than arguments. -/
def wsConfig (argv : List Bytes) : Except Exn Construction := do
  let args ← CommandlineArgs.new (argv.headD []) argv.length
  match configLoop argv.length ⟨initialConfig args, ⟨0, argv.length, argv⟩, []⟩ with
  | .ok () s => return verify s
  | .error e _ => throw e

/-! ### The arguments as items -/

/-- What one or two arguments ask for. -/
inductive Item
  | switch (cmd : Command)
  | setting (option : Setting) (value : Bytes)
  | missing (option : Setting)
  | passed (arg : Bytes)
deriving DecidableEq, Repr

/-- The options of the service: those without a value and those with one. -/
def options : List (Bytes × (Command ⊕ Setting)) :=
  [(ascii "-h", .inl .showHelp), (ascii "--help", .inl .showHelp),
    (ascii "--wf-version", .inl .printVersion), (ascii "--wf-port", .inr .port),
    (ascii "--wf-vhost", .inr .vhost), (ascii "--wf-key", .inr .key),
    (ascii "--wf-cert", .inr .cert), (ascii "--wf-authenticator", .inr .authenticator),
    (ascii "--wf-auth-header", .inr .authHeader), (ascii "--wf-timeout", .inr .timeout),
    (ascii "--wf-docroot", .inr .docroot)]

/-- The items of a list of arguments, of which the first is the value of the pending
option, if there is one. -/
def items : Option Setting → List Bytes → List Item
  | none, [] => []
  | some option, [] => [.missing option]
  | some option, value :: rest => .setting option value :: items none rest
  | none, arg :: rest =>
      match options.lookup arg with
      | some (.inl cmd) => .switch cmd :: items none rest
      | some (.inr option) => items (some option) rest
      | none => .passed arg :: items none rest

/-- What an item does to the configuration. -/
def Item.apply (config : WsConfig) : Item → Except Exn WsConfig
  | switch cmd => .ok { config with cmd }
  | setting option value => option.store value config
  | missing _ => .ok { config with cmd := .showHelp, exitCode := EXIT_FAILURE }
  | passed arg => do
      let args ← config.args.push arg
      return { config with args }

/-- What the items do, one after the other. -/
def applyAll (config : WsConfig) (l : List Item) : Except Exn WsConfig :=
  l.foldlM Item.apply config

/-- The branch of an option, or of an argument that is none. -/
def branch (arg : Bytes) : Option (Command ⊕ Setting) → ConfigM Unit
  | some (.inl cmd) => onConfig fun config => (Item.switch cmd).apply config
  | some (.inr option) => option.take
  | none => onConfig fun config => (Item.passed arg).apply config

/-- The branches of the source are those of the options. -/
theorem onArgument_eq (arg : Bytes) : onArgument arg = branch arg (options.lookup arg) := by
  by_cases hmem : arg ∈ options.map Prod.fst
  · simp only [options, List.map_cons, List.map_nil, List.mem_cons, List.not_mem_nil,
      or_false] at hmem
    rcases hmem with rfl | rfl | rfl | rfl | rfl | rfl | rfl | rfl | rfl | rfl | rfl <;> rfl
  · have hnone : options.lookup arg = none := by
      rw [List.lookup_eq_none_iff]
      intro p hp
      rw [bne_iff_ne]
      rintro rfl
      exact hmem (List.mem_map_of_mem hp)
    simp only [options, List.map_cons, List.map_nil, List.mem_cons, List.not_mem_nil, or_false,
      not_or] at hmem
    rw [hnone]
    simp only [onArgument, hmem, if_false, or_self]
    rfl

/-! ### The loop does what the items say -/

/-- The configuration a part of the constructor leaves, or its exception. -/
def outcome : EStateM.Result Exn Construction Unit → Except Exn WsConfig
  | .ok () s => .ok s.config
  | .error e _ => .error e

theorem of_outcome_ok {r : EStateM.Result Exn Construction Unit} {config : WsConfig}
    (h : outcome r = .ok config) : ∃ s, r = .ok () s ∧ s.config = config := by
  cases r with
  | ok u s =>
      cases h
      exact ⟨s, rfl, rfl⟩
  | error e s => cases h

theorem of_outcome_error {r : EStateM.Result Exn Construction Unit} {e : Exn}
    (h : outcome r = .error e) : ∃ s, r = .error e s := by
  cases r with
  | ok u s => cases h
  | error e' s =>
      cases h
      exact ⟨s, rfl⟩

theorem outcome_onConfig_bind (f : WsConfig → Except Exn WsConfig) (k : ConfigM Unit)
    (s : Construction) :
    outcome ((onConfig f >>= fun _ => k) s) =
      f s.config >>= fun config => outcome (k { s with config }) := by
  cases hf : f s.config with
  | ok config =>
      have hrun : onConfig f s = .ok () { s with config } := by
        unfold onConfig
        rw [hf]
      rw [bind_of_ok hrun]
      rfl
  | error e =>
      have hrun : onConfig f s = .error e s := by
        unfold onConfig
        rw [hf]
      rw [bind_of_error hrun]
      rfl

/-- Where a value follows, the option stores it. -/
theorem take_bind_of_cons {s : Construction} (hvalid : s.reader.Valid) {value : Bytes}
    {rest : List Bytes} (h : s.reader.rest = value :: rest) (option : Setting)
    (k : ConfigM Unit) :
    (option.take >>= fun _ => k) s =
      (onConfig (fun config => option.store value config) >>= fun _ => k)
        { s with reader := s.reader.next.2 } := by
  obtain ⟨hnext, hcurrent, -⟩ := CommandlineReader.next_of_cons hvalid h
  have hget : getArg option.missing s = .ok (some value) { s with reader := s.reader.next.2 } := by
    unfold getArg
    dsimp only
    rw [hnext, hcurrent]
    rfl
  unfold Setting.take
  rw [bind_assoc, bind_of_ok hget]

/-- Where none follows, the option fails. -/
theorem take_bind_of_nil {s : Construction} (hvalid : s.reader.Valid) (h : s.reader.rest = [])
    (option : Setting) (k : ConfigM Unit) :
    (option.take >>= fun _ => k) s =
      k { config := { s.config with cmd := .showHelp, exitCode := EXIT_FAILURE }
          reader := s.reader.next.2
          cerr := s.cerr ++ ["error: " ++ option.missing] } := by
  have hnext := CommandlineReader.next_of_nil hvalid h
  have hget : getArg option.missing s = .ok none
      { config := { s.config with cmd := .showHelp, exitCode := EXIT_FAILURE }
        reader := s.reader.next.2
        cerr := s.cerr ++ ["error: " ++ option.missing] } := by
    unfold getArg
    dsimp only
    rw [hnext]
    rfl
  unfold Setting.take
  rw [bind_assoc, bind_of_ok hget]
  rfl

/-- No round follows a failure. -/
theorem configLoop_of_failure (rounds : ℕ) {s : Construction}
    (h : s.config.exitCode = EXIT_FAILURE) : configLoop rounds s = .ok () s := by
  cases rounds with
  | zero => rfl
  | succ rounds =>
      unfold configLoop
      rw [if_neg (by rw [h]; decide)]

/-- A number is refused in one way. -/
theorem stoi_error {text : Bytes} {e : Exn} (h : stoi text = .error e) : e = ⟨"stoi"⟩ := by
  unfold stoi at h
  split at h
  · cases h
    rfl
  · split_ifs at h
    cases h
    rfl

/-- A value is refused only where it is to be a number. -/
theorem Setting.store_error {option : Setting} {value : Bytes} {config : WsConfig} {e : Exn}
    (h : option.store value config = .error e) : e = ⟨"stoi"⟩ := by
  cases option with
  | port =>
      rcases of_bind_error h with hstoi | ⟨n, -, hn⟩
      · exact stoi_error hstoi
      · cases hn
  | timeout =>
      rcases of_bind_error h with hstoi | ⟨n, -, hn⟩
      · exact stoi_error hstoi
      · cases hn
  | _ => cases h

/-- The argument an item hands on. -/
def Item.passedArg : Item → Option Bytes
  | passed arg => some arg
  | _ => none

/-- The value an item gives to an option. -/
def Item.valueOf (option : Setting) : Item → Option Bytes
  | setting option' value => if option' = option then some value else none
  | _ => none

/-- What an item changes: the members of the values it gives.  Only an option that
misses its value is a failure. -/
structure Item.Updates (item : Item) (config config' : WsConfig) : Prop where
  exitCode : (∀ option, item ≠ .missing option) → config'.exitCode = config.exitCode
  args : item.passedArg = none → config'.args = config.args
  vhostName : config'.vhostName = (item.valueOf .vhost).getD config.vhostName
  docroot : config'.docroot = (item.valueOf .docroot).getD config.docroot
  certPath : config'.certPath = (item.valueOf .cert).getD config.certPath
  keyPath : config'.keyPath = (item.valueOf .key).getD config.keyPath
  authenticator : config'.authenticator = (item.valueOf .authenticator).getD config.authenticator
  authHeader : config'.authHeader =
    ((item.valueOf .authHeader).map (List.map tolower)).getD config.authHeader
  useTls : config'.useTls =
    (config.useTls || ((item.valueOf .key).isSome || (item.valueOf .cert).isSome))

theorem Item.updates_of_apply {item : Item} {config config' : WsConfig}
    (h : item.apply config = .ok config') : item.Updates config config' := by
  have hkeep : config.useTls = (config.useTls || (false || false)) := by simp
  have htls : true = (config.useTls || true) := by simp
  cases item with
  | switch cmd =>
      cases h
      exact ⟨fun _ => rfl, fun _ => rfl, rfl, rfl, rfl, rfl, rfl, rfl, hkeep⟩
  | missing option =>
      cases h
      exact ⟨fun hitem => absurd rfl (hitem option), fun _ => rfl, rfl, rfl, rfl, rfl, rfl, rfl,
        hkeep⟩
  | passed arg =>
      obtain ⟨args, -, hargs⟩ := of_bind_ok h
      cases hargs
      exact ⟨fun _ => rfl, nofun, rfl, rfl, rfl, rfl, rfl, rfl, hkeep⟩
  | setting option value =>
      cases option with
      | port =>
          obtain ⟨n, -, hn⟩ := of_bind_ok h
          cases hn
          exact ⟨fun _ => rfl, fun _ => rfl, rfl, rfl, rfl, rfl, rfl, rfl, hkeep⟩
      | timeout =>
          obtain ⟨n, -, hn⟩ := of_bind_ok h
          cases hn
          exact ⟨fun _ => rfl, fun _ => rfl, rfl, rfl, rfl, rfl, rfl, rfl, hkeep⟩
      | key =>
          cases h
          exact ⟨fun _ => rfl, fun _ => rfl, rfl, rfl, rfl, rfl, rfl, rfl, htls⟩
      | cert =>
          cases h
          exact ⟨fun _ => rfl, fun _ => rfl, rfl, rfl, rfl, rfl, rfl, rfl, htls⟩
      | _ =>
          cases h
          exact ⟨fun _ => rfl, fun _ => rfl, rfl, rfl, rfl, rfl, rfl, rfl, hkeep⟩

/-- **The loop does what the items of the arguments say.** -/
theorem outcome_configLoop (rounds : ℕ) (s : Construction) (hvalid : s.reader.Valid)
    (hexit : s.config.exitCode = EXIT_SUCCESS) (hrounds : s.reader.rest.length < rounds) :
    outcome (configLoop rounds s) = applyAll s.config (items none s.reader.rest) := by
  induction rounds generalizing s with
  | zero => omega
  | succ rounds ih =>
      -- a part of a round that makes the item of one argument, or of two
      have hround : ∀ item reader, (∀ option, item ≠ .missing option) → reader.Valid →
          reader.rest.length < rounds →
          outcome ((onConfig (fun config => item.apply config) >>= fun _ => configLoop rounds)
            { s with reader }) = applyAll s.config (item :: items none reader.rest) := by
        intro item reader hitem hreader hlen
        rw [outcome_onConfig_bind]
        exact bind_congr_ok fun config hconfig =>
          ih { s with config, reader } hreader
            (((Item.updates_of_apply hconfig).exitCode hitem).trans hexit) hlen
      have hreader := hvalid.next
      unfold configLoop
      rw [if_pos hexit]
      dsimp only
      cases hrest : s.reader.rest with
      | nil =>
          rw [CommandlineReader.next_of_nil hvalid hrest]
          rfl
      | cons arg rest =>
          obtain ⟨hnext, hcurrent, hrest'⟩ := CommandlineReader.next_of_cons hvalid hrest
          rw [hrest, List.length_cons] at hrounds
          rw [hnext, hcurrent, if_pos rfl, onArgument_eq]
          unfold items
          cases hoption : options.lookup arg with
          | none =>
              have h := hround (.passed arg) s.reader.next.2 nofun hreader (by rw [hrest']; omega)
              rw [hrest'] at h
              exact h
          | some option =>
              cases option with
              | inl cmd =>
                  have h := hround (.switch cmd) s.reader.next.2 nofun hreader
                    (by rw [hrest']; omega)
                  rw [hrest'] at h
                  exact h
              | inr option =>
                  change outcome ((option.take >>= fun _ => configLoop rounds) _) = _
                  cases rest with
                  | nil =>
                      rw [take_bind_of_nil hreader hrest', configLoop_of_failure _ rfl]
                      rfl
                  | cons value rest =>
                      have hrest'' := (CommandlineReader.next_of_cons hreader hrest').2.2
                      have h := hround (.setting option value) s.reader.next.2.next.2 nofun
                        hreader.next (by rw [hrest'']; simp at hrounds; omega)
                      rw [hrest''] at h
                      rw [take_bind_of_cons hreader hrest']
                      exact h

end Webfuse
