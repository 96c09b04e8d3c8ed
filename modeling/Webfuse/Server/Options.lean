/-
# What the options ask for

The configuration as a function of the items of a command line: every member that
holds a text has the value that was given last, TLS is used when a key or a
certificate was given, and the arguments that are handed on to FUSE are those that
are no options and no values (`Describes`).  One item extends the description
(`Describes.append`), so the loop of the constructor keeps it, and its argument vector
never runs out of slots, since there are no more items than arguments.

An option without its value ends the loop, so a failure is the last thing that
happens before `verify`.
-/

import Webfuse.Server.Config

namespace Webfuse

open Basis

/-- The arguments that are handed on, in their order. -/
def passedArgs (l : List Item) : List Bytes := l.filterMap Item.passedArg

/-- The value of the last occurrence of an option, or the value it has without one. -/
def lastValue (option : Setting) (initial : Bytes) (l : List Item) : Bytes :=
  (l.filterMap (Item.valueOf option)).getLast?.getD initial

/-- The configuration that the items ask for, but for its two numbers and the command. -/
structure Describes (progName : Bytes) (l : List Item) (config : WsConfig) : Prop where
  args : config.args.Holds (progName :: passedArgs l)
  vhostName : config.vhostName = lastValue .vhost (ascii "localhost") l
  docroot : config.docroot = lastValue .docroot [] l
  certPath : config.certPath = lastValue .cert [] l
  keyPath : config.keyPath = lastValue .key [] l
  authenticator : config.authenticator = lastValue .authenticator [] l
  authHeader : config.authHeader = (lastValue .authHeader [] l).map tolower
  useTls : config.useTls = true ↔
    ∃ value, Item.setting .key value ∈ l ∨ Item.setting .cert value ∈ l

theorem lastValue_append (option : Setting) (initial : Bytes) (l : List Item) (item : Item) :
    lastValue option initial (l ++ [item]) =
      (item.valueOf option).getD (lastValue option initial l) := by
  unfold lastValue
  rw [List.filterMap_append, List.getLast?_append]
  cases hvalue : item.valueOf option with
  | none => simp [hvalue]
  | some value => simp [hvalue]

theorem passedArgs_append (l : List Item) (item : Item) :
    passedArgs (l ++ [item]) = passedArgs l ++ item.passedArg.toList := by
  unfold passedArgs
  rw [List.filterMap_append]
  cases hpassed : item.passedArg with
  | none => simp [hpassed]
  | some arg => simp [hpassed]

theorem Item.isSome_valueOf (item : Item) (option : Setting) :
    (item.valueOf option).isSome = true ↔ ∃ value, item = .setting option value := by
  cases item with
  | setting option' value =>
      by_cases hoption : option' = option
      · simp [Item.valueOf, hoption]
      · simp [Item.valueOf, hoption]
  | _ => simp [Item.valueOf]

/-- The description goes on with the items. -/
theorem Describes.append {progName : Bytes} {l : List Item} {config config' : WsConfig}
    (h : Describes progName l config) {item : Item} (hupdates : item.Updates config config')
    (hargs : config'.args.Holds (progName :: passedArgs (l ++ [item]))) :
    Describes progName (l ++ [item]) config' where
  args := hargs
  vhostName := by rw [hupdates.vhostName, h.vhostName, lastValue_append]
  docroot := by rw [hupdates.docroot, h.docroot, lastValue_append]
  certPath := by rw [hupdates.certPath, h.certPath, lastValue_append]
  keyPath := by rw [hupdates.keyPath, h.keyPath, lastValue_append]
  authenticator := by rw [hupdates.authenticator, h.authenticator, lastValue_append]
  authHeader := by
    rw [hupdates.authHeader, h.authHeader, lastValue_append]
    cases item.valueOf .authHeader <;> rfl
  useTls := by
    rw [hupdates.useTls, Bool.or_eq_true, Bool.or_eq_true, h.useTls, item.isSome_valueOf,
      item.isSome_valueOf]
    simp only [List.mem_append, List.mem_singleton, exists_or, eq_comm (a := item)]
    tauto

/-- **What an item does.**  Where there is room for its argument, the configuration is
described by the items up to it, or a number was refused. -/
theorem Describes.apply {progName : Bytes} {l : List Item} {config : WsConfig}
    (h : Describes progName l config) (hroom : (passedArgs l).length + 1 < config.args.capacity)
    (item : Item) :
    (∃ config', item.apply config = .ok config' ∧ Describes progName (l ++ [item]) config' ∧
      config'.args.capacity = config.args.capacity) ∨ item.apply config = .error ⟨"stoi"⟩ := by
  -- only an item that hands on an argument changes the vector
  have hquiet : ∀ config', item.passedArg = none → item.apply config = .ok config' →
      Describes progName (l ++ [item]) config' ∧
        config'.args.capacity = config.args.capacity := by
    intro config' hpassed happly
    have hupdates := Item.updates_of_apply happly
    have hargs := hupdates.args hpassed
    refine ⟨h.append hupdates ?_, by rw [hargs]⟩
    rw [passedArgs_append, hpassed, hargs]
    simpa using h.args
  cases item with
  | switch cmd =>
      exact .inl ⟨_, rfl, hquiet _ rfl rfl⟩
  | missing option =>
      exact .inl ⟨_, rfl, hquiet _ rfl rfl⟩
  | setting option value =>
      cases hstore : (Item.setting option value).apply config with
      | ok config' => exact .inl ⟨config', rfl, hquiet config' rfl hstore⟩
      | error e => exact .inr (congrArg _ (Setting.store_error hstore))
  | passed arg =>
      obtain ⟨args, hpush, hholds, hcapacity⟩ := h.args.push hroom arg
      have happly : (Item.passed arg).apply config = .ok { config with args } := by
        simp only [Item.apply, hpush]
        rfl
      refine .inl ⟨_, happly, h.append (Item.updates_of_apply happly) ?_, hcapacity⟩
      rw [passedArgs_append]
      exact hholds

/-- **What all items do.**  There is room for as many arguments as there are items. -/
theorem Describes.applyAll {progName : Bytes} {l : List Item} {config : WsConfig}
    (h : Describes progName l config) (l' : List Item)
    (hroom : (passedArgs l).length + 1 + l'.length ≤ config.args.capacity) :
    (∃ config', applyAll config l' = .ok config' ∧ Describes progName (l ++ l') config') ∨
      applyAll config l' = .error ⟨"stoi"⟩ := by
  induction l' generalizing l config with
  | nil => exact .inl ⟨config, rfl, by rwa [List.append_nil]⟩
  | cons item l' ih =>
      rw [List.length_cons] at hroom
      rcases h.apply (by omega) item with ⟨config₁, happly, h₁, hcapacity⟩ | hstoi
      · have hcons : Webfuse.applyAll config (item :: l') = Webfuse.applyAll config₁ l' := by
          unfold Webfuse.applyAll
          rw [List.foldlM_cons, happly]
          rfl
        have hlen : (passedArgs (l ++ [item])).length ≤ (passedArgs l).length + 1 := by
          rw [passedArgs_append, List.length_append]
          cases item.passedArg <;> simp
        rw [hcons, List.append_cons]
        exact ih h₁ (by omega)
      · refine .inr ?_
        unfold Webfuse.applyAll
        rw [List.foldlM_cons, hstoi]
        rfl

/-- There are no more items than arguments, a pending option counted. -/
theorem length_items (pending : Option Setting) (args : List Bytes) :
    (items pending args).length ≤ pending.toList.length + args.length := by
  fun_induction items pending args <;> simp_all <;> omega

/-- A failure comes last, and shows the help. -/
theorem exit_applyAll (pending : Option Setting) (args : List Bytes) {config config' : WsConfig}
    (hexit : config.exitCode = EXIT_SUCCESS)
    (h : applyAll config (items pending args) = .ok config') :
    config'.exitCode = EXIT_SUCCESS ∨
      config'.exitCode = EXIT_FAILURE ∧ config'.cmd = .showHelp := by
  -- an item that is no failure leaves the rest to the induction hypothesis
  have hstep : ∀ {item : Item} {l : List Item} {config : WsConfig},
      config.exitCode = EXIT_SUCCESS → applyAll config (item :: l) = .ok config' →
      (∀ option, item ≠ .missing option) →
      ∃ config₁ : WsConfig, config₁.exitCode = EXIT_SUCCESS ∧ applyAll config₁ l = .ok config' := by
    intro item l config hexit h hitem
    unfold applyAll at h
    rw [List.foldlM_cons] at h
    obtain ⟨config₁, happly, hrest⟩ := of_bind_ok h
    exact ⟨config₁, ((Item.updates_of_apply happly).exitCode hitem).trans hexit, hrest⟩
  fun_induction items pending args generalizing config with
  | case1 =>
      cases h
      exact .inl hexit
  | case2 option =>
      cases h
      exact .inr ⟨rfl, rfl⟩
  | case3 option value rest ih =>
      obtain ⟨config₁, hexit₁, h₁⟩ := hstep hexit h nofun
      exact ih hexit₁ h₁
  | case4 arg rest cmd hcmd ih =>
      obtain ⟨config₁, hexit₁, h₁⟩ := hstep hexit h nofun
      exact ih hexit₁ h₁
  | case5 arg rest option hoption ih => exact ih hexit h
  | case6 arg rest hnone ih =>
      obtain ⟨config₁, hexit₁, h₁⟩ := hstep hexit h nofun
      exact ih hexit₁ h₁

/-! ### What the constructor returns -/

/-- A program without a name is refused. -/
theorem wsConfig_nil : wsConfig [] = .error ⟨"too few commandline args"⟩ := rfl

/-- The constructor does what the items say, and then verifies. -/
theorem wsConfig_applyAll (progName : Bytes) (args : List Bytes) :
    ∃ vector, vector.Holds [progName] ∧ vector.capacity = args.length + 1 ∧
      ((∃ s, wsConfig (progName :: args) = .ok (verify s) ∧
          applyAll (initialConfig vector) (items none args) = .ok s.config) ∨
        ∃ e, wsConfig (progName :: args) = .error e ∧
          applyAll (initialConfig vector) (items none args) = .error e) := by
  obtain ⟨vector, hnew, hholds, hcapacity⟩ :=
    CommandlineArgs.new_holds progName (show 1 ≤ args.length + 1 by omega)
  refine ⟨vector, hholds, hcapacity, ?_⟩
  have hloop := outcome_configLoop (args.length + 1)
    ⟨initialConfig vector, ⟨0, args.length + 1, progName :: args⟩, []⟩ rfl rfl
    (Nat.lt_succ_self args.length)
  change _ = applyAll (initialConfig vector) (items none args) at hloop
  cases happly : applyAll (initialConfig vector) (items none args) with
  | ok config =>
      obtain ⟨s, hrun, rfl⟩ := of_outcome_ok (hloop.trans happly)
      refine .inl ⟨s, ?_, rfl⟩
      simp only [wsConfig, List.headD_cons, List.length_cons, hnew, bind, Except.bind, hrun]
      rfl
  | error e =>
      obtain ⟨s, hrun⟩ := of_outcome_error (hloop.trans happly)
      refine .inr ⟨e, ?_, rfl⟩
      simp only [wsConfig, List.headD_cons, List.length_cons, hnew, bind, Except.bind, hrun]
      rfl

/-- **What the constructor returns.**  The configuration is that of the items of the
arguments, before `verify` looks at it; otherwise a number was refused. -/
theorem wsConfig_cons (progName : Bytes) (args : List Bytes) :
    (∃ s, wsConfig (progName :: args) = .ok (verify s) ∧
      Describes progName (items none args) s.config ∧
      (s.config.exitCode = EXIT_SUCCESS ∨
        s.config.exitCode = EXIT_FAILURE ∧ s.config.cmd = .showHelp)) ∨
      wsConfig (progName :: args) = .error ⟨"stoi"⟩ := by
  obtain ⟨vector, hholds, hcapacity, hrun⟩ := wsConfig_applyAll progName args
  have hinit : Describes progName [] (initialConfig vector) :=
    ⟨hholds, rfl, rfl, rfl, rfl, rfl, rfl, by simp [initialConfig]⟩
  have hlen : (items none args).length ≤ args.length := by
    have := length_items none args
    simpa using this
  have hroom : (passedArgs []).length + 1 + (items none args).length ≤
      (initialConfig vector).args.capacity := by
    change 0 + 1 + _ ≤ vector.capacity
    omega
  have happly := hinit.applyAll _ hroom
  rcases hrun with ⟨s, hreturn, hs⟩ | ⟨e, hthrow, he⟩
  · rw [hs] at happly
    rcases happly with ⟨_, hok, hdescribes⟩ | hstoi
    · cases hok
      exact .inl ⟨s, hreturn, hdescribes, exit_applyAll none args rfl hs⟩
    · cases hstoi
  · rw [he] at happly
    rcases happly with ⟨_, hok, -⟩ | hstoi
    · cases hok
    · cases hstoi
      exact .inr hthrow

/-- `verify` leaves a configuration that is complete, and fails otherwise. -/
theorem verify_cases (s : Construction) :
    (verify s = s ∧ (s.config.cmd = .run → s.config.useTls = true →
      s.config.keyPath ≠ [] ∧ s.config.certPath ≠ [])) ∨
    ((verify s).config.cmd = .showHelp ∧ (verify s).config.exitCode = EXIT_FAILURE) := by
  unfold verify
  split_ifs with hcmd htls
  · exact .inr ⟨rfl, rfl⟩
  · refine .inl ⟨rfl, fun _ huse => ?_⟩
    rw [huse] at htls
    simpa using htls
  · exact .inl ⟨rfl, fun hrun => absurd hrun hcmd⟩

/-- `verify` changes the command and the exit code. -/
theorem Describes.verify {progName : Bytes} {l : List Item} {s : Construction}
    (h : Describes progName l s.config) : Describes progName l (verify s).config := by
  unfold Webfuse.verify
  split_ifs
  · exact ⟨h.args, h.vhostName, h.docroot, h.certPath, h.keyPath, h.authenticator, h.authHeader,
      h.useTls⟩
  · exact h
  · exact h

/-- **The command line is split.**  Where the constructor succeeds, the name of the
program and the arguments that are neither an option nor the value of one are handed on
in their order, behind them a null pointer, and every text is the one given last.  Where
it does not succeed, it is not for want of slots. -/
theorem wsConfig_splits (argv : List Bytes) :
    (∀ s, wsConfig argv = .ok s → s.config.exitCode = EXIT_SUCCESS →
      ∃ progName args, argv = progName :: args ∧
        Describes progName (items none args) s.config) ∧
      wsConfig argv ≠ .error ⟨"capacity exceeded"⟩ := by
  cases argv with
  | nil =>
      rw [wsConfig_nil]
      exact ⟨nofun, by simp⟩
  | cons progName args =>
      rcases wsConfig_cons progName args with ⟨s, hrun, hdescribes, -⟩ | hstoi
      · rw [hrun]
        refine ⟨fun s' hs' _ => ⟨progName, args, rfl, ?_⟩, nofun⟩
        cases hs'
        exact hdescribes.verify
      · rw [hstoi]
        exact ⟨nofun, by simp⟩

/-- A command line with an option that is the value of another. -/
def sampleArgv : List Bytes :=
  [ascii "webfuse", ascii "-f", ascii "--wf-key", ascii "--wf-cert", ascii "--wf-cert",
    ascii "c", ascii "--wf-auth-header", ascii "X-Auth", ascii "dir"]

theorem wsConfig_sampleArgv :
    ∃ s, wsConfig sampleArgv = .ok s ∧ s.config.exitCode = EXIT_SUCCESS ∧
      s.config.cmd = .run := by
  have hreturns : (wsConfig sampleArgv).toOption.map (fun s => (s.config.exitCode, s.config.cmd)) =
      some (EXIT_SUCCESS, .run) := by decide +kernel
  cases hrun : wsConfig sampleArgv with
  | error e =>
      rw [hrun] at hreturns
      cases hreturns
  | ok s =>
      rw [hrun] at hreturns
      obtain ⟨hexit, hcmd⟩ := Prod.mk.inj (Option.some.inj hreturns)
      exact ⟨s, rfl, hexit, hcmd⟩

theorem wsConfig_splits_sample :
    ∃ s, wsConfig sampleArgv = .ok s ∧ s.config.exitCode = EXIT_SUCCESS ∧
      s.config.args.Holds [ascii "webfuse", ascii "-f", ascii "dir"] ∧
      s.config.keyPath = ascii "--wf-cert" ∧ s.config.authHeader = ascii "x-auth" := by
  obtain ⟨s, hrun, hexit, -⟩ := wsConfig_sampleArgv
  obtain ⟨progName, args, hargv, h⟩ := (wsConfig_splits sampleArgv).1 s hrun hexit
  cases hargv
  exact ⟨s, hrun, hexit, h.args, h.keyPath, h.authHeader⟩

/-- **TLS is neither dropped nor half configured.** -/
theorem wsConfig_tls {argv : List Bytes} {s : Construction} (h : wsConfig argv = .ok s) :
    (s.config.cmd = .run →
      s.config.exitCode = EXIT_SUCCESS ∧
      (s.config.useTls = true ↔ ∃ value, Item.setting .key value ∈ items none argv.tail ∨
        Item.setting .cert value ∈ items none argv.tail) ∧
      (s.config.useTls = true → s.config.keyPath ≠ [] ∧ s.config.certPath ≠ [])) ∧
    (s.config.exitCode = EXIT_FAILURE → s.config.cmd = .showHelp) := by
  cases argv with
  | nil => cases h
  | cons progName args =>
      rcases wsConfig_cons progName args with ⟨before, hrun, hdescribes, hexit⟩ | hstoi
      · rw [hrun] at h
        cases h
        have htls := hdescribes.verify.useTls
        rcases verify_cases before with ⟨hsame, hcomplete⟩ | ⟨hhelp, hfailure⟩
        · rw [hsame] at htls ⊢
          rcases hexit with hsuccess | ⟨hfailure, hhelp⟩
          · refine ⟨fun hcmd => ⟨hsuccess, htls, hcomplete hcmd⟩, fun hfailure => ?_⟩
            rw [hsuccess] at hfailure
            exact absurd hfailure (by decide)
          · refine ⟨fun hcmd => ?_, fun _ => hhelp⟩
            rw [hhelp] at hcmd
            cases hcmd
        · refine ⟨fun hcmd => ?_, fun _ => hhelp⟩
          rw [hhelp] at hcmd
          cases hcmd
      · rw [hstoi] at h
        cases h

theorem wsConfig_tls_sample :
    ∃ s, wsConfig sampleArgv = .ok s ∧ s.config.cmd = .run ∧ s.config.useTls = true ∧
      s.config.exitCode = EXIT_SUCCESS ∧ s.config.keyPath ≠ [] ∧ s.config.certPath ≠ [] := by
  obtain ⟨s, hrun, -, hcmd⟩ := wsConfig_sampleArgv
  obtain ⟨hexit, htls, hpaths⟩ := (wsConfig_tls hrun).1 hcmd
  have huse : s.config.useTls = true := htls.2 ⟨ascii "c", by decide +kernel⟩
  exact ⟨s, hrun, hcmd, huse, hexit, hpaths huse⟩

end Webfuse
