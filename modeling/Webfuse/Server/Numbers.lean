/-
# Numbers that are given

The port of a URL, the port of the service and its timeout are read with `std::stoi`
and cast to the type they are stored in.  `std::stoi` skips white space, takes a sign
and stops at the first character that is no digit, and the casts take any `int`: a port
modulo `2^16`, and a timeout modulo `2^64`.

A number is taken as given (`Exact`) when its text is a numeral and what is stored is
its value.  That is so for a port when its text is a numeral of at most 65535, and for a
timeout when its text is a numeral, since a numeral that is no `int` is refused
(`numbers_exact_iff`).
-/

import Webfuse.Client.Url
import Webfuse.Server.Options

namespace Webfuse

open Basis

/-- A number is stored as its text says. -/
def Exact (text : Bytes) (stored : ℕ) : Prop := IsNumeral text ∧ stored = decimalValue text

instance (text : Bytes) (stored : ℕ) : Decidable (Exact text stored) :=
  inferInstanceAs (Decidable (_ ∧ _))

/-- A numeral that is an `int` is read as it is, and no other is. -/
theorem stoi_of_isNumeral {text : Bytes} (h : IsNumeral text) {n : Int32}
    (hstoi : stoi text = .ok n) :
    decimalValue text < 2 ^ 31 ∧ n = Int32.ofNat (decimalValue text) := by
  unfold stoi at hstoi
  rw [leadingInt_of_digits h.1 h.2] at hstoi
  dsimp only at hstoi
  split_ifs at hstoi with hrange
  cases hstoi
  exact ⟨by omega, rfl⟩

/-- A port is cut to 16 bits. -/
theorem exact_port_iff {text : Bytes} {n : Int32} (h : stoi text = .ok n) :
    Exact text (portOf n).toNat ↔ IsNumeral text ∧ decimalValue text ≤ 65535 := by
  refine and_congr_right fun hnumeral => ?_
  obtain ⟨hlt, rfl⟩ := stoi_of_isNumeral hnumeral h
  have hport : (portOf (Int32.ofNat (decimalValue text))).toNat = decimalValue text % 65536 := by
    simp [portOf]
  omega

/-- A timeout is not cut, and only a negative one is changed. -/
theorem exact_timeout_iff {text : Bytes} {n : Int32} (h : stoi text = .ok n) :
    Exact text n.toInt64.toUInt64.toNat ↔ IsNumeral text := by
  refine and_iff_left_of_imp fun hnumeral => ?_
  obtain ⟨hlt, rfl⟩ := stoi_of_isNumeral hnumeral h
  have hmax : (decimalValue text : ℤ) ≤ Int32.maxValue.toInt := by
    rw [Int32.toInt_maxValue]
    omega
  rw [Int32.toInt64_ofNat' hmax, Int64.toUInt64_ofNat', UInt64.toNat_ofNat',
    Nat.mod_eq_of_lt (by omega)]

/-! ### The port of a URL -/

/-- The text of the port of a URL, if there is one. -/
def portText (url : Bytes) : Option Bytes :=
  match parseProtocol url with
  | .ok (remainder, _) =>
      (find 0x3a (splitPath remainder).1).map fun portStart =>
        (splitPath remainder).1.drop (portStart + 1)
  | .error _ => none

theorem wsUrl_port {url text : Bytes} {r : WsUrl} (h : wsUrl url = .ok r)
    (htext : portText url = some text) : ∃ n, stoi text = .ok n ∧ r.port = portOf n := by
  obtain ⟨⟨remainder, useTls⟩, hprotocol, h⟩ := of_bind_ok h
  obtain ⟨⟨port, hostname⟩, hport, h⟩ := of_bind_ok h
  cases h
  unfold portText at htext
  rw [hprotocol] at htext
  obtain ⟨portStart, hfind, rfl⟩ := Option.map_eq_some_iff.1 htext
  change splitPort useTls (splitPath remainder).1 = _ at hport
  unfold splitPort at hport
  rw [hfind] at hport
  obtain ⟨n, hstoi, hport⟩ := of_bind_ok hport
  cases hport
  exact ⟨n, hstoi, rfl⟩

/-! ### The numbers of a command line -/

/-- The number that an item gives is stored as it is. -/
def Item.Exact (config : WsConfig) : Item → Prop
  | setting .port value => Webfuse.Exact value config.port.toNat
  | setting .timeout value => Webfuse.Exact value config.timeoutSecs.toNat
  | _ => True

/-- The number that an item gives is one that can be stored as it is. -/
def Item.Plain : Item → Prop
  | setting .port value => IsNumeral value ∧ decimalValue value ≤ 65535
  | setting .timeout value => IsNumeral value
  | _ => True

/-- The numbers of a command line are taken as given: each when it is stored, and the
last one for good. -/
structure NumbersExact (l : List Item) (config : WsConfig) : Prop where
  stored : ∀ item ∈ l, ∀ before after, item.apply before = .ok after → item.Exact after
  port : ∀ value, (l.filterMap (Item.valueOf .port)).getLast? = some value →
    Exact value config.port.toNat
  timeout : ∀ value, (l.filterMap (Item.valueOf .timeout)).getLast? = some value →
    Exact value config.timeoutSecs.toNat

theorem Item.apply_port {value : Bytes} {before after : WsConfig}
    (h : (Item.setting .port value).apply before = .ok after) :
    ∃ n, stoi value = .ok n ∧ after.port = portOf n := by
  obtain ⟨n, hstoi, h⟩ := of_bind_ok h
  cases h
  exact ⟨n, hstoi, rfl⟩

theorem Item.apply_timeout {value : Bytes} {before after : WsConfig}
    (h : (Item.setting .timeout value).apply before = .ok after) :
    ∃ n, stoi value = .ok n ∧ after.timeoutSecs = n.toInt64.toUInt64 := by
  obtain ⟨n, hstoi, h⟩ := of_bind_ok h
  cases h
  exact ⟨n, hstoi, rfl⟩

/-- What is stored of an item is exact for the plain ones. -/
theorem Item.exact_iff {item : Item} {before after : WsConfig} (h : item.apply before = .ok after) :
    item.Exact after ↔ item.Plain := by
  cases item with
  | setting option value =>
      cases option with
      | port =>
          obtain ⟨n, hstoi, hport⟩ := Item.apply_port h
          unfold Item.Exact Item.Plain
          rw [hport]
          exact exact_port_iff hstoi
      | timeout =>
          obtain ⟨n, hstoi, htimeout⟩ := Item.apply_timeout h
          unfold Item.Exact Item.Plain
          rw [htimeout]
          exact exact_timeout_iff hstoi
      | _ => exact Iff.rfl
  | _ => exact Iff.rfl

/-- An item that gives no number leaves the numbers. -/
theorem Item.apply_keeps {item : Item} {before after : WsConfig}
    (h : item.apply before = .ok after) :
    (item.valueOf .port = none → after.port = before.port) ∧
      (item.valueOf .timeout = none → after.timeoutSecs = before.timeoutSecs) := by
  cases item with
  | passed arg =>
      obtain ⟨args, -, h⟩ := of_bind_ok h
      cases h
      exact ⟨fun _ => rfl, fun _ => rfl⟩
  | setting option value =>
      cases option with
      | port =>
          obtain ⟨n, -, h⟩ := of_bind_ok h
          cases h
          exact ⟨nofun, fun _ => rfl⟩
      | timeout =>
          obtain ⟨n, -, h⟩ := of_bind_ok h
          cases h
          exact ⟨fun _ => rfl, nofun⟩
      | _ =>
          cases h
          exact ⟨fun _ => rfl, fun _ => rfl⟩
  | _ =>
      cases h
      exact ⟨fun _ => rfl, fun _ => rfl⟩

/-- What the items before the last do, and then the last. -/
theorem applyAll_append {config config' : WsConfig} {l : List Item} {item : Item}
    (h : applyAll config (l ++ [item]) = .ok config') :
    ∃ before, applyAll config l = .ok before ∧ item.apply before = .ok config' := by
  unfold applyAll at h
  rw [List.foldlM_append] at h
  obtain ⟨before, hbefore, hlast⟩ := of_bind_ok h
  rw [List.foldlM_cons] at hlast
  obtain ⟨after, hafter, hnil⟩ := of_bind_ok hlast
  cases hnil
  exact ⟨before, hbefore, hafter⟩

/-- Where all items were applied, each was. -/
theorem exists_apply_of_mem {config config' : WsConfig} {l : List Item}
    (h : applyAll config l = .ok config') {item : Item} (hitem : item ∈ l) :
    ∃ before after, item.apply before = .ok after := by
  induction l using List.reverseRecOn generalizing config' with
  | nil => cases hitem
  | append_singleton l last ih =>
      obtain ⟨before, hbefore, hlast⟩ := applyAll_append h
      rcases List.mem_append.1 hitem with hmem | hmem
      · exact ih hbefore hmem
      · rw [List.mem_singleton.1 hmem]
        exact ⟨before, config', hlast⟩

/-- The number that was given last is the one that is stored, for an option with a
number and the member that holds it. -/
theorem last_stored {β : Type} {option : Setting} {m : WsConfig → β} {cast : Int32 → β}
    (hset : ∀ {value before after}, (Item.setting option value).apply before = .ok after →
      ∃ n, stoi value = .ok n ∧ m after = cast n)
    (hkeep : ∀ {item : Item} {before after}, item.apply before = .ok after →
      item.valueOf option = none → m after = m before)
    {config config' : WsConfig} {l : List Item} (h : applyAll config l = .ok config')
    {value : Bytes} (hlast : (l.filterMap (Item.valueOf option)).getLast? = some value) :
    .setting option value ∈ l ∧ ∃ n, stoi value = .ok n ∧ m config' = cast n := by
  induction l using List.reverseRecOn generalizing config' with
  | nil => cases hlast
  | append_singleton l item ih =>
      obtain ⟨before, hbefore, happly⟩ := applyAll_append h
      rw [List.filterMap_append, List.getLast?_append] at hlast
      cases hvalue : item.valueOf option with
      | none =>
          simp only [List.filterMap_cons, hvalue, List.filterMap_nil, List.getLast?_nil,
            Option.none_or] at hlast
          obtain ⟨hmem, n, hstoi, hmember⟩ := ih hbefore hlast
          rw [hkeep happly hvalue]
          exact ⟨List.mem_append_left _ hmem, n, hstoi, hmember⟩
      | some v =>
          obtain ⟨v', rfl⟩ := (item.isSome_valueOf option).1 (by rw [hvalue]; rfl)
          simp only [List.filterMap_cons, Item.valueOf, if_true, List.filterMap_nil,
            List.getLast?_singleton, Option.some_or, Option.some.injEq] at hlast
          subst hlast
          exact ⟨List.mem_append_right _ (List.mem_singleton.2 rfl), hset happly⟩

/-- `verify` leaves the numbers. -/
theorem verify_numbers (s : Construction) :
    (verify s).config.port = s.config.port ∧
      (verify s).config.timeoutSecs = s.config.timeoutSecs := by
  unfold verify
  split_ifs <;> exact ⟨rfl, rfl⟩

/-- **When numbers are taken as given**: the port of a URL that is accepted, and the
numbers of a command line that is accepted. -/
theorem numbers_exact_iff (url : Bytes) (argv : List Bytes) :
    (∀ r text, wsUrl url = .ok r → portText url = some text →
      (Exact text r.port.toNat ↔ IsNumeral text ∧ decimalValue text ≤ 65535)) ∧
    ∀ s, wsConfig argv = .ok s →
      (NumbersExact (items none argv.tail) s.config ↔
        ∀ item ∈ items none argv.tail, item.Plain) := by
  constructor
  · intro r text hurl htext
    obtain ⟨n, hstoi, hport⟩ := wsUrl_port hurl htext
    rw [hport]
    exact exact_port_iff hstoi
  · intro s hs
    cases argv with
    | nil => cases hs
    | cons progName args =>
        obtain ⟨vector, -, -, ⟨before, hreturn, happly⟩ | ⟨e, hthrow, -⟩⟩ :=
          wsConfig_applyAll progName args
        · rw [hreturn] at hs
          cases hs
          obtain ⟨hport, htimeout⟩ := verify_numbers before
          rw [List.tail_cons]
          refine ⟨fun hexact item hitem => ?_, fun hplain => ⟨?_, ?_, ?_⟩⟩
          · obtain ⟨config, config', hitem'⟩ := exists_apply_of_mem happly hitem
            exact (Item.exact_iff hitem').1 (hexact.stored item hitem _ _ hitem')
          · intro item hitem config config' hitem'
            exact (Item.exact_iff hitem').2 (hplain item hitem)
          · intro value hlast
            obtain ⟨hmem, n, hstoi, hstored⟩ := last_stored (m := WsConfig.port)
              Item.apply_port (fun h => (Item.apply_keeps h).1) happly hlast
            rw [hport, hstored]
            exact (exact_port_iff hstoi).2 (hplain _ hmem)
          · intro value hlast
            obtain ⟨hmem, n, hstoi, hstored⟩ := last_stored (m := WsConfig.timeoutSecs)
              Item.apply_timeout (fun h => (Item.apply_keeps h).2) happly hlast
            rw [htimeout, hstored]
            exact (exact_timeout_iff hstoi).2 (hplain _ hmem)
        · rw [hthrow] at hs
          cases hs

/-- Port 8080 of a URL and of a command line. -/
theorem numbers_exact_iff_sample :
    Exact (ascii "8080") 8080 ∧
      ∃ s, wsConfig [ascii "webfuse", ascii "--wf-port", ascii "8080"] = .ok s ∧
        Exact (ascii "8080") s.config.port.toNat := by
  obtain ⟨hurl, hconfig⟩ := numbers_exact_iff (ascii "ws://h:8080/")
    [ascii "webfuse", ascii "--wf-port", ascii "8080"]
  refine ⟨(hurl ⟨false, ascii "h", 8080, ascii "/"⟩ (ascii "8080") (by decide +kernel)
    (by decide +kernel)).2 (by decide +kernel), ?_⟩
  cases hrun : wsConfig [ascii "webfuse", ascii "--wf-port", ascii "8080"] with
  | error e =>
      have hreturns : (wsConfig [ascii "webfuse", ascii "--wf-port", ascii "8080"]).isOk := by
        decide +kernel
      rw [hrun] at hreturns
      cases hreturns
  | ok s =>
      have hitems : items none [ascii "--wf-port", ascii "8080"] =
          [.setting .port (ascii "8080")] := by decide +kernel
      have hexact := (hconfig s hrun).2 (by
        rw [List.tail_cons, hitems, List.forall_mem_singleton]
        change IsNumeral (ascii "8080") ∧ decimalValue (ascii "8080") ≤ 65535
        decide +kernel)
      exact ⟨s, rfl, hexact.port (ascii "8080") (by rw [List.tail_cons, hitems]; rfl)⟩

/-- A command line with a negative port and a negative timeout. -/
def negativeArgv : List Bytes :=
  [ascii "webfuse", ascii "--wf-port", ascii "-1", ascii "--wf-timeout", ascii "-1"]

/-- Port 65616 is taken for 80, and so is a port with something behind it; a port of -1 is
65535, and a timeout of -1 the largest there is. -/
theorem numbers_changed :
    (∃ r, wsUrl (ascii "ws://h:65616") = .ok r ∧
      portText (ascii "ws://h:65616") = some (ascii "65616") ∧ r.port = 80 ∧
      ¬ Exact (ascii "65616") r.port.toNat) ∧
    (∃ r, wsUrl (ascii "ws://h:80x/") = .ok r ∧
      portText (ascii "ws://h:80x/") = some (ascii "80x") ∧ r.port = 80 ∧
      ¬ Exact (ascii "80x") r.port.toNat) ∧
    ∃ s, wsConfig negativeArgv = .ok s ∧ s.config.exitCode = EXIT_SUCCESS ∧
      s.config.port = 65535 ∧ s.config.timeoutSecs = 2 ^ 64 - 1 ∧
      ¬ NumbersExact (items none negativeArgv.tail) s.config := by
  refine ⟨⟨⟨false, ascii "h", 80, ascii "/"⟩, by decide +kernel, by decide +kernel, rfl,
    by decide +kernel⟩, ⟨⟨false, ascii "h", 80, ascii "/"⟩, by decide +kernel, by decide +kernel,
    rfl, by decide +kernel⟩, ?_⟩
  have hreturns : (wsConfig negativeArgv).toOption.map (fun s =>
      (s.config.exitCode, s.config.port, s.config.timeoutSecs)) =
        some (EXIT_SUCCESS, 65535, 2 ^ 64 - 1) := by decide +kernel
  cases hrun : wsConfig negativeArgv with
  | error e =>
      rw [hrun] at hreturns
      cases hreturns
  | ok s =>
      rw [hrun] at hreturns
      obtain ⟨hexit, hnumbers⟩ := Prod.mk.inj (Option.some.inj hreturns)
      obtain ⟨hport, htimeout⟩ := Prod.mk.inj hnumbers
      refine ⟨s, rfl, hexit, hport, htimeout, fun hexact => ?_⟩
      have hnumeral := (hexact.port (ascii "-1") (by decide +kernel)).1
      exact absurd hnumeral (by decide)

end Webfuse
