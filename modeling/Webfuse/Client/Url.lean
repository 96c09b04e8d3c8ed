/-
# `ws_url`

`src/webfuse/ws/url.cpp`: the URL a client connects to, taken apart by searches for
the first slash and the first colon.  The path is cut off before the port is looked
for, so colons and slashes of the path are left in it.

`UrlParts` says what a URL is rendered from, and `wsUrl_render` that the parts are
found again.
-/

import Webfuse.Util.Text

namespace Webfuse

open Basis

/-- `class ws_url`. -/
structure WsUrl where
  useTls : Bool
  hostname : Bytes
  port : UInt16
  path : Bytes
deriving DecidableEq, Repr

def wsPort : UInt16 := 80
def wssPort : UInt16 := 443

/-- `starts_with`. -/
def startsWith (value start : Bytes) : Bool := findText start value = some 0

/-- `parse_protocol`: what follows the protocol, and whether that is TLS. -/
def parseProtocol (url : Bytes) : Except Exn (Bytes × Bool) :=
  if startsWith url (ascii "ws://") then .ok (url.drop 5, false)
  else if startsWith url (ascii "wss://") then .ok (url.drop 6, true)
  else .error ⟨"unknown protocol"⟩

/-- The constructor's search for the path: what is before it, and the path. -/
def splitPath (remainder : Bytes) : Bytes × Bytes :=
  match find 0x2f remainder with
  | some pathStart => (remainder.take pathStart, remainder.drop pathStart)
  | none => (remainder, ascii "/")

/-- The constructor's search for the port: the port, and the host name. -/
def splitPort (useTls : Bool) (remainder : Bytes) : Except Exn (UInt16 × Bytes) :=
  match find 0x3a remainder with
  | some portStart => do
      let port ← stoi (remainder.drop (portStart + 1))
      return (portOf port, remainder.take portStart)
  | none => return (if useTls then wssPort else wsPort, remainder)

/-- The constructor of `ws_url`. -/
def wsUrl (url : Bytes) : Except Exn WsUrl := do
  let (remainder, useTls) ← parseProtocol url
  let (remainder, path) := splitPath remainder
  let (port, hostname) ← splitPort useTls remainder
  return { useTls, hostname, port, path }

inductive Scheme
  | ws | wss
deriving DecidableEq, Repr

/-- The text of a scheme, up to the host. -/
def Scheme.text : Scheme → Bytes
  | ws => ascii "ws://"
  | wss => ascii "wss://"

def Scheme.useTls : Scheme → Bool
  | ws => false
  | wss => true

def Scheme.defaultPort : Scheme → UInt16
  | ws => 80
  | wss => 443

/-- The parts of a URL: the host has no separator in it, and a path that is there
starts with a slash. -/
structure UrlParts where
  scheme : Scheme
  host : Bytes
  port : Option UInt16
  path : Option Bytes
  host_no_slash : 0x2f ∉ host
  host_no_colon : 0x3a ∉ host
  path_rooted : ∀ p ∈ path, p.head? = some 0x2f

/-- Host and port, as they stand in the URL. -/
def UrlParts.authority (u : UrlParts) : Bytes :=
  u.host ++ u.port.elim [] fun port => 0x3a :: decimal port.toNat

/-- `scheme://host[:port][path]`. -/
def UrlParts.render (u : UrlParts) : Bytes := u.scheme.text ++ u.authority ++ u.path.getD []

theorem startsWith_iff (value start : Bytes) : startsWith value start = true ↔ start <+: value := by
  unfold startsWith
  rw [decide_eq_true_iff, findText_eq_zero_iff]

/-- A scheme is recognized. -/
theorem parseProtocol_text (scheme : Scheme) (rest : Bytes) :
    parseProtocol (scheme.text ++ rest) = .ok (rest, scheme.useTls) := by
  have hstart : startsWith (scheme.text ++ rest) scheme.text = true :=
    (startsWith_iff _ _).2 (List.prefix_append ..)
  unfold parseProtocol
  cases scheme with
  | ws =>
      rw [show ascii "ws://" = Scheme.ws.text from rfl, if_pos hstart]
      rfl
  | wss =>
      -- the third letter tells the schemes apart
      have hws : ¬ startsWith (Scheme.wss.text ++ rest) (ascii "ws://") = true := by
        rw [startsWith_iff]
        rintro ⟨tail, htail⟩
        have hthird : some (0x3a : UInt8) = some 0x73 := congrArg (fun l => l[2]?) htail
        exact absurd hthird (by decide)
      rw [if_neg hws, show ascii "wss://" = Scheme.wss.text from rfl, if_pos hstart]
      rfl

/-- Neither host nor port has a slash. -/
theorem UrlParts.slash_not_mem_authority (u : UrlParts) : 0x2f ∉ u.authority := by
  unfold authority
  rw [List.mem_append, not_or]
  refine ⟨u.host_no_slash, ?_⟩
  cases hport : u.port with
  | none => exact List.not_mem_nil
  | some port =>
      rw [Option.elim_some, List.mem_cons, not_or]
      refine ⟨by decide, fun hmem => ?_⟩
      exact absurd (isDigit_of_mem_decimal hmem) (by decide)

/-- The path is cut off behind host and port. -/
theorem UrlParts.splitPath_eq (u : UrlParts) :
    splitPath (u.authority ++ u.path.getD []) = (u.authority, u.path.getD [0x2f]) := by
  unfold splitPath
  cases hpath : u.path with
  | none =>
      rw [Option.getD_none, List.append_nil, find_eq_none _ u.slash_not_mem_authority]
      rfl
  | some path =>
      obtain ⟨rest, rfl⟩ := List.head?_eq_some_iff.1 (u.path_rooted path hpath)
      rw [Option.getD_some, find_append _ u.slash_not_mem_authority]
      dsimp only
      rw [List.take_left, List.drop_left, Option.getD_some]

/-- Port and host are told apart, and a port that is not there is that of the scheme. -/
theorem UrlParts.splitPort_eq (u : UrlParts) :
    splitPort u.scheme.useTls u.authority = .ok (u.port.getD u.scheme.defaultPort, u.host) := by
  unfold splitPort authority
  cases hport : u.port with
  | none =>
      rw [Option.elim_none, List.append_nil, find_eq_none _ u.host_no_colon]
      cases u.scheme <;> rfl
  | some port =>
      have hdrop : (u.host ++ 0x3a :: decimal port.toNat).drop (u.host.length + 1) =
          decimal port.toNat := by
        rw [List.drop_append]
        simp
      rw [Option.elim_some, find_append _ u.host_no_colon]
      dsimp only
      rw [hdrop, stoi_port, List.take_left]
      exact congrArg (fun p => Except.ok (p, u.host)) (portOf_ofNat port)

/-- **A URL is taken apart into what it was rendered from.** -/
theorem wsUrl_render (u : UrlParts) :
    wsUrl u.render = .ok
      { useTls := u.scheme.useTls
        hostname := u.host
        port := u.port.getD u.scheme.defaultPort
        path := u.path.getD [0x2f] } := by
  have hprotocol := parseProtocol_text u.scheme (u.authority ++ u.path.getD [])
  rw [← List.append_assoc] at hprotocol
  unfold wsUrl UrlParts.render
  simp only [hprotocol, u.splitPath_eq, u.splitPort_eq, bind, Except.bind]
  rfl

example : wsUrl (ascii "wss://host:8080/a:1/b") =
    .ok ⟨true, ascii "host", 8080, ascii "/a:1/b"⟩ := by decide

end Webfuse
