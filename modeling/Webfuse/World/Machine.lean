/-
# The service and its provider

The two programs and what is between them, as one machine: the `server_handler` of
the service, the `ws_client` of a provider, and the messages that are on their way.
Threads of the service call `perform` at any time; everything else is the network's
doing, and happens in any order.

The connection is what a WebSocket is: the messages of each direction arrive in the
order they were written, each in any number of pieces, of which the last is marked.
The ends of a connection see its end at different times.  What is on its way to an end
that is closed is lost, and a provider connects again only when both ends are closed.
Other clients may send handshakes and are not let in.
-/

import Webfuse.Basis.Channel
import Webfuse.Client.Callback
import Webfuse.Server.Exchange
import Webfuse.Service.Filesystem

namespace Webfuse

open Basis

variable {σ : Type}

/-- The service, the provider with its connection, and the messages on their way
between them. -/
structure World (σ : Type) where
  server : ServerHandler
  client : ClientContext σ
  wsi : Option ℕ
  toProvider : List Bytes
  toService : List Bytes

inductive WorldEvent
  /-- A method of the service calls `perform`. -/
  | perform (call : FsCall)
  | poll
  /-- The handshake of any client. -/
  | filterConnection (wsi : Wsi) (headers : Headers) (verdict : Bool)
  /-- A connection, with the `wsi` of the service and that of the provider. -/
  | connect (wsi : Wsi) (wsi' : ℕ)
  /-- The service is told that it can write. -/
  | writable
  /-- The provider is told that it can write. -/
  | writeable
  /-- The next bytes of a request, or all that are left of it. -/
  | deliverRequest (size : ℕ) (isFinal : Bool)
  /-- The next bytes of a response, or all that are left of it. -/
  | deliverResponse (size : ℕ) (isFinal verdict : Bool)
  /-- The service sees the end of the connection. -/
  | serverClosed
  /-- The provider sees the end of the connection. -/
  | clientClosed

inductive WorldEffect
  | server (o : ServerEffect)
  | client (o : ClientEffect)

def ClientEffect.written? : ClientEffect → Option Bytes
  | write _ data => some data
  | _ => none

/-- The bytes that arrive and what is left on its way. -/
def delivered (size : ℕ) (isFinal : Bool) (channel : List Bytes) : Bytes × List Bytes :=
  if isFinal then lastPiece channel else piece size channel

namespace World

variable (w : World σ)

/-- A step of the service.  What it writes is on its way while the provider is there. -/
def onServer (e : ServerEvent) : World σ × List WorldEffect :=
  let r := w.server.step e
  ({ w with
      server := r.1
      toProvider :=
        if w.wsi.isSome then w.toProvider ++ r.2.filterMap ServerEffect.written?
        else w.toProvider },
    r.2.map .server)

/-- A step of the provider.  What it writes is on its way while the service is there. -/
def onClient (handler : Bytes → EStateM Exn σ MessageWriter) (e : ClientEvent) :
    World σ × List WorldEffect :=
  let r := w.client.callback handler e
  ({ w with
      client := r.1
      toService :=
        if w.server.connection.isSome then w.toService ++ r.2.filterMap ClientEffect.written?
        else w.toService },
    r.2.map .client)

/-- Both ends of a new connection, with nothing on its way. -/
def connect (handler : Bytes → EStateM Exn σ MessageWriter) (wsi : Wsi) (wsi' : ℕ) :
    World σ × List WorldEffect :=
  let r := { w with toProvider := [], toService := [] }.onServer (.onEstablished wsi)
  let r' := { r.1 with wsi := some wsi' }.onClient handler (.established wsi')
  (r'.1, r.2 ++ r'.2)

/-- One step; an event that cannot happen changes nothing.  `get_credentials` of the
service throws before it sends anything. -/
def step (handler : Bytes → EStateM Exn σ MessageWriter) : WorldEvent → World σ × List WorldEffect
  | .perform call =>
      if call = .getCredentials then (w, []) else w.onServer (.perform call.request)
  | .poll => w.onServer .poll
  | .filterConnection wsi headers verdict => w.onServer (.filterConnection wsi headers verdict)
  | .connect wsi wsi' =>
      if w.server.connection = none ∧ w.wsi = none then w.connect handler wsi wsi' else (w, [])
  | .writable => if w.server.connection = none then (w, []) else w.onServer .onWritable
  | .writeable =>
      match w.wsi with
      | none => (w, [])
      | some wsi => w.onClient handler (.writeable wsi)
  | .deliverRequest size isFinal =>
      match w.wsi with
      | none => (w, [])
      | some wsi =>
          if w.toProvider = [] then (w, [])
          else
            let d := delivered size isFinal w.toProvider
            { w with toProvider := d.2 }.onClient handler (.receive wsi d.1 isFinal)
  | .deliverResponse size isFinal verdict =>
      match w.server.connection with
      | none => (w, [])
      | some wsi =>
          if w.toService = [] then (w, [])
          else
            let d := delivered size isFinal w.toService
            { w with toService := d.2 }.onServer (.onReceive wsi d.1 isFinal verdict)
  | .serverClosed =>
      match w.server.connection with
      | none => (w, [])
      | some wsi => { w with toService := [] }.onServer (.onClosed wsi)
  | .clientClosed =>
      match w.wsi with
      | none => (w, [])
      | some wsi => { w with toProvider := [], wsi := none }.onClient handler (.closed wsi)

end World

/-- The service with its authenticator and the header it takes a token from, and a
provider whose filesystem starts in the state `s`. -/
def world (p : Provider σ) (s : σ) (authApp authHdr : Bytes) :
    Machine (World σ) WorldEvent WorldEffect where
  init := ⟨.make authApp authHdr, ⟨[], [], s⟩, none, [], []⟩
  step w e := w.step p.handler e

/-- A step of a run of both. -/
abbrev WorldEntry (σ : Type) := Entry (World σ) WorldEvent WorldEffect

end Webfuse
