/-
# `webfuse_client_callback`

`src/webfuse/ws/client.cpp`: the provider's side of a connection.  A message is
put together from its fragments, handed to the handler, and the response is
queued until libwebsockets says that it can be written.  When the handler throws
there is no response.  When a connection ends, what is queued and what there is
of a message is dropped.

The handler is a parameter, a computation on a state of its own; the handler of a
provider is `Provider.handler`.  `connection` is set by libwebsockets and read by
nothing, so it is left out.
-/

import Webfuse.Basis.Machine
import Webfuse.Provider.OnMessage

namespace Webfuse

open Basis

variable {σ : Type}

/-- `struct user_data`, with the state of the handler. -/
structure ClientContext (σ : Type) where
  currentMessage : Bytes
  requests : List MessageWriter
  state : σ

/-- The reasons for which the callback is called and that it knows. -/
inductive ClientEvent
  | established (wsi : ℕ)
  | connectionError (wsi : ℕ)
  | closed (wsi : ℕ)
  | receive (wsi : ℕ) (fragment : Bytes) (isFinal : Bool)
  | writeable (wsi : ℕ)

/-- What the callback does besides changing its context. -/
inductive ClientEffect
  | connectionListener (connected : Bool)
  | callbackOnWritable (wsi : ℕ)
  | write (wsi : ℕ) (data : Bytes)
deriving DecidableEq

namespace ClientContext

variable (context : ClientContext σ)

/-- `LWS_CALLBACK_CLIENT_CONNECTION_ERROR` and `LWS_CALLBACK_CLIENT_CLOSED`. -/
def onClosed : ClientContext σ × List ClientEffect :=
  ({ context with requests := [], currentMessage := [] }, [.connectionListener false])

/-- `LWS_CALLBACK_CLIENT_RECEIVE`: the message is moved into its reader, so
`current_message` is empty afterwards, also when the handler throws. -/
def onReceive (handler : Bytes → EStateM Exn σ MessageWriter) (wsi : ℕ) (fragment : Bytes)
    (isFinal : Bool) : ClientContext σ × List ClientEffect :=
  let message := context.currentMessage ++ fragment
  if isFinal then
    match handler message context.state with
    | .ok writer state =>
        (⟨[], context.requests ++ [writer], state⟩, [.callbackOnWritable wsi])
    | .error _ state => (⟨[], context.requests, state⟩, [])
  else ({ context with currentMessage := message }, [])

/-- `LWS_CALLBACK_CLIENT_WRITEABLE`. -/
def onWriteable (wsi : ℕ) : ClientContext σ × List ClientEffect :=
  match context.requests with
  | [] => (context, [])
  | [writer] => ({ context with requests := [] }, [.write wsi writer.data])
  | writer :: requests =>
      ({ context with requests := requests }, [.write wsi writer.data, .callbackOnWritable wsi])

/-- `webfuse_client_callback`. -/
def callback (handler : Bytes → EStateM Exn σ MessageWriter) :
    ClientEvent → ClientContext σ × List ClientEffect
  | .established _ => (context, [.connectionListener true])
  | .connectionError _ => context.onClosed
  | .closed _ => context.onClosed
  | .receive wsi fragment isFinal => context.onReceive handler wsi fragment isFinal
  | .writeable wsi => context.onWriteable wsi

end ClientContext

/-- A `ws_client` with its handler, in the state it starts in. -/
def wsClient (handler : Bytes → EStateM Exn σ MessageWriter) (state : σ) :
    Machine (ClientContext σ) ClientEvent ClientEffect where
  init := ⟨[], [], state⟩
  step context e := context.callback handler e

/-- A step of a run of the client. -/
abbrev ClientEntry (σ : Type) := Entry (ClientContext σ) ClientEvent ClientEffect

end Webfuse
