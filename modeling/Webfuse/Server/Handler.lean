/-
# `server_handler`

`src/webfuse/ws/server_handler.cpp`: the state of the service between the
callbacks of libwebsockets, `poll` and the calls of `perform`.  Each callback is
a function of the state that returns the new state and the effects it had, in
the order it had them; `server` is the machine that takes them one at a time.
`mut` and the atomic flag serialize `perform` with the service thread, so an
interleaving is a list of these steps.

What is outside `src/` comes with the event: the header fields libwebsockets
returns, whether a fragment is the last of its message, and the verdict of the
authenticator, which is used when it is asked.  A promise is the number of the
`perform` call that made it.
-/

import Mathlib.Data.List.AList
import Webfuse.Basis.Machine
import Webfuse.Message.Reader
import Webfuse.Message.Writer

namespace Webfuse

open Basis

/-- A `struct lws *`: connections are only compared. -/
abbrev Wsi := ℕ

/-- A `std::promise`, by the number of the `perform` call that made it. -/
abbrev Promise := ℕ

/-- What libwebsockets returns for a header: its length, the length that was
copied, and the content of the buffer afterwards. -/
structure HeaderField where
  length : Int32
  actualLength : Int32
  data : Bytes

/-- The headers of a handshake, as `lws_hdr_*` and `lws_hdr_custom_*` return
them. -/
structure Headers where
  authorization : HeaderField
  xAuthToken : HeaderField
  custom : Bytes → HeaderField

/-- `class server_handler`; `promises` counts the promises made so far. -/
structure ServerHandler where
  connection : Option Wsi
  id : UInt32
  shutdownRequested : Bool
  isAuthenticated : Bool
  authenticator : Bytes
  authHeader : Bytes
  currentMessage : Bytes
  requests : List MessageWriter
  pendingResponses : AList fun _ : UInt32 => Promise
  promises : ℕ

/-- A step of the server: a callback, with what the world answers in it. -/
inductive ServerEvent
  | filterConnection (wsi : Wsi) (headers : Headers) (verdict : Bool)
  | onEstablished (wsi : Wsi)
  | onReceive (wsi : Wsi) (fragment : Bytes) (isFinal verdict : Bool)
  | onWritable
  | onClosed (wsi : Wsi)
  | poll
  | perform (writer : MessageWriter)

/-- What a step does besides changing the state. -/
inductive ServerEffect
  /-- The value the callback returns to libwebsockets. -/
  | returned (code : Int32)
  /-- `lws_callback_on_writable`. -/
  | callbackOnWritable (wsi : Option Wsi)
  /-- The authenticator is asked about a token. -/
  | authenticate (token : Bytes) (verdict : Bool)
  /-- A message is put in the queue, for a promise or for the server itself. -/
  | queued (promise : Option Promise) (writer : MessageWriter)
  /-- A promise is put in `pending_responses`. -/
  | registered (id : UInt32) (promise : Promise)
  /-- `lws_write`. -/
  | write (wsi : Option Wsi) (data : Bytes)
  /-- A complete message is given to a reader. -/
  | dispatched (message : Bytes)
  | setValue (promise : Promise) (reader : MessageReader)
  | setException (promise : Promise) (e : Exn)
  /-- A promise is destroyed without an answer. -/
  | broken (promise : Promise)
deriving DecidableEq

/-! ### Authentication -/

/-- `get_auth_token_of_known_header` and `get_auth_token_from_custom_header`:
the C string in the buffer, when something was copied to it. -/
def HeaderField.token (field : HeaderField) : Bytes :=
  if 0 < field.length then
    if 0 < field.actualLength then field.data.takeWhile (· ≠ 0) else []
  else []

/-- `"authorization"`. -/
def authorization : Bytes :=
  ['a', 'u', 't', 'h', 'o', 'r', 'i', 'z', 'a', 't', 'i', 'o', 'n'].map fun c => c.toNat.toUInt8

/-- `"x-auth-token"`. -/
def xAuthToken : Bytes :=
  ['x', '-', 'a', 'u', 't', 'h', '-', 't', 'o', 'k', 'e', 'n'].map fun c => c.toNat.toUInt8

namespace ServerHandler

/-- `server_handler::server_handler`. -/
def make (authApp authHdr : Bytes) : ServerHandler where
  connection := none
  id := 0
  shutdownRequested := false
  isAuthenticated := false
  authenticator := authApp
  authHeader := authHdr
  currentMessage := []
  requests := []
  pendingResponses := ∅
  promises := 0

variable (s : ServerHandler)

def getAuthToken (headers : Headers) : Bytes :=
  if s.authHeader = authorization then headers.authorization.token
  else if s.authHeader = xAuthToken then headers.xAuthToken.token
  else (headers.custom s.authHeader).token

/-- `authenticate_via_header`. -/
def authenticateViaHeader (headers : Headers) (verdict : Bool) :
    ServerHandler × List ServerEffect :=
  if s.authenticator = [] then
    ({ s with isAuthenticated := true }, [.returned 0])
  else if s.authHeader = [] then
    ({ s with isAuthenticated := false }, [.returned 0])
  else if s.getAuthToken headers = [] then
    ({ s with isAuthenticated := false }, [.returned 0])
  else
    ({ s with isAuthenticated := verdict },
      [.authenticate (s.getAuthToken headers) verdict, .returned (if verdict then 0 else -1)])

/-- `finish_authentication`; a response without credentials throws. -/
def finishAuthentication (wsi : Wsi) (reader : MessageReader) (verdict : Bool) :
    ServerHandler × List ServerEffect :=
  match (readStr : ReadM Unit Bytes) ⟨reader, ()⟩ with
  | .ok credentials _ =>
      if verdict then ({ s with isAuthenticated := true }, [.authenticate credentials true])
      else
        ({ s with shutdownRequested := true },
          [.authenticate credentials false, .callbackOnWritable (some wsi)])
  | .error .. => (s, [])

/-! ### Callbacks -/

def filterConnection (headers : Headers) (verdict : Bool) : ServerHandler × List ServerEffect :=
  s.authenticateViaHeader headers verdict

/-- `next_id`: the id that is handed out is the one the state holds afterwards. -/
def nextId : ServerHandler :=
  { s with id := if s.id + 1 = 0 then 1 else s.id + 1 }

def onEstablished (wsi : Wsi) : ServerHandler × List ServerEffect :=
  match s.connection with
  | none =>
      let s := { s with connection := some wsi, id := 0 }
      if !s.isAuthenticated && s.authenticator ≠ [] then
        let s := s.nextId
        let writer := (MessageWriter.ofRequest .getcreds).setId s.id
        ({ s with requests := s.requests ++ [writer] },
          [.queued none writer, .callbackOnWritable (some wsi), .returned 0])
      else (s, [.returned 0])
  | some _ => (s, [.returned (-1)])

/-- The `try` block of `on_receive`.  A message of less than five bytes throws;
a type byte of `0x97` goes to the authentication, and every other message to
the promise that waits for its id. -/
def dispatch (wsi : Wsi) (message : Bytes) (verdict : Bool) : ServerHandler × List ServerEffect :=
  match (readHeader : ReadM Unit (UInt32 × UInt8)) ⟨⟨message, 0⟩, ()⟩ with
  | .error .. => (s, [])
  | .ok (id, messageType) st =>
      if messageType = ResponseType.getcreds.toByte then
        s.finishAuthentication wsi st.cursor verdict
      else
        match s.pendingResponses.lookup id with
        | some promise =>
            ({ s with pendingResponses := s.pendingResponses.erase id },
              [.setValue promise st.cursor])
        | none => (s, [])

/-- `on_receive`: the message is moved into its reader, so `current_message` is
empty afterwards, also when the reader throws. -/
def onReceive (wsi : Wsi) (fragment : Bytes) (isFinal verdict : Bool) :
    ServerHandler × List ServerEffect :=
  let message := s.currentMessage ++ fragment
  if isFinal then
    let r := { s with currentMessage := [] }.dispatch wsi message verdict
    (r.1, .dispatched message :: r.2)
  else ({ s with currentMessage := message }, [])

def onWritable : ServerHandler × List ServerEffect :=
  if s.shutdownRequested then (s, [.returned (-1)])
  else
    match s.requests with
    | [] => (s, [.returned 0])
    | [writer] =>
        ({ s with requests := [] }, [.write s.connection writer.data, .returned 0])
    | writer :: requests =>
        ({ s with requests := requests },
          [.write s.connection writer.data, .callbackOnWritable s.connection, .returned 0])

def onClosed (wsi : Wsi) : ServerHandler × List ServerEffect :=
  if s.connection = some wsi then
    ({ s with connection := none, isAuthenticated := false, shutdownRequested := false }, [])
  else (s, [])

/-- `poll`: without a connection, what is queued and what is waited for is
dropped, when anything is queued. -/
def poll : ServerHandler × List ServerEffect :=
  if s.requests = [] then (s, [])
  else
    match s.connection with
    | some wsi => (s, [.callbackOnWritable (some wsi)])
    | none =>
        ({ s with requests := [], pendingResponses := ∅ },
          s.pendingResponses.entries.map fun entry => .broken entry.2)

/-- `perform`: `emplace` leaves the map as it is when the key is taken. -/
def perform (writer : MessageWriter) : ServerHandler × List ServerEffect :=
  let promise := s.promises
  let s := { s with promises := s.promises + 1 }
  if s.isAuthenticated then
    let s := s.nextId
    let writer := writer.setId s.id
    let s := { s with requests := s.requests ++ [writer] }
    if s.id ∈ s.pendingResponses then
      (s, [.queued (some promise) writer, .broken promise])
    else
      ({ s with pendingResponses := s.pendingResponses.insert s.id promise },
        [.queued (some promise) writer, .registered s.id promise])
  else (s, [.setException promise ⟨"unauthenticated"⟩])

/-- One step. -/
def step : ServerEvent → ServerHandler × List ServerEffect
  | .filterConnection _ headers verdict => s.filterConnection headers verdict
  | .onEstablished wsi => s.onEstablished wsi
  | .onReceive wsi fragment isFinal verdict => s.onReceive wsi fragment isFinal verdict
  | .onWritable => s.onWritable
  | .onClosed wsi => s.onClosed wsi
  | .poll => s.poll
  | .perform writer => s.perform writer

end ServerHandler

/-- A `server_handler`, made with an authenticator and the header it takes its
token from. -/
def server (authApp authHdr : Bytes) : Machine ServerHandler ServerEvent ServerEffect where
  init := .make authApp authHdr
  step := ServerHandler.step

/-- A step of a run of the server. -/
abbrev ServerEntry := Entry ServerHandler ServerEvent ServerEffect

end Webfuse
