/-
This file holds the message path of the chat client in JavaScript,
from `sendMessage` to the dispatch in `processMessage`, and its attempts to connect.
-/

import SecureChat.Construction.Web.Codec
import SecureChat.Library.Machine

namespace SecureChat.Web
open Library Library.JsNumber

/-- The values that `JSON.stringify` and `JSON.parse` work on. -/
inductive JsonValue (Number Text : Type) where
  | null
  | bool (value : Bool)
  | number (value : Number)
  | string (value : Text)
  | array (elements : List (JsonValue Number Text))
  | object (entries : List (Text × JsonValue Number Text))

/-- What the client takes from its platform and from its security manager.
Numbers and texts are left open. -/
structure Platform (Number Text : Type) where
  nonzero : Number → Bool
  nonempty : Text → Bool
  stringify : JsonValue Number Text → Text
  parse : Text → Option (JsonValue Number Text)
  encode : Text → List UInt8
  decode : List UInt8 → Text
  decryptMessage : Text → Option Text

/-- An argument of `calculateChecksum`. -/
inductive BinaryData where
  | arrayBuffer (bytes : List UInt8)
  | uint8Array (bytes : List UInt8)
  deriving DecidableEq, Repr

/-- What becomes of a received message: it is refused, or its body is handed to the dispatch. -/
inductive Processing (Number Text : Type) where
  | refused
  | dispatched (header : MessageHeader) (body : JsonValue Number Text)

def flagEncrypted : Int := shiftLeft 1 0

/-- A view is only made on an array buffer. On a typed array the constructor of the view throws. -/
def checksumOf : BinaryData → Option Int
  | .arrayBuffer bytes => some (ProtocolCodec.calculateChecksum bytes)
  | .uint8Array _ => none

namespace ChatClient

variable {Number Text : Type} (platform : Platform Number Text)

/-- The test that `if` makes on a value. -/
def truthy : JsonValue Number Text → Bool
  | .null => false
  | .bool value => value
  | .number value => platform.nonzero value
  | .string value => platform.nonempty value
  | .array _ => true
  | .object _ => true

/-- The bytes that `sendMessage` puts on an open socket when it does not encrypt. -/
def sendMessage (type flags correlationId : Int) (data : JsonValue Number Text) (messageId timestamp : Int) :
    Option (List UInt8) := do
  let header : MessageHeader := {
    magic := 0x53435400
    version := bitOr (bitOr (shiftLeft 3 16) (shiftLeft 0 8)) 0
    type := type
    flags := flags
    timestamp := timestamp
    messageId := messageId
    correlationId := correlationId
    bodyLength := 0
    checksum := 0 }
  if truthy platform data then
    let bodyData := ProtocolCodec.serializeString platform.encode (platform.stringify data) 65535
    let header := { header with bodyLength := bodyData.length }
    let headerBuffer ← ProtocolCodec.serializeHeader header
    -- The checksum is asked for a typed array.
    let checksum ← checksumOf (.uint8Array (headerBuffer ++ bodyData))
    let finalHeader ← ProtocolCodec.serializeHeader { header with checksum := checksum }
    some (finalHeader ++ bodyData)
  else
    let headerBuffer ← ProtocolCodec.serializeHeader header
    let checksum ← checksumOf (.arrayBuffer headerBuffer)
    ProtocolCodec.serializeHeader { header with checksum := checksum }

def processMessage (header : MessageHeader) (bodyData : Option (List UInt8)) : Processing Number Text :=
  match bodyData with
  | none => .dispatched header .null
  | some bodyData =>
      let bodyText := platform.decode bodyData
      let decrypted := if bitAnd header.flags flagEncrypted ≠ 0 then platform.decryptMessage bodyText
        else some bodyText
      match decrypted.bind platform.parse with
      | none => .refused
      | some body => .dispatched header body

def handleBinaryMessage (buffer : List UInt8) : Processing Number Text :=
  match ProtocolCodec.deserializeHeader (sliceBytes 0 64 buffer) with
  | none => .refused
  | some header =>
      if ¬ ProtocolCodec.validateHeader header then .refused
      -- The checksum is taken of the whole message, with the checksum in it.
      else if checksumOf (.arrayBuffer buffer) ≠ some header.checksum then .refused
      else
        processMessage platform header
          (if header.bodyLength > 0 then some (sliceBytes 64 (64 + header.bodyLength.toNat) buffer) else none)

end ChatClient

/-- How far a socket of the browser is. -/
inductive SocketPhase where
  | connecting | open | closing | closed
  deriving DecidableEq, Repr

def maxReconnectAttempts : Nat := 5

def reconnectDelay : Nat := 1000

/-- The socket of the client, all sockets that it made, and the timers that have not fired. -/
structure ChatConnection where
  ws : Option Nat
  sockets : List SocketPhase
  isConnected : Bool
  reconnectAttempts : Nat
  reconnectTimers : List Nat
  connectTimers : Nat
  deriving DecidableEq, Repr

/-- What the browser and the user do. The constructor of a socket may throw. -/
inductive ConnectionEvent where
  | connect (constructs : Bool)
  | disconnect
  | opened (socket : Nat)
  | errored (socket : Nat)
  | closed (socket : Nat) (code : Nat)
  | reconnect (index : Nat) (constructs : Bool)
  | connectTimeout
  deriving DecidableEq, Repr

/-- The sockets and timers that are made, and what the listeners are told. -/
inductive ConnectionOutput where
  | created
  | scheduled (delay : Nat)
  | reconnectFailed
  | connectionError
  | connected
  | disconnected (byUser : Bool)
  deriving DecidableEq, Repr

namespace ChatConnection

def scheduleReconnect (client : ChatConnection) : ChatConnection × List ConnectionOutput :=
  if client.reconnectAttempts ≥ maxReconnectAttempts then (client, [.reconnectFailed])
  else
    let reconnectAttempts := client.reconnectAttempts + 1
    let delay := reconnectDelay * 2 ^ (reconnectAttempts - 1)
    ({ client with
        reconnectAttempts := reconnectAttempts
        reconnectTimers := client.reconnectTimers ++ [min delay 30000] }, [.scheduled (min delay 30000)])

def handleError (client : ChatConnection) : ChatConnection × List ConnectionOutput :=
  let (client, outputs) := client.scheduleReconnect
  (client, .connectionError :: outputs)

/-- Only an open connection keeps the client from making a socket. -/
def connect (client : ChatConnection) (constructs : Bool) : ChatConnection × List ConnectionOutput :=
  if client.isConnected then (client, [])
  else if constructs then
    ({ client with
        ws := some client.sockets.length
        sockets := client.sockets ++ [.connecting]
        connectTimers := client.connectTimers + 1 }, [.created])
  else client.handleError

/-- A socket that is closed goes through its closing handshake, and its last event is still to come. -/
def closeSocket (client : ChatConnection) (socket : Nat) : ChatConnection :=
  { client with sockets := client.sockets.modify socket fun phase => if phase = .closed then .closed else .closing }

/-- The timers stay. -/
def disconnect (client : ChatConnection) : ChatConnection × List ConnectionOutput :=
  let closed := match client.ws with
    | some socket => { client.closeSocket socket with ws := none }
    | none => client
  ({ closed with isConnected := false, reconnectAttempts := 0 }, [.disconnected true])

def handleOpen (client : ChatConnection) : ChatConnection × List ConnectionOutput :=
  ({ client with isConnected := true, reconnectAttempts := 0 }, [.connected])

def handleClose (client : ChatConnection) (code : Nat) : ChatConnection × List ConnectionOutput :=
  let left := { client with isConnected := false }
  if code ≠ 1000 ∧ code ≠ 1001 then
    let (client, outputs) := left.scheduleReconnect
    (client, .disconnected false :: outputs)
  else (left, [.disconnected false])

/-- The timer looks at the socket of the client, which need not be the one that it was set for. -/
def handleConnectTimeout (client : ChatConnection) : ChatConnection × List ConnectionOutput :=
  match client.ws with
  | none => (client, [])
  | some socket =>
      if client.sockets[socket]? = some .connecting then (client.closeSocket socket).handleError
      else (client, [])

end ChatConnection

def connectionMachine : Machine ChatConnection ConnectionEvent ConnectionOutput where
  step client event :=
    match event with
    | .connect constructs => client.connect constructs
    | .disconnect => client.disconnect
    | .opened socket =>
        if client.sockets[socket]? = some .connecting then
          { client with sockets := client.sockets.set socket .open }.handleOpen
        else (client, [])
    | .errored socket =>
        if client.sockets[socket]?.all (· = .closed) then (client, []) else client.handleError
    | .closed socket code =>
        if client.sockets[socket]?.all (· = .closed) then (client, [])
        else { client with sockets := client.sockets.set socket .closed }.handleClose code
    | .reconnect index constructs =>
        if index < client.reconnectTimers.length then
          let fired := { client with reconnectTimers := client.reconnectTimers.eraseIdx index }
          if fired.isConnected then (fired, []) else fired.connect constructs
        else (client, [])
    | .connectTimeout =>
        if client.connectTimers = 0 then (client, [])
        else { client with connectTimers := client.connectTimers - 1 }.handleConnectTimeout

end SecureChat.Web
