/-
This file holds the browser client: what it does on the calls of the application,
on the events of its sockets and on its timers.
-/

import SecureChat.Construction.Web.Codec
import SecureChat.Library.Machine

namespace SecureChat.Web
open Library Library.JsNumber

inductive ConnectionState where
  | disconnected | connecting | connected | authenticated | reconnecting | error
  deriving DecidableEq, Repr

inductive ReadyState where
  | connecting | open | closing | closed
  deriving DecidableEq, Repr

/-- A socket with the promise of the `connect` call that has made it.
A call by the reconnect timer is tried again when it is rejected. -/
structure Socket where
  readyState : ReadyState
  retries : Bool
  settled : Bool
  timer : Bool
  deriving DecidableEq, Repr

/-- A message with the number of its `sendMessage` call. -/
structure Message where
  call : Nat
  type : Int
  data : List UInt8
  deriving DecidableEq, Repr

/-- The sockets are kept by number, also those that the client has let go. -/
structure SecureChatWebSocket where
  socket : Option Nat
  state : ConnectionState
  reconnectCount : Nat
  reconnectAttempts : Nat
  pendingMessages : List Message
  nextMessageId : Int
  nextCorrelationId : Int
  sockets : List Socket
  reconnectTimers : Nat
  deriving DecidableEq, Repr

/-- A frame that was put on a socket. -/
structure Transmission where
  socket : Nat
  call : Nat
  frame : List UInt8
  deriving DecidableEq, Repr

def msgSystemHeartbeat : Int := 0x00000002
def msgAuthLoginResponse : Int := 0x01000002
def flagResponse : Int := shiftLeft 1 4

namespace SecureChatWebSocket

def create (reconnectAttempts : Nat) : SecureChatWebSocket :=
  ⟨none, .disconnected, 0, reconnectAttempts, [], 1, 1, [], 0⟩

def setState (client : SecureChatWebSocket) (state : ConnectionState) : SecureChatWebSocket :=
  { client with
    state := state
    reconnectCount := if state = .connected then 0 else client.reconnectCount }

def readyState (client : SecureChatWebSocket) (socket : Nat) : Option ReadyState :=
  client.sockets[socket]?.map (·.readyState)

def changeSocket (client : SecureChatWebSocket) (socket : Nat) (change : Socket → Socket) :
    SecureChatWebSocket := { client with sockets := client.sockets.modify socket change }

/-- The header and the data of one message. -/
def messageFrame (type : Int) (data : List UInt8) (messageId correlationId now : Int) : Option (List UInt8) :=
  (ProtocolCodec.serializeHeader {
    magic := 0x53435400
    version := 0x030000
    type := type
    flags := 0
    timestamp := now
    messageId := messageId
    correlationId := correlationId
    bodyLength := data.length
    checksum := ProtocolCodec.calculateChecksum data }).map (· ++ data)

/-- A message waits unless the state is connected.
`send` of a socket throws before its open event and drops the message after its close. -/
def sendMessage (client : SecureChatWebSocket) (clock : Int → Int) (expectResponse : Bool) (message : Message) :
    SecureChatWebSocket × List Transmission :=
  match client.socket with
  | none => ({ client with pendingMessages := client.pendingMessages ++ [message] }, [])
  | some socket =>
      if client.state ≠ .connected then
        ({ client with pendingMessages := client.pendingMessages ++ [message] }, [])
      else
        let correlationId := if expectResponse then client.nextCorrelationId else 0
        let frame := messageFrame message.type message.data client.nextMessageId correlationId
          (clock client.nextMessageId)
        let counted := { client with
          nextMessageId := client.nextMessageId + 1
          nextCorrelationId := client.nextCorrelationId + if expectResponse then 1 else 0 }
        match frame, client.readyState socket with
        | some frame, some .open => (counted, [⟨socket, message.call, frame⟩])
        | _, _ => (counted, [])

/-- Several messages one after the other. -/
def sendAll (client : SecureChatWebSocket) (clock : Int → Int) :
    List (Message × Bool) → SecureChatWebSocket × List Transmission
  | [] => (client, [])
  | (message, expectResponse) :: rest =>
      let (sent, first) := client.sendMessage clock expectResponse message
      let (last, later) := sent.sendAll clock rest
      (last, first ++ later)

/-- The waiting messages are sent again, and no response is expected any more. -/
def flushPendingMessages (client : SecureChatWebSocket) (clock : Int → Int) :
    SecureChatWebSocket × List Transmission :=
  sendAll { client with pendingMessages := [] } clock (client.pendingMessages.map (·, false))

/-- The tests that a received message has to pass. -/
def acceptMessage (rawData : List UInt8) : Option (MessageHeader × List UInt8) := do
  let header ← ProtocolCodec.deserializeHeader (sliceBytes 0 64 rawData)
  if ¬ ProtocolCodec.validateHeader header then none else
  let body := sliceBytes 64 (64 + header.bodyLength.toNat) rawData
  if ProtocolCodec.calculateChecksum body ≠ header.checksum then none else
  some (header, body)

/-- Whether a login response reports success, and has its user and its token. -/
def loginSucceeds (data : List UInt8) : Bool :=
  match getUint 4 0 data, getUint 4 4 data, getUint 8 16 data, getUint 4 24 data with
  | some statusCode, some errorCode, some _, some _ => statusCode == 200 && errorCode == 0
  | _, _, _, _ => false

def handleMessage (client : SecureChatWebSocket) (rawData : List UInt8) : SecureChatWebSocket :=
  match acceptMessage rawData with
  | none => client
  | some (header, body) =>
      if header.type = msgSystemHeartbeat then client
      else if bitAnd header.flags flagResponse ≠ 0 then client
      else if header.type = msgAuthLoginResponse ∧ loginSucceeds body then client.setState .authenticated
      else client

def reconnect (client : SecureChatWebSocket) : SecureChatWebSocket :=
  let counted := { client with reconnectCount := client.reconnectCount + 1 }
  { counted.setState .reconnecting with reconnectTimers := client.reconnectTimers + 1 }

/-- A rejected `connect` call of the reconnect timer. -/
def retry (client : SecureChatWebSocket) : SecureChatWebSocket :=
  if client.reconnectCount < client.reconnectAttempts then client.reconnect else client

/-- Only the first answer of a promise counts. -/
def reject (client : SecureChatWebSocket) (socket : Nat) : SecureChatWebSocket :=
  match client.sockets[socket]? with
  | none => client
  | some old =>
      let answered := client.changeSocket socket ({ · with settled := true })
      if ¬ old.settled ∧ old.retries then answered.retry else answered

/-- A new socket, unless the constructor throws. -/
def connect (client : SecureChatWebSocket) (retries created : Bool) : SecureChatWebSocket :=
  if client.state = .connected ∨ client.state = .connecting then
    if retries then client.retry else client
  else
    let connecting := client.setState .connecting
    if created then
      { connecting with
        socket := some client.sockets.length
        sockets := client.sockets ++ [⟨.connecting, retries, false, true⟩] }
    else
      let failed := connecting.setState .error
      if retries then failed.retry else failed

/-- `close` of a socket that is not closed already. -/
def closeSocket (client : SecureChatWebSocket) (socket : Nat) : SecureChatWebSocket :=
  client.changeSocket socket fun old =>
    { old with readyState := if old.readyState = .closed then .closed else .closing }

def disconnect (client : SecureChatWebSocket) : SecureChatWebSocket :=
  let emptied := { client with pendingMessages := [] }
  let closed := match client.socket with
    | some socket => { emptied.closeSocket socket with socket := none }
    | none => emptied
  closed.setState .disconnected

/-- The state callbacks may call `sendMessage` before the waiting messages are sent. -/
def onopen (client : SecureChatWebSocket) (socket : Nat) (eager : List (Message × Bool)) (clock : Int → Int) :
    SecureChatWebSocket × List Transmission :=
  let opened := client.changeSocket socket ({ · with readyState := .open })
  let (called, first) := (opened.setState .connected).sendAll clock eager
  let (flushed, later) := called.flushPendingMessages clock
  (flushed.changeSocket socket ({ · with settled := true }), first ++ later)

def onerror (client : SecureChatWebSocket) (socket : Nat) : SecureChatWebSocket :=
  (client.setState .error).reject socket

def onclose (client : SecureChatWebSocket) (socket code : Nat) : SecureChatWebSocket :=
  let closed := client.changeSocket socket ({ · with readyState := .closed })
  if code = 1000 ∨ code = 1001 then closed.setState .disconnected
  else if client.reconnectCount < client.reconnectAttempts then closed.reconnect
  else closed.setState .disconnected

/-- The timer that a `connect` call has started. -/
def onConnectTimeout (client : SecureChatWebSocket) (socket : Nat) : SecureChatWebSocket :=
  let fired := client.changeSocket socket ({ · with timer := false })
  if client.state = .connecting then
    let closed := match client.socket with
      | some current => fired.closeSocket current
      | none => fired
    closed.reject socket
  else fired

end SecureChatWebSocket

/-- A call of the application, an event of a socket, or a timer. -/
inductive ClientEvent where
  | connect (created : Bool)
  | reconnectTimer (created : Bool)
  | timeout (socket : Nat)
  | opened (socket : Nat) (eager : List (Int × List UInt8 × Bool)) (clock : Int → Int)
  | message (socket : Nat) (rawData : List UInt8)
  | error (socket : Nat)
  | closed (socket code : Nat)
  | sendMessage (type : Int) (data : List UInt8) (expectResponse : Bool) (clock : Int → Int)
  | disconnect

/-- The messages of several calls, numbered in their order. -/
def numbered : Nat → List (Int × List UInt8 × Bool) → List (Message × Bool)
  | _, [] => []
  | call, (type, data, expectResponse) :: rest =>
      (⟨call, type, data⟩, expectResponse) :: numbered (call + 1) rest

/-- The number of `sendMessage` calls in an event. -/
def ClientEvent.calls : ClientEvent → Nat
  | .opened _ eager _ => eager.length
  | .sendMessage _ _ _ _ => 1
  | _ => 0

/-- An event that its socket cannot have in its state does not happen. -/
def clientStep (client : SecureChatWebSocket) (calls : Nat) :
    ClientEvent → SecureChatWebSocket × List Transmission
  | .connect created => (client.connect false created, [])
  | .reconnectTimer created =>
      if client.reconnectTimers = 0 then (client, [])
      else ({ client with reconnectTimers := client.reconnectTimers - 1 }.connect true created, [])
  | .timeout socket =>
      if client.sockets[socket]?.any (·.timer) then (client.onConnectTimeout socket, []) else (client, [])
  | .opened socket eager clock =>
      if client.readyState socket = some .connecting then client.onopen socket (numbered calls eager) clock
      else (client, [])
  | .message socket rawData =>
      if client.readyState socket = some .open then (client.handleMessage rawData, []) else (client, [])
  | .error socket =>
      if (client.readyState socket).any (· ≠ .closed) then (client.onerror socket, []) else (client, [])
  | .closed socket code =>
      if (client.readyState socket).any (· ≠ .closed) then (client.onclose socket code, []) else (client, [])
  | .sendMessage type data expectResponse clock => client.sendMessage clock expectResponse ⟨calls, type, data⟩
  | .disconnect => (client.disconnect, [])

/-- The client, the number of its `sendMessage` calls so far, and what has reached a socket. -/
structure Session where
  client : SecureChatWebSocket
  calls : Nat
  transmitted : List Transmission
  deriving DecidableEq, Repr

def sessionMachine : Machine Session ClientEvent Transmission where
  step session event :=
    let (client, transmitted) := clientStep session.client session.calls event
    (⟨client, session.calls + event.calls, session.transmitted ++ transmitted⟩, transmitted)

def newSession (reconnectAttempts : Nat) : Session := ⟨.create reconnectAttempts, 0, []⟩

end SecureChat.Web
