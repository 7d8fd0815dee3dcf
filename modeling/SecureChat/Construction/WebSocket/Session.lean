/-
This file runs the worker thread of the WebSocket server for one client.
-/

import SecureChat.Construction.WebSocket.Frame
import SecureChat.Library.Machine
import SecureChat.Library.Memory

namespace SecureChat.WebSocket
open Library

def wsStatusNormalClosure : Nat := 1000
def wsStatusAbnormalClosure : Nat := 1006
def wsStatusMessageTooBig : Nat := 1009

structure WebsocketConfig where
  maxMessageSize : UInt32
  bufferSize : Nat

structure WebsocketStats where
  messagesReceived : Nat
  bytesReceived : Nat
  pongCount : Nat

/-- The server fields that the worker reads. A callback field says whether one is set. -/
structure WebsocketServer where
  config : WebsocketConfig
  onMessage : Bool
  onBinary : Bool
  stats : WebsocketStats

inductive WebsocketConnectionState where
  | connecting | open | closing | closed | error
  deriving DecidableEq, Repr

structure WebsocketClient where
  clientId : Nat
  state : WebsocketConnectionState
  messageBuffer : List UInt8
  messageLength : Nat
  messageCapacity : Nat
  opcode : UInt8
  messageComplete : Bool
  fragmentSize : Nat
  messagesReceived : Nat
  bytesReceived : Nat
  lastActivity : Nat
  lastPongReceived : Nat

/-- The client is zeroed and gets a message buffer of 4096 arbitrary bytes. -/
def createClient (clientId now : Nat) : WebsocketClient where
  clientId := clientId
  state := .connecting
  messageBuffer := List.replicate 4096 0
  messageLength := 0
  messageCapacity := 4096
  opcode := 0
  messageComplete := false
  fragmentSize := 0
  messagesReceived := 0
  bytesReceived := 0
  lastActivity := now
  lastPongReceived := 0

/-- The handshake opens a client that was just created. -/
def openClient (clientId now : Nat) : WebsocketClient :=
  { createClient clientId now with state := .open }

structure WebsocketMessage where
  opcode : UInt8
  data : List UInt8
  clientId : Nat
  timestamp : Nat
  isFinal : Bool
  deriving DecidableEq, Repr

/-- The calls that the worker makes out of the frame code. -/
inductive SessionEvent where
  | onMessage (message : WebsocketMessage)
  | onBinary (data : List UInt8)
  | send (bytes : List UInt8)
  | removeClient (statusCode : Nat) (reason : List UInt8)
  deriving DecidableEq, Repr

/-- One decoded frame. -/
structure Frame where
  fin : Bool
  opcode : UInt8
  payload : List UInt8
  deriving DecidableEq, Repr

/-- The clock and the answer of `realloc` during one call. -/
structure Tick where
  now : Nat
  reallocOk : Bool
  deriving DecidableEq, Repr

/-- A call returns a code. The client is absent once it has been removed and freed. -/
structure Outcome where
  result : Int
  server : WebsocketServer
  client : Option WebsocketClient
  events : List SessionEvent

def asciiBytes (text : String) : List UInt8 := text.toList.map fun char => UInt8.ofNat char.toNat

/-- The worker already holds the mutex that `remove_client` locks.
The call is recorded here, and the client takes no further part. -/
def removed (server : WebsocketServer) (result : Int) (statusCode : Nat) (reason : List UInt8) :
    Outcome :=
  ⟨result, server, none, [.removeClient statusCode reason]⟩

def countMessage (server : WebsocketServer) : WebsocketServer :=
  { server with stats := { server.stats with messagesReceived := server.stats.messagesReceived + 1 } }

/-- A complete message goes to the message callback and, if it is binary, to the binary callback. -/
def deliver (server : WebsocketServer) (client : WebsocketClient) (opcode : UInt8)
    (data : List UInt8) (now : Nat) : List SessionEvent :=
  (if server.onMessage then [.onMessage ⟨opcode, data, client.clientId, now, true⟩] else []) ++
    if opcode = wsOpcodeBinary ∧ server.onBinary then [.onBinary data] else []

/-- The message buffer grows only when its capacity is below the size it has to hold. -/
def reserve (client : WebsocketClient) (size : Nat) (tick : Tick) : Option WebsocketClient :=
  if client.messageCapacity < size then
    if tick.reallocOk then
      some { client with
        messageBuffer := realloc 0 client.messageBuffer size
        messageCapacity := size }
    else none
  else some client

/-- A complete data frame is delivered from the receive buffer. -/
def completeMessage (server : WebsocketServer) (client : WebsocketClient) (frame : Frame)
    (tick : Tick) : Outcome where
  result := 0
  server := countMessage server
  client := some { client with messagesReceived := client.messagesReceived + 1 }
  events := deliver server client frame.opcode frame.payload tick.now

/-- The first fragment sets the opcode before it asks for memory. -/
def startFragments (server : WebsocketServer) (client : WebsocketClient) (frame : Frame)
    (tick : Tick) : Outcome :=
  let started := { client with opcode := frame.opcode, messageComplete := false, fragmentSize := 0 }
  match reserve started frame.payload.length tick with
  | none => ⟨-1, server, some started, []⟩
  | some ready =>
      ⟨0, server, some { ready with
        messageBuffer := memcpy ready.messageBuffer 0 frame.payload
        messageLength := frame.payload.length
        fragmentSize := frame.payload.length }, []⟩

/-- The message behind the last fragment is delivered and the fragment state is reset. -/
def finishFragments (server : WebsocketServer) (client : WebsocketClient) (tick : Tick) : Outcome where
  result := 0
  server := countMessage server
  client := some { client with
    messagesReceived := client.messagesReceived + 1
    messageLength := 0
    fragmentSize := 0
    messageComplete := true }
  events := deliver server client client.opcode (client.messageBuffer.take client.messageLength) tick.now

/-- A continuation frame is appended without a look at `messageComplete`. -/
def continueFragments (server : WebsocketServer) (client : WebsocketClient) (frame : Frame)
    (tick : Tick) : Outcome :=
  match reserve client (client.messageLength + frame.payload.length) tick with
  | none => ⟨-1, server, some client, []⟩
  | some ready =>
      let appended := { ready with
        messageBuffer := memcpy ready.messageBuffer ready.messageLength frame.payload
        messageLength := ready.messageLength + frame.payload.length
        fragmentSize := ready.fragmentSize + frame.payload.length }
      if frame.fin then finishFragments server appended tick else ⟨0, server, some appended, []⟩

/-- The status code and the reason of a close frame, cut to the 256-byte buffer. -/
def closeReason (payload : List UInt8) : Nat × List UInt8 :=
  if 2 ≤ payload.length then
    ((payload.getD 0 0).toNat <<< 8 ||| (payload.getD 1 0).toNat, (payload.drop 2).take 255)
  else (wsStatusNormalClosure, [])

/-- The switch over the opcode. -/
def dispatchFrame (server : WebsocketServer) (client : WebsocketClient) (frame : Frame)
    (tick : Tick) : Outcome :=
  if frame.opcode = wsOpcodeText ∨ frame.opcode = wsOpcodeBinary then
    if frame.fin then completeMessage server client frame tick
    else startFragments server client frame tick
  else if frame.opcode = wsOpcodeContinuation then continueFragments server client frame tick
  else if frame.opcode = wsOpcodePing then ⟨0, server, some client, [.send [0x8A, 0x00]]⟩
  else if frame.opcode = wsOpcodePong then
    ⟨0, { server with stats := { server.stats with pongCount := server.stats.pongCount + 1 } },
      some { client with lastPongReceived := tick.now }, []⟩
  else if frame.opcode = wsOpcodeClose then
    removed server 0 (closeReason frame.payload).1 (closeReason frame.payload).2
  else ⟨0, server, some client, []⟩

/-- The limit is tested against the payload of one frame. -/
def processFrame (server : WebsocketServer) (client : WebsocketClient) (frame : Frame)
    (tick : Tick) : Outcome :=
  if server.config.maxMessageSize.toNat < frame.payload.length then
    removed server (-1) wsStatusMessageTooBig (asciiBytes "Message too large")
  else dispatchFrame server client frame tick

/-- The limit keeps the last sum far below the range of `size_t`. -/
def processWebsocketFrame (server : WebsocketServer) (client : WebsocketClient)
    (data : List UInt8) (tick : Tick) : Outcome :=
  if data.length < 2 then ⟨-1, server, some client, []⟩ else
  let header := headerOf data
  match extendedLength data header with
  | none => ⟨-1, server, some client, []⟩
  | some (payloadLen, offset) =>
      if server.config.maxMessageSize.toNat < payloadLen then
        removed server (-1) wsStatusMessageTooBig (asciiBytes "Message too large")
      else if header.mask ∧ data.length < offset + 4 then ⟨-1, server, some client, []⟩ else
      let payloadOffset := if header.mask then offset + 4 else offset
      if data.length < payloadOffset + payloadLen then ⟨-1, server, some client, []⟩ else
      let payload := (data.drop payloadOffset).take payloadLen
      let key := (data.drop offset).take 4
      dispatchFrame server client
        ⟨header.fin, header.opcode, if header.mask then applyMask key payload else payload⟩ tick

/-- What one `recv` or `SSL_read` call returns. -/
inductive RecvResult where
  | data (bytes : List UInt8)
  | closed
  | again
  | failed
  deriving DecidableEq, Repr

/-- One client of a running server. The client is absent after its removal. -/
structure Session where
  server : WebsocketServer
  client : Option WebsocketClient

/-- The worker counts the bytes of a chunk after the frame code has seen them. -/
def countBytes (outcome : Outcome) (length : Nat) : Session where
  server := { outcome.server with stats := { outcome.server.stats with
    bytesReceived := outcome.server.stats.bytesReceived + length } }
  client := outcome.client.map fun client =>
    { client with bytesReceived := client.bytesReceived + length }

/-- The worker selects open clients only.
It hands each chunk to the frame code once and keeps nothing of it. -/
def workerRead (session : Session) (input : RecvResult × Tick) : Session × List SessionEvent :=
  match session.client with
  | none => (session, [])
  | some client =>
      if client.state ≠ .open then (session, []) else
      match input.1 with
      | .data bytes =>
          let active := { client with lastActivity := input.2.now }
          let outcome := processWebsocketFrame session.server active bytes input.2
          (countBytes outcome bytes.length, outcome.events)
      | .closed =>
          ({ session with client := none },
            [.removeClient wsStatusNormalClosure (asciiBytes "Connection closed")])
      | .again => (session, [])
      | .failed =>
          ({ session with client := none },
            [.removeClient wsStatusAbnormalClosure (asciiBytes "Read error")])

/-- The worker loop as it serves one client. -/
def workerMachine : Machine Session (RecvResult × Tick) SessionEvent := ⟨workerRead⟩

/-- A session that is fed with decoded frames. -/
def receiveFrame (session : Session) (input : Frame × Tick) : Session × List SessionEvent :=
  match session.client with
  | none => (session, [])
  | some client =>
      (⟨(processFrame session.server client input.1 input.2).server,
        (processFrame session.server client input.1 input.2).client⟩,
        (processFrame session.server client input.1 input.2).events)

def frameMachine : Machine Session (Frame × Tick) SessionEvent := ⟨receiveFrame⟩

/-- The opcode and the payload of each call of the message callback. -/
def delivery : SessionEvent → Option (UInt8 × List UInt8)
  | .onMessage message => some (message.opcode, message.data)
  | _ => none

end SecureChat.WebSocket
