/-
This file holds the connection of the chat client in JavaScript, and the queue of the messages
that are sent without one.
-/

import SecureChat.Construction.Web.ChatClient
import SecureChat.Construction.Web.WebSocketClient

namespace SecureChat.Web
open Library Library.JsNumber

/-- What the client also takes from its security manager, if it has one, and what it sends first. -/
structure ChatPlatform (Number Text : Type) extends Platform Number Text where
  encryptMessage : Option (Text → Option Text)
  handshake : List (Text × JsonValue Number Text)

structure Options where
  flags : Int
  correlationId : Int
  encrypt : Bool
  expectResponse : Bool
  deriving DecidableEq, Repr

/-- The arguments of a `sendMessage` call. -/
structure Request (Number Text : Type) where
  type : Int
  data : JsonValue Number Text
  options : Options

/-- The number and the time that a call gives to its message. -/
structure Stamp where
  messageId : Int
  timestamp : Int
  deriving DecidableEq, Repr

/-- The promise of a message that waits is known by the number of its call. -/
structure QueuedMessage where
  header : MessageHeader
  bodyData : Option (List UInt8)
  call : Nat
  options : Options
  deriving DecidableEq, Repr

/-- A message that was put on a socket. -/
structure SentMessage where
  call : Nat
  header : MessageHeader
  bodyData : Option (List UInt8)
  frame : List UInt8
  deriving DecidableEq, Repr

/-- The sockets that the client has made, and which one it holds. -/
structure Link where
  sockets : List ReadyState
  ws : Option Nat
  isConnected : Bool
  deriving DecidableEq, Repr

/-- The calls are counted, with those of the client itself. -/
structure ChatState extends Link where
  messageQueue : List QueuedMessage
  calls : Nat
  transmitted : List SentMessage
  rejected : List Nat
  deriving DecidableEq, Repr

namespace Link

/-- The test of `sendMessage` for an open connection. -/
def online (link : Link) : Bool :=
  link.isConnected && (link.ws.bind (link.sockets[·]?)) == some .open

def connect (link : Link) (created : Bool) : Link :=
  if link.isConnected ∨ ¬ created then link
  else { link with sockets := link.sockets ++ [.connecting], ws := some link.sockets.length }

/-- `close` of a socket. -/
def close (link : Link) (socket : Nat) : Link :=
  { link with sockets := link.sockets.modify socket fun state => if state = .closed then .closed else .closing }

/-- The timer of a `connect` call asks for the socket that is held when it fires. -/
def connectTimeout (link : Link) : Link :=
  match link.ws with
  | none => link
  | some socket => if link.sockets[socket]? = some .connecting then link.close socket else link

def handleClose (link : Link) (socket : Nat) : Link :=
  { link with sockets := link.sockets.set socket .closed, isConnected := false }

def disconnect (link : Link) : Link :=
  match link.ws with
  | none => { link with isConnected := false }
  | some socket => { link.close socket with ws := none, isConnected := false }

end Link

namespace ChatState

variable {Number Text : Type} (platform : ChatPlatform Number Text)

/-- The body that `sendMessage` serialises. None is an error of the encryption. -/
def serializeBody (data : JsonValue Number Text) (options : Options) : Option (Option (List UInt8)) :=
  if ChatClient.truthy platform.toPlatform data then
    let text := platform.stringify data
    let written := match platform.encryptMessage with
      | some encryptMessage => if options.encrypt then encryptMessage text else some text
      | none => some text
    written.map fun text => some (ProtocolCodec.serializeString platform.encode text 65535)
  else some none

/-- The header of a message with its checksum, and the bytes for the socket. -/
def serializeMessage (type : Int) (options : Options) (bodyData : Option (List UInt8)) (stamp : Stamp) :
    Option (MessageHeader × List UInt8) := do
  let header : MessageHeader := {
    magic := 0x53435400
    version := bitOr (bitOr (shiftLeft 3 16) (shiftLeft 0 8)) 0
    type := type
    flags := options.flags
    timestamp := stamp.timestamp
    messageId := stamp.messageId
    correlationId := options.correlationId
    bodyLength := 0
    checksum := 0 }
  match bodyData with
  | some bodyData =>
      let header := { header with bodyLength := bodyData.length }
      let headerBuffer ← ProtocolCodec.serializeHeader header
      -- The checksum is asked for a typed array.
      let checksum ← checksumOf (.uint8Array (headerBuffer ++ bodyData))
      let header := { header with checksum := checksum }
      let finalHeader ← ProtocolCodec.serializeHeader header
      some (header, finalHeader ++ bodyData)
  | none =>
      let headerBuffer ← ProtocolCodec.serializeHeader header
      let checksum ← checksumOf (.arrayBuffer headerBuffer)
      let header := { header with checksum := checksum }
      let finalHeader ← ProtocolCodec.serializeHeader header
      some (header, finalHeader)

def reject (state : ChatState) (call : Nat) : ChatState := { state with rejected := state.rejected ++ [call] }

/-- A message that cannot be serialised is rejected, and one that cannot be sent waits and is rejected. -/
def sendMessage (state : ChatState) (request : Request Number Text) (call : Nat) (stamp : Stamp) : ChatState :=
  match serializeBody platform request.data request.options with
  | none => state.reject call
  | some bodyData =>
      match serializeMessage request.type request.options bodyData stamp with
      | none => state.reject call
      | some (header, frame) =>
          if state.online then
            { state with transmitted := state.transmitted ++ [⟨call, header, bodyData, frame⟩] }
          else
            let queued : QueuedMessage := ⟨header, bodyData, call, request.options⟩
            reject { state with messageQueue := state.messageQueue ++ [queued] } call

/-- A call of the application, or one of the client itself. -/
def call (state : ChatState) (request : Request Number Text) (stamp : Stamp) : ChatState :=
  { state with calls := state.calls + 1 }.sendMessage platform request state.calls stamp

/-- The value that a waiting message is sent again with. None is a text that cannot be parsed. -/
def queuedData (queued : QueuedMessage) : Option (JsonValue Number Text) :=
  match queued.bodyData with
  | none => some .null
  | some bodyData => platform.parse (platform.decode bodyData)

/-- The loop ends with the queue, or with an error. A message that waits again does not end it. -/
def processMessageQueue (stamp : Nat → Stamp) : Nat → ChatState → Option ChatState
  | 0, _ => none
  | fuel + 1, state =>
      match state.messageQueue with
      | [] => some state
      | queued :: rest =>
          let shifted : ChatState := { state with messageQueue := rest }
          match queuedData platform queued with
          | none => some shifted
          | some data =>
              let request : Request Number Text := ⟨queued.header.type, data, queued.options⟩
              processMessageQueue stamp fuel (shifted.sendMessage platform request queued.call (stamp queued.call))

def msgSystemHandshake : Int := 0x00000001

/-- The open event of a socket. None is a loop that does not end. -/
def handleOpen (state : ChatState) (socket : Nat) (stamp : Nat → Stamp) (fuel : Nat) : Option ChatState :=
  let opened : ChatState := { state with sockets := state.sockets.set socket .open, isConnected := true }
  let greeting : Request Number Text := ⟨msgSystemHandshake, .object platform.handshake, ⟨0, 0, false, false⟩⟩
  (opened.call platform greeting (stamp state.calls)).processMessageQueue platform stamp fuel

end ChatState

/-- What may happen to the client without an open event. -/
inductive LinkEvent (Number Text : Type) where
  | sendMessage (request : Request Number Text) (stamp : Stamp)
  | connect (created : Bool)
  | connectTimeout
  | closing (socket : Nat)
  | closed (socket : Nat)
  | disconnect

def ChatState.step {Number Text : Type} (platform : ChatPlatform Number Text) (state : ChatState) :
    LinkEvent Number Text → ChatState
  | .sendMessage request stamp => state.call platform request stamp
  | .connect created => { state with toLink := state.toLink.connect created }
  | .connectTimeout => { state with toLink := state.toLink.connectTimeout }
  | .closing socket => { state with toLink := state.toLink.close socket }
  | .closed socket => { state with toLink := state.toLink.handleClose socket }
  | .disconnect => { state with toLink := state.toLink.disconnect }

/-- A client on which no message waits. -/
def ChatState.of (link : Link) : ChatState :=
  { link with messageQueue := [], calls := 0, transmitted := [], rejected := [] }

def ChatState.run {Number Text : Type} (platform : ChatPlatform Number Text) (state : ChatState)
    (events : List (LinkEvent Number Text)) : ChatState := events.foldl (ChatState.step platform) state

end SecureChat.Web
