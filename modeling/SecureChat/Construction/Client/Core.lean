/-
This file holds the heartbeat thread and the message handling of the native client.
-/

import SecureChat.Construction.Protocol
import SecureChat.Library.Machine

namespace SecureChat.Client
open Library Protocol

/-- The fields of `secure_chat_client_t` that sending, heartbeats and message handling use.
`heartbeatThread` says that the thread is still in its loop, with the interval it has read at its start.
Of the message handlers only their types are kept. -/
structure SecureChatClient where
  sockfd : Int
  connectionActive : Bool
  threadsRunning : Bool
  heartbeatThread : Bool
  heartbeatInterval : UInt64
  messageHandlers : List UInt32
  errorCallback : Bool
  lastHeartbeatSent : UInt64
  lastHeartbeatReceived : UInt64
  heartbeatMissed : UInt32
  messagesSent : UInt64
  bytesSent : UInt64
  deriving DecidableEq, Repr

/-- The clock and the two calls of `send` or `SSL_write` during one `send_message_internal`.
A negative result is an error, and a smaller one than asked for is a short write. -/
structure SendResults where
  timestamp : UInt64
  header : Int
  body : Int
  deriving DecidableEq, Repr

/-- What one `send_message_internal` returns and leaves behind.
`wire` holds the bytes that it has written, and `sent` the message if it was written as a whole. -/
structure SendOutcome where
  result : Int
  client : SecureChatClient
  wire : List UInt8
  sent : List HandedMessage
  deriving DecidableEq, Repr

variable (codec : HeaderCodec) (verifyMessageChecksum : MessageHeader → List UInt8 → Bool)

/-- The header that `send_message_internal` builds. The checksum is taken of an empty body too. -/
def outgoingHeader (client : SecureChatClient) (messageType : UInt32) (data : List UInt8)
    (timestamp : UInt64) : MessageHeader :=
  { emptyHeader with
    magic := protocolMagic
    version := protocolVersion
    type := messageType
    timestamp := timestamp
    messageId := client.messagesSent + 1
    bodyLength := UInt32.ofNat data.length
    checksum := codec.calculateMessageChecksum data }

/-- A short write of the header or of the body is not repeated. -/
def sendMessageInternal (client : SecureChatClient) (messageType : UInt32) (data : List UInt8)
    (results : SendResults) : SendOutcome :=
  if !client.connectionActive ∨ client.sockfd = -1 then ⟨-1, client, [], []⟩ else
  let header := outgoingHeader codec client messageType data results.timestamp
  let headerBuffer := codec.serializeMessageHeader header
  if results.header ≠ headerSize then ⟨-2, client, headerBuffer.take results.header.toNat, []⟩ else
  if 0 < data.length ∧ results.body ≠ data.length then
    ⟨-3, client, headerBuffer ++ data.take results.body.toNat, []⟩ else
  ⟨0, { client with
    messagesSent := client.messagesSent + 1
    bytesSent := client.bytesSent + UInt64.ofNat (headerSize + data.length) },
    headerBuffer ++ data, [⟨header, data⟩]⟩

/-- One round of the loop of `heartbeat_thread_func`, from the end of `usleep` to the next one.
The timestamp is sent in the byte order of the host. -/
def heartbeatRound (client : SecureChatClient) (now : UInt64) (results : SendResults) :
    SecureChatClient × List HandedMessage :=
  if !client.threadsRunning ∨ !client.connectionActive then
    ({ client with heartbeatThread := false }, []) else
  if client.heartbeatInterval ≤ now - client.lastHeartbeatSent then
    let outcome := sendMessageInternal codec client msgSystemHeartbeat (littleEndian 8 now.toNat) results
    let missed := outcome.client.heartbeatMissed + 1
    if 3 < missed then
      ({ outcome.client with
        lastHeartbeatSent := now
        heartbeatMissed := missed
        connectionActive := false
        heartbeatThread := false }, outcome.sent)
    else ({ outcome.client with lastHeartbeatSent := now, heartbeatMissed := missed }, outcome.sent)
  else (client, [])

/-- A callback gets the data of the message. A message handler is named by its index. -/
inductive Callback where
  | error (data : List UInt8)
  | message (handler : Nat) (messageType : UInt32) (data : List UInt8)
  deriving DecidableEq, Repr

/-- What `handle_message` leaves behind. It always returns zero. -/
structure Handled where
  client : SecureChatClient
  sent : List HandedMessage
  callbacks : List Callback
  deriving DecidableEq, Repr

def callHandlers (handlers : List UInt32) (message : HandedMessage) : List Callback :=
  handlers.zipIdx.filterMap fun (messageType, handler) =>
    if messageType = message.header.type then
      some (.message handler message.header.type message.body) else none

/-- A heartbeat is sent back to the server, also when it is itself an answer. -/
def handleMessage (client : SecureChatClient) (message : HandedMessage) (now : UInt64)
    (results : SendResults) : Handled :=
  if message.header.type = msgSystemHeartbeat then
    let outcome := sendMessageInternal codec
      { client with lastHeartbeatReceived := now, heartbeatMissed := 0 } msgSystemHeartbeat
      message.body results
    ⟨outcome.client, outcome.sent, []⟩
  else if message.header.type = msgSystemError then
    ⟨client, [], if client.errorCallback then [.error message.body] else []⟩
  else if message.header.type = msgSystemNotification then ⟨client, [], []⟩
  else ⟨client, [], callHandlers client.messageHandlers message⟩

/-- The tests that `process_received_data` makes before it hands over a complete message. -/
def handsOver (message : HandedMessage) : Bool :=
  message.header.magic = protocolMagic && verifyMessageChecksum message.header message.body

/-- One call of `send_message_internal`. No write reports more bytes than it was given. -/
structure SendCall where
  messageType : UInt32
  data : List UInt8
  results : SendResults
  headerBound : results.header ≤ headerSize
  bodyBound : results.body ≤ data.length

/-- The connection is used by senders until some thread gives it up. -/
inductive ConnectionUse where
  | send (call : SendCall)
  | connectionLost

/-- What one call has put on the connection, and the whole message that it was about. -/
structure SendRecord where
  result : Int
  wire : List UInt8
  encoded : List UInt8
  deriving DecidableEq, Repr

/-- The bytes of the message that a call is about. -/
def encodedCall (client : SecureChatClient) (call : SendCall) : List UInt8 :=
  codec.serializeMessageHeader
    (outgoingHeader codec client call.messageType call.data call.results.timestamp) ++ call.data

/-- The senders of one connection, one after another under the send mutex. -/
def connectionMachine : Machine SecureChatClient ConnectionUse SendRecord where
  step client use :=
    match use with
    | .send call =>
        let outcome := sendMessageInternal codec client call.messageType call.data call.results
        (outcome.client, [⟨outcome.result, outcome.wire, encodedCall codec client call⟩])
    | .connectionLost => ({ client with connectionActive := false }, [])

end SecureChat.Client
