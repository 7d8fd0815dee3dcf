/-
This file receives messages in the native client and connects it again after a loss.
-/

import SecureChat.Construction.Client.Core
import SecureChat.Library.Memory

namespace SecureChat.Client
open Library Protocol

/-- The client with its receive buffer, which is the whole allocated block. -/
structure ReceivingClient extends SecureChatClient where
  recvBuffer : List UInt8
  recvBufferSize : Nat
  recvBufferUsed : Nat
  bytesReceived : UInt64
  messagesReceived : UInt64
  deriving DecidableEq, Repr

/-- The clock and the writes while one message is handled. -/
structure HandlerAnswers where
  now : UInt64
  results : SendResults
  deriving DecidableEq, Repr

/-- The client and the world around it.
The socket holds the bytes that the peer has sent and the client has not yet read. -/
structure ClientHost where
  client : ReceivingClient
  incoming : List UInt8
  answers : Nat → HandlerAnswers
  answered : Nat

def bufferSize : Nat := 65536

/-- The first bytes are moved out of the receive buffer. -/
def removeFront (client : ReceivingClient) (len : Nat) : ReceivingClient :=
  { client with
    recvBuffer := memmove client.recvBuffer 0 len (client.recvBufferUsed - len)
    recvBufferUsed := client.recvBufferUsed - len }

variable (codec : HeaderCodec) (verifyMessageChecksum : MessageHeader → List UInt8 → Bool)

/-- One round of the loop of `process_received_data`, with the message that it hands over.
The loop ends where there is no round. A wrong version is only logged. -/
def processRound (host : ClientHost) : Option (ClientHost × List HandedMessage) :=
  if host.client.recvBufferUsed < headerSize then none else
  match codec.deserializeMessageHeader (host.client.recvBuffer.take headerSize) with
  | none => none
  | some header =>
      if header.magic ≠ protocolMagic then
        some ({ host with client := removeFront host.client 1 }, [])
      else
      let totalLen := headerSize + header.bodyLength.toNat
      if host.client.recvBufferUsed < totalLen then none else
      let message := ⟨header, (host.client.recvBuffer.drop headerSize).take header.bodyLength.toNat⟩
      if !verifyMessageChecksum header message.body then
        some ({ host with client := removeFront host.client totalLen }, [])
      else
        let answer := host.answers host.answered
        let handled := handleMessage codec host.client.toSecureChatClient message answer.now answer.results
        let removed := removeFront { host.client with toSecureChatClient := handled.client } totalLen
        some ({ host with
          client := { removed with messagesReceived := removed.messagesReceived + 1 }
          answered := host.answered + 1 }, [message])

/-- Every round removes at least one byte from the receive buffer. -/
def processRounds : Nat → ClientHost → ClientHost × List HandedMessage
  | 0, host => (host, [])
  | fuel + 1, host =>
      match processRound codec verifyMessageChecksum host with
      | none => (host, [])
      | some (next, handed) =>
          ((processRounds fuel next).1, handed ++ (processRounds fuel next).2)

/-- The result of `process_received_data` is the number of the messages that were handed over. -/
def processReceivedData (host : ClientHost) : ClientHost × List HandedMessage :=
  processRounds codec verifyMessageChecksum host.client.recvBufferUsed host

/-- What `recv` or `SSL_read` answers. It returns at least one byte if it does not fail. -/
inductive RecvReply where
  | bytes (more : Nat)
  | closed
  | failed
  deriving DecidableEq, Repr

/-- The answers of `realloc` and of the socket to one call. -/
structure RecvCall where
  reallocOk : Bool
  reply : RecvReply
  deriving DecidableEq, Repr

def growRecvBuffer (client : ReceivingClient) (reallocOk : Bool) : Option ReceivingClient :=
  if client.recvBufferSize < client.recvBufferUsed + 4096 then
    if reallocOk then
      some { client with
        recvBuffer := realloc 0 client.recvBuffer (client.recvBufferSize * 2)
        recvBufferSize := client.recvBufferSize * 2 }
    else none
  else some client

/-- The number of bytes that the socket gives for the free part of the receive buffer. -/
def receivedCount (host : ClientHost) (reply : RecvReply) : Nat :=
  match reply with
  | .bytes more =>
      min (more + 1) (min (host.client.recvBufferSize - host.client.recvBufferUsed) host.incoming.length)
  | .closed => 0
  | .failed => 0

/-- What one `receive_message_internal` returns and leaves behind. -/
structure Received where
  result : Int
  host : ClientHost
  bytes : List UInt8
  handed : List HandedMessage

def receiveMessageInternal (host : ClientHost) (call : RecvCall) : Received :=
  if !host.client.connectionActive ∨ host.client.sockfd = -1 then ⟨-1, host, [], []⟩ else
  match growRecvBuffer host.client call.reallocOk with
  | none => ⟨-2, host, [], []⟩
  | some client =>
      let received := receivedCount { host with client := client } call.reply
      if received = 0 then ⟨-3, { host with client := client }, [], []⟩ else
      let data := host.incoming.take received
      let (next, handed) := processReceivedData codec verifyMessageChecksum { host with
        client := { client with
          recvBuffer := memcpy client.recvBuffer client.recvBufferUsed data
          recvBufferUsed := client.recvBufferUsed + received
          bytesReceived := client.bytesReceived + UInt64.ofNat received }
        incoming := host.incoming.drop received }
      ⟨handed.length, next, data, handed⟩

/-- A connected client that reads its socket again and again. -/
def receiveMachine : Machine ClientHost RecvCall HandedMessage where
  step host call :=
    ((receiveMessageInternal codec verifyMessageChecksum host call).host,
      (receiveMessageInternal codec verifyMessageChecksum host call).handed)

inductive ClientState where
  | disconnected
  | connecting
  | connected
  | authenticating
  | authenticated
  | reconnecting
  | disconnecting
  | error
  deriving DecidableEq, Repr

/-- The client with its state, its threads and its attempts to connect again.
`connections` counts the connections that were established. -/
structure Session where
  host : ClientHost
  state : ClientState
  receiveThread : Bool
  reconnectThread : Bool
  reconnectCount : UInt32
  reconnectAttempts : Int32
  connections : Nat

/-- A new client is zeroed except for its receive buffer and its configuration. -/
def clientCreate (heartbeatInterval : UInt64) (reconnectAttempts : Int32) (answers : Nat → HandlerAnswers) :
    Session where
  host := {
    client := {
      sockfd := 0
      connectionActive := false
      threadsRunning := false
      heartbeatThread := false
      heartbeatInterval := heartbeatInterval
      messageHandlers := []
      errorCallback := false
      lastHeartbeatSent := 0
      lastHeartbeatReceived := 0
      heartbeatMissed := 0
      messagesSent := 0
      bytesSent := 0
      recvBuffer := List.replicate bufferSize 0
      recvBufferSize := bufferSize
      recvBufferUsed := 0
      bytesReceived := 0
      messagesReceived := 0 }
    incoming := []
    answers := answers
    answered := 0 }
  state := .disconnected
  receiveThread := false
  reconnectThread := false
  reconnectCount := 0
  reconnectAttempts := reconnectAttempts
  connections := 0

/-- An attempt fails at one of its calls, or gets a socket with a stream of its own.
`threads` says that the threads of the client can be started then. -/
inductive ConnectOutcome where
  | failed
  | connected (sockfd : Int) (stream : List UInt8) (threads : Bool)
  deriving DecidableEq, Repr

/-- Every failure closes the socket again. Success leaves the receive buffer as it was. -/
def clientConnectInternal (session : Session) (outcome : ConnectOutcome) : Session :=
  match outcome with
  | .failed => { session with host.client.sockfd := -1 }
  | .connected sockfd stream _ =>
      { session with
        host.client.sockfd := sockfd
        host.client.connectionActive := true
        host.incoming := stream
        connections := session.connections + 1 }

def cleanupConnection (session : Session) : Session :=
  { session with
    host.client.sockfd := -1
    host.client.connectionActive := false
    host.client.recvBufferUsed := 0
    host.client.lastHeartbeatSent := 0
    host.client.lastHeartbeatReceived := 0
    host.client.heartbeatMissed := 0
    reconnectCount := 0 }

/-- Without its threads a new connection is cleaned up at once. -/
def clientConnect (session : Session) (outcome : ConnectOutcome) : Session :=
  if session.state ≠ .disconnected ∧ session.state ≠ .error then session else
  let next := clientConnectInternal session outcome
  match outcome with
  | .failed => { next with state := .error }
  | .connected _ _ true =>
      { next with
        host.client.threadsRunning := true
        host.client.heartbeatThread := true
        receiveThread := true
        state := .connected }
  | .connected _ _ false => { cleanupConnection next with receiveThread := false, state := .error }

/-- What one call of `receive_message_internal` has read, and on which connection. -/
structure Reading where
  connection : Nat
  bytes : List UInt8
  handed : List HandedMessage
  deriving DecidableEq, Repr

/-- One round of the loop of `receive_thread_func`.
An error ends the thread and starts the thread that connects again, if the configuration allows it. -/
def receiveThreadRound (session : Session) (call : RecvCall) : Session × List Reading :=
  if !session.receiveThread then (session, []) else
  if !session.host.client.threadsRunning ∨ !session.host.client.connectionActive then
    ({ session with receiveThread := false }, []) else
  let outcome := receiveMessageInternal codec verifyMessageChecksum session.host call
  let reading := ⟨session.connections, outcome.bytes, outcome.handed⟩
  if outcome.result < 0 then
    let lost := { session with
      host := { outcome.host with client.connectionActive := false }
      receiveThread := false }
    if 0 < session.reconnectAttempts then
      ({ lost with state := .reconnecting, reconnectThread := true }, [reading])
    else ({ lost with state := .error }, [reading])
  else ({ session with host := outcome.host }, [reading])

/-- One round of the loop of `reconnect_thread_func`, from its condition on.
The number of attempts is compared as an unsigned number. -/
def reconnectThreadRound (session : Session) (outcome : ConnectOutcome) : Session :=
  if !session.reconnectThread then session else
  if session.reconnectCount < session.reconnectAttempts.toUInt32 ∧ session.host.client.threadsRunning then
    let next := clientConnectInternal session outcome
    match outcome with
    | .connected _ _ true =>
        { next with
          host.client.heartbeatThread := true
          receiveThread := true
          reconnectThread := false
          state := .connected }
    | _ => { next with reconnectCount := session.reconnectCount + 1 }
  else if session.reconnectAttempts.toUInt32 ≤ session.reconnectCount then
    { session with reconnectThread := false, state := .error }
  else { session with reconnectThread := false }

/-- All threads are joined before the connection is cleaned up. -/
def clientDisconnect (session : Session) : Session :=
  if session.state = .disconnected ∨ session.state = .disconnecting then session else
  { cleanupConnection { session with host.client.threadsRunning := false } with
    receiveThread := false
    reconnectThread := false
    state := .disconnected }

/-- What happens to a client, one after another. -/
inductive ClientEvent where
  | connect (outcome : ConnectOutcome)
  | receive (call : RecvCall)
  | heartbeatLost
  | reconnect (outcome : ConnectOutcome)
  | disconnect
  deriving DecidableEq, Repr

def sessionMachine : Machine Session ClientEvent Reading where
  step session event :=
    match event with
    | .connect outcome => (clientConnect session outcome, [])
    | .receive call => receiveThreadRound codec verifyMessageChecksum session call
    | .heartbeatLost => ({ session with host.client.connectionActive := false }, [])
    | .reconnect outcome => (reconnectThreadRound session outcome, [])
    | .disconnect => (clientDisconnect session, [])

end SecureChat.Client
