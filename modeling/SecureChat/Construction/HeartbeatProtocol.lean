/-
This file joins the native client and its connection on the server.
-/

import SecureChat.Construction.Client.Core
import SecureChat.Construction.Server.Connection

namespace SecureChat.HeartbeatProtocol
open Library Protocol Client Server

/-- Both parties, and the messages that are still on their way to one of them.
A message that its sender could not write as a whole never gets on its way. -/
structure Parties where
  client : SecureChatClient
  server : Host
  toServer : List HandedMessage
  toClient : List HandedMessage

/-- A message that the layers above send. The heartbeats are left to the functions below. -/
structure OtherMessage where
  messageType : UInt32
  data : List UInt8
  other : messageType ≠ msgSystemHeartbeat

inductive ProtocolStep where
  | timerTick (now : UInt64) (results : SendResults)
  | deliverToServer (position : Nat)
  | deliverToClient (position : Nat) (now : UInt64) (results : SendResults)
  | clientSend (message : OtherMessage) (results : SendResults)
  | serverSend (message : OtherMessage)
  | connectionLost
  | clientDisconnect

inductive ProtocolEvent where
  | timerTick
  | clientSent (message : HandedMessage)
  | serverSent (message : HandedMessage)
  deriving DecidableEq, Repr

variable (codec : HeaderCodec) (verifyMessageChecksum : MessageHeader → List UInt8 → Bool)

/-- The message lies at the front of the receive buffer. -/
def atFront (host : Host) (message : HandedMessage) : Host :=
  { host with conn := { host.conn with
    recvBuffer := memcpy host.conn.recvBuffer 0 (codec.serializeMessageHeader message.header ++ message.body)
    recvBufferUsed := headerSize + message.body.length } }

/-- One round of the loop of `connection_process_data`. -/
def serverRound (host : Host) (message : HandedMessage) : Host :=
  let (ok, next) := processCompleteMessage codec (atFront codec host message) message.header
  if !ok then next else
  { next with conn := removeMessage next.conn (headerSize + message.header.bodyLength.toNat) }

/-- The client sends messages and takes the new state. -/
def clientSends (parties : Parties) (client : SecureChatClient) (sent : List HandedMessage) :
    Parties × List ProtocolEvent :=
  ({ parties with client := client, toServer := parties.toServer ++ sent }, sent.map .clientSent)

/-- The server takes the new state, and what it has sent meanwhile gets on its way. -/
def serverSends (parties : Parties) (server : Host) : Parties × List ProtocolEvent :=
  let sent := server.world.sent.drop parties.server.world.sent.length
  ({ parties with server := server, toClient := parties.toClient ++ sent }, sent.map .serverSent)

/-- A timer tick needs the heartbeat thread, and a delivery needs a message on its way. -/
def protocolStep (parties : Parties) (step : ProtocolStep) : Parties × List ProtocolEvent :=
  match step with
  | .timerTick now results =>
      if parties.client.heartbeatThread then
        let (client, sent) := heartbeatRound codec parties.client now results
        let (next, events) := clientSends parties client sent
        (next, .timerTick :: events)
      else (parties, [])
  | .deliverToServer position =>
      match parties.toServer[position]? with
      | none => (parties, [])
      | some message =>
          serverSends { parties with toServer := parties.toServer.eraseIdx position }
            (serverRound codec parties.server message)
  | .deliverToClient position now results =>
      match parties.toClient[position]? with
      | none => (parties, [])
      | some message =>
          let waiting := { parties with toClient := parties.toClient.eraseIdx position }
          if handsOver verifyMessageChecksum message then
            let handled := handleMessage codec parties.client message now results
            clientSends waiting handled.client handled.sent
          else (waiting, [])
  | .clientSend message results =>
      let outcome := sendMessageInternal codec parties.client message.messageType message.data results
      clientSends parties outcome.client outcome.sent
  | .serverSend message =>
      serverSends parties (connectionSendMessage codec parties.server message.messageType message.data).2
  | .connectionLost =>
      ({ parties with client := { parties.client with connectionActive := false } }, [])
  | .clientDisconnect =>
      ({ parties with client := { parties.client with threadsRunning := false } }, [])

def protocolMachine : Machine Parties ProtocolStep ProtocolEvent where
  step := protocolStep codec verifyMessageChecksum

end SecureChat.HeartbeatProtocol
