/-
This file sends and receives messages on one connection of the native server.
-/

import SecureChat.Construction.Protocol
import SecureChat.Library.Machine
import SecureChat.Library.Memory

namespace SecureChat.Server
open Library Protocol

structure RateLimiter where
  messagesPerMinute : UInt32
  bytesPerMinute : UInt32
  lastResetTime : UInt64
  messageCount : UInt32
  byteCount : UInt32
  deriving DecidableEq, Repr

/-- The fields of `client_connection_t` that the message code uses.
The receive buffer is the whole allocated block. -/
structure ClientConnection where
  fd : Int
  ssl : Bool
  lastActivity : UInt64
  lastHeartbeat : UInt64
  recvBuffer : List UInt8
  recvBufferSize : Nat
  recvBufferUsed : Nat
  bytesSent : UInt64
  bytesReceived : UInt64
  messagesSent : UInt32
  messagesReceived : UInt32
  rateLimiter : RateLimiter
  deriving DecidableEq, Repr

def connectionRecvBufferSize : Nat := 65536

/-- The limits that every new connection gets. -/
def connectionInitRateLimiter (now : UInt64) : RateLimiter :=
  ⟨60, 1024 * 1024, now, 0, 0⟩

/-- A new connection has an empty receive buffer of arbitrary bytes. -/
def connectionCreate (fd : Int) (ssl : Bool) (now : UInt64) : ClientConnection where
  fd := fd
  ssl := ssl
  lastActivity := now
  lastHeartbeat := now
  recvBuffer := List.replicate connectionRecvBufferSize 0
  recvBufferSize := connectionRecvBufferSize
  recvBufferUsed := 0
  bytesSent := 0
  bytesReceived := 0
  messagesSent := 0
  messagesReceived := 0
  rateLimiter := connectionInitRateLimiter now

/-- What `send` or `SSL_write` answers once it no longer asks for another try.
It takes at least one byte, reports a closed connection, or fails. -/
inductive SendReply where
  | takes (more : Nat)
  | closed
  | failed
  deriving DecidableEq, Repr

/-- The clock and the socket answer each call in turn.
The wire keeps the bytes that were sent, and `sent` keeps the messages that were sent as a whole. -/
structure World where
  clock : Nat → UInt64
  socket : Nat → SendReply
  clockReads : Nat
  socketWrites : Nat
  wire : List UInt8
  sent : List HandedMessage

/-- One connection and the world around it. -/
structure Host where
  conn : ClientConnection
  world : World

def getCurrentTimestampMs (world : World) : UInt64 × World :=
  (world.clock world.clockReads, { world with clockReads := world.clockReads + 1 })

def resetRateLimiter (host : Host) : Host :=
  let (now, world) := getCurrentTimestampMs host.world
  ⟨{ host.conn with rateLimiter := { host.conn.rateLimiter with
    lastResetTime := now, messageCount := 0, byteCount := 0 } }, world⟩

/-- The limiter starts again after a minute. -/
def checkRateLimitReset (host : Host) : Host :=
  let (now, world) := getCurrentTimestampMs host.world
  let elapsed := now - host.conn.rateLimiter.lastResetTime
  if 60000 ≤ elapsed then resetRateLimiter { host with world := world } else { host with world := world }

def updateRateLimiter (host : Host) (messageSize : Nat) : Host :=
  let host := checkRateLimitReset host
  { host with conn := { host.conn with rateLimiter := { host.conn.rateLimiter with
    messageCount := host.conn.rateLimiter.messageCount + 1
    byteCount := host.conn.rateLimiter.byteCount + UInt32.ofNat messageSize } } }

/-- The byte limit is compared in the width of `size_t`. -/
def connectionCheckRateLimit (host : Host) (messageSize : Nat) : Bool × Host :=
  let host := checkRateLimitReset host
  let limiter := host.conn.rateLimiter
  if 0 < limiter.messagesPerMinute ∧ limiter.messagesPerMinute ≤ limiter.messageCount then (false, host)
  else if 0 < limiter.bytesPerMinute ∧
      limiter.bytesPerMinute.toNat < limiter.byteCount.toNat + messageSize then (false, host)
  else (true, host)

/-- The loop that both send functions share.
It stops at the end of the data, at a closed connection, or with an error. -/
def sendLoop : Nat → List UInt8 → World → Option Nat × World
  | 0, _, world => (some 0, world)
  | fuel + 1, data, world =>
      if data.length = 0 then (some 0, world) else
      let next := { world with socketWrites := world.socketWrites + 1 }
      match world.socket world.socketWrites with
      | .takes more =>
          let sent := min (more + 1) data.length
          let (total, world) := sendLoop fuel (data.drop sent)
            { next with wire := world.wire ++ data.take sent }
          (total.map (· + sent), world)
      | .closed => (some 0, next)
      | .failed => (none, next)

def plainSend (data : List UInt8) (world : World) : Option Nat × World :=
  sendLoop data.length data world

def sslSend (conn : ClientConnection) (data : List UInt8) (world : World) : Option Nat × World :=
  if conn.ssl then sendLoop data.length data world else (none, world)

/-- The number of bytes that were sent, or a negative code. -/
def connectionSend (host : Host) (data : List UInt8) : Int × Host :=
  if host.conn.fd = -1 ∨ data.length = 0 then (-1, host) else
  let (allowed, host) := connectionCheckRateLimit host data.length
  if !allowed then (-2, host) else
  let (sent, world) := if host.conn.ssl then sslSend host.conn data host.world
    else plainSend data host.world
  match sent with
  | none => (-1, { host with world := world })
  | some 0 => (0, { host with world := world })
  | some (total + 1) =>
      let (now, world) := getCurrentTimestampMs world
      (total + 1, updateRateLimiter ⟨{ host.conn with
        bytesSent := host.conn.bytesSent + UInt64.ofNat (total + 1)
        lastActivity := now }, world⟩ (total + 1))

variable (codec : HeaderCodec)

/-- The header that `connection_send_message` builds. -/
def outgoingHeader (messageType : UInt32) (data : List UInt8) (timestamp messageId : UInt64) :
    MessageHeader :=
  { emptyHeader with
    magic := protocolMagic
    version := protocolVersion
    type := messageType
    timestamp := timestamp
    messageId := messageId
    bodyLength := UInt32.ofNat data.length
    checksum := if 0 < data.length then codec.calculateMessageChecksum data else 0 }

def recordSent (host : Host) (header : MessageHeader) (data : List UInt8) : Host :=
  { host with world := { host.world with sent := host.world.sent ++ [⟨header, data⟩] } }

def connectionSendMessage (host : Host) (messageType : UInt32) (data : List UInt8) : Int × Host :=
  if maxMessageSize < data.length then (-2, host) else
  let (now, world) := getCurrentTimestampMs host.world
  let conn := { host.conn with messagesSent := host.conn.messagesSent + 1 }
  let header := outgoingHeader codec messageType data now conn.messagesSent.toUInt64
  let (sent, host) := connectionSend ⟨conn, world⟩ (codec.serializeMessageHeader header)
  if sent ≠ headerSize then (-3, host) else
  if 0 < data.length then
    let (sent, host) := connectionSend host data
    if sent ≠ data.length then (-4, host) else (0, recordSent host header data)
  else (0, recordSent host header data)

/-- The header at the front of the receive buffer. -/
def parseMessageHeader (conn : ClientConnection) : Option MessageHeader :=
  codec.deserializeMessageHeader (conn.recvBuffer.take headerSize)

/-- The body behind the header at the front of the receive buffer. -/
def frontBody (conn : ClientConnection) (header : MessageHeader) : List UInt8 :=
  (conn.recvBuffer.drop headerSize).take header.bodyLength.toNat

/-- The first message is moved out of the receive buffer. -/
def removeMessage (conn : ClientConnection) (totalLen : Nat) : ClientConnection :=
  { conn with
    recvBuffer := memmove conn.recvBuffer 0 totalLen (conn.recvBufferUsed - totalLen)
    recvBufferUsed := conn.recvBufferUsed - totalLen }

/-- The output parameters of `connection_receive_message`. -/
structure ReceivedMessage where
  messageType : UInt32
  data : List UInt8
  len : Nat
  deriving DecidableEq, Repr

/-- A wrong version is only logged. -/
def connectionReceiveMessage (conn : ClientConnection) (mallocOk : Bool) (out : ReceivedMessage) :
    Int × ClientConnection × ReceivedMessage :=
  if conn.recvBufferUsed < headerSize then (0, conn, out) else
  match parseMessageHeader codec conn with
  | none => (-2, conn, out)
  | some header =>
      if header.magic ≠ protocolMagic then (-3, conn, out)
      else if conn.recvBufferUsed < headerSize + header.bodyLength.toNat then (0, conn, out)
      else if !mallocOk then (-4, conn, out)
      else if 0 < header.bodyLength ∧
          codec.calculateMessageChecksum (frontBody conn header) ≠ header.checksum then (-5, conn, out)
      else
        let removed := removeMessage conn (headerSize + header.bodyLength.toNat)
        (1, { removed with messagesReceived := removed.messagesReceived + 1 },
          ⟨header.type, frontBody conn header, header.bodyLength.toNat⟩)

/-- The timestamp is copied in host order and sent back as it is. -/
def handleHeartbeat (host : Host) (timestamp : List UInt8) : Host :=
  let (now, world) := getCurrentTimestampMs host.world
  (connectionSendMessage codec ⟨{ host.conn with lastHeartbeat := now }, world⟩ msgSystemHeartbeat
    timestamp).2

/-- Only heartbeats of eight bytes are answered. All other messages are left to the upper layer. -/
def processCompleteMessage (host : Host) (header : MessageHeader) : Bool × Host :=
  if header.type = msgSystemHeartbeat then
    if header.bodyLength = 8 then
      (true, handleHeartbeat codec host ((host.conn.recvBuffer.drop headerSize).take 8))
    else (true, host)
  else if header.type = msgSystemError then (true, host)
  else (true, host)

/-- The number of processed messages, the connection behind them, and the messages themselves. -/
structure Processed where
  processed : Nat
  host : Host
  handed : List HandedMessage

/-- The loop removes at least a header in each round. -/
def processMessages : Nat → Host → Processed
  | 0, host => ⟨0, host, []⟩
  | fuel + 1, host =>
      if host.conn.recvBufferUsed < headerSize then ⟨0, host, []⟩ else
      match parseMessageHeader codec host.conn with
      | none => ⟨0, host, []⟩
      | some header =>
          if host.conn.recvBufferUsed < headerSize + header.bodyLength.toNat then ⟨0, host, []⟩ else
          let (ok, next) := processCompleteMessage codec host header
          let message := ⟨header, frontBody host.conn header⟩
          if !ok then ⟨0, next, [message]⟩ else
          let rest := processMessages fuel
            { next with conn := removeMessage next.conn (headerSize + header.bodyLength.toNat) }
          ⟨rest.processed + 1, rest.host, message :: rest.handed⟩

def resizeRecvBuffer (conn : ClientConnection) (newSize : Nat) (reallocOk : Bool) :
    Option ClientConnection :=
  if newSize ≤ conn.recvBufferSize then some conn
  else if reallocOk then
    some { conn with recvBuffer := realloc 0 conn.recvBuffer newSize, recvBufferSize := newSize }
  else none

/-- The first half of `connection_process_data` puts the data behind the used bytes. -/
def appendRecvBuffer (conn : ClientConnection) (data : List UInt8) (reallocOk : Bool) :
    Option ClientConnection :=
  let resized := if conn.recvBufferSize < conn.recvBufferUsed + data.length then
    resizeRecvBuffer conn ((conn.recvBufferUsed + data.length) * 2) reallocOk else some conn
  resized.map fun conn =>
    { conn with
      recvBuffer := memcpy conn.recvBuffer conn.recvBufferUsed data
      recvBufferUsed := conn.recvBufferUsed + data.length }

/-- The result is the number of processed messages or a negative code. -/
def connectionProcessData (host : Host) (data : List UInt8) (reallocOk : Bool) :
    Int × Host × List HandedMessage :=
  if data.length = 0 then (-1, host, []) else
  match appendRecvBuffer host.conn data reallocOk with
  | none => (-2, host, [])
  | some conn =>
      let result := processMessages codec conn.recvBufferUsed { host with conn := conn }
      (result.processed, result.host, result.handed)

/-- A connection that is fed chunk by chunk, each with the answer of `realloc`. -/
def processMachine : Machine Host (List UInt8 × Bool) HandedMessage where
  step host input :=
    ((connectionProcessData codec host input.1 input.2).2.1,
      (connectionProcessData codec host input.1 input.2).2.2)

end SecureChat.Server
