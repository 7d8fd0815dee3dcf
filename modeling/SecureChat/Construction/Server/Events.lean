/-
This file handles the epoll events of one connection of the native server
and translates the outcomes of its low-level reads.
-/

import SecureChat.Construction.Server.Connection

namespace SecureChat.Server
open Library Protocol

structure EpollEvents where
  rdhup : Bool
  hup : Bool
  err : Bool
  epollin : Bool
  epollout : Bool
  deriving DecidableEq, Repr

/-- A readable event and nothing else. -/
def epollIn : EpollEvents := ⟨false, false, false, true, false⟩

/-- What `recv` or `SSL_read` answers. -/
inductive RecvReply where
  | data (bytes : List UInt8)
  | wouldBlock
  | closed
  | failed
  deriving DecidableEq, Repr

/-- Both receive functions return zero for a closed connection and for one without data. -/
def receiveReply (reply : RecvReply) (bufferLen : Nat) : Int × List UInt8 :=
  match reply with
  | .data bytes => ((bytes.take bufferLen).length, bytes.take bufferLen)
  | .wouldBlock => (0, [])
  | .closed => (0, [])
  | .failed => (-1, [])

/-- The result, the bytes in the caller's buffer, and the connection behind the call. -/
def connectionReceive (host : Host) (reply : RecvReply) (bufferLen : Nat) :
    Int × List UInt8 × Host :=
  if host.conn.fd = -1 ∨ bufferLen = 0 then (-1, [], host) else
  let (received, bytes) := receiveReply reply bufferLen
  if 0 < received then
    let (now, world) := getCurrentTimestampMs host.world
    (received, bytes, ⟨{ host.conn with
      bytesReceived := host.conn.bytesReceived + UInt64.ofNat received.toNat
      lastActivity := now }, world⟩)
  else (received, bytes, host)

/-- What an event does to the outside.
The bytes go to `connection_process_data`, and messages go to `process_complete_message`. -/
inductive ServerOutput where
  | delivered (bytes : List UInt8)
  | handed (message : HandedMessage)
  | returned (message : ReceivedMessage)
  | connectionClose
  deriving DecidableEq, Repr

/-- The bytes that went to `connection_process_data`. -/
def deliveredBytes (outputs : List ServerOutput) : List UInt8 :=
  outputs.flatMap fun
    | .delivered bytes => bytes
    | _ => []

variable (codec : HeaderCodec)

/-- The close call is recorded, and the connection takes no further part.
The branch for writable events reaches a send queue that does nothing. -/
def handleClientEvent (host : Host) (events : EpollEvents) (reply : RecvReply) (reallocOk : Bool) :
    Option Host × List ServerOutput :=
  if host.conn.fd = -1 then (some host, [])
  else if events.rdhup ∨ events.hup then (none, [.connectionClose])
  else if events.err then (none, [.connectionClose])
  else if events.epollin then
    let (received, bytes, host) := connectionReceive host reply 8192
    if 0 < received then
      let (_, host, handed) := connectionProcessData codec host bytes reallocOk
      (some host, .delivered bytes :: handed.map .handed)
    else (none, [.connectionClose])
  else (some host, [])

/-- The event loop calls the handler, and the upper layer asks for messages. -/
inductive ServerOperation where
  | event (events : EpollEvents) (reply : RecvReply) (reallocOk : Bool)
  | receiveMessage (mallocOk : Bool)
  deriving DecidableEq, Repr

/-- The upper layer sees the messages of its successful calls. -/
def receiveStep (host : Host) (mallocOk : Bool) : Option Host × List ServerOutput :=
  let (result, conn, out) := connectionReceiveMessage codec host.conn mallocOk ⟨0, [], 0⟩
  (some { host with conn := conn }, if result = 1 then [.returned out] else [])

/-- One connection of a running server. It is absent after it has been closed. -/
def serverMachine : Machine (Option Host) ServerOperation ServerOutput where
  step state operation :=
    match state, operation with
    | none, _ => (none, [])
    | some host, .event events reply reallocOk => handleClientEvent codec host events reply reallocOk
    | some host, .receiveMessage mallocOk => receiveStep codec host mallocOk

end SecureChat.Server

namespace SecureChat.Server
open Library Protocol

/-- What `recv` returns, with `errno` where it fails. Data has at least one byte. -/
inductive RecvOutcome where
  | data (first : UInt8) (rest : List UInt8)
  | endOfStream
  | wouldBlock
  | connectionReset
  | error
  deriving DecidableEq, Repr

/-- What `SSL_read` returns, with the answer of `SSL_get_error` where it fails. -/
inductive SslReadOutcome where
  | data (first : UInt8) (rest : List UInt8)
  | wantRead
  | wantWrite
  | zeroReturn
  | error
  deriving DecidableEq, Repr

/-- Three of the outcomes without data become the same result. -/
def plainReceive (outcome : RecvOutcome) (bufferLen : Nat) : Int × List UInt8 :=
  match outcome with
  | .data first rest => (((first :: rest).take bufferLen).length, (first :: rest).take bufferLen)
  | .wouldBlock => (0, [])
  | .connectionReset => (0, [])
  | .error => (-1, [])
  | .endOfStream => (0, [])

def sslReceive (outcome : SslReadOutcome) (bufferLen : Nat) : Int × List UInt8 :=
  match outcome with
  | .data first rest => (((first :: rest).take bufferLen).length, (first :: rest).take bufferLen)
  | .wantRead => (0, [])
  | .wantWrite => (0, [])
  | .zeroReturn => (0, [])
  | .error => (-1, [])

def RecvOutcome.reply : RecvOutcome → RecvReply
  | .data first rest => .data (first :: rest)
  | .endOfStream => .closed
  | .wouldBlock => .wouldBlock
  | .connectionReset => .closed
  | .error => .failed

def SslReadOutcome.reply : SslReadOutcome → RecvReply
  | .data first rest => .data (first :: rest)
  | .wantRead => .wouldBlock
  | .wantWrite => .wouldBlock
  | .zeroReturn => .closed
  | .error => .failed

/-- The outcomes of both kinds of reads. A connection uses one of them. -/
structure ReadOutcome where
  recv : RecvOutcome
  sslRead : SslReadOutcome
  deriving DecidableEq, Repr

def ReadOutcome.reply (outcome : ReadOutcome) (conn : ClientConnection) : RecvReply :=
  if conn.ssl then outcome.sslRead.reply else outcome.recv.reply

end SecureChat.Server
