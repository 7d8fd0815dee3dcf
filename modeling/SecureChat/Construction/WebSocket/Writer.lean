/-
This file writes the frames of the WebSocket server to the socket of one client.
-/

import SecureChat.Construction.WebSocket.Session

namespace SecureChat.WebSocket.Writer
open Library

/-- A socket takes a front part of the bytes that it is given, or reports an error. -/
inductive SendAnswer where
  | takes (count : Nat)
  | fails
  deriving DecidableEq, Repr

def SendAnswer.taken (bytes : List UInt8) : SendAnswer → List UInt8
  | .takes count => bytes.take count
  | .fails => []

/-- This is the result of `send`. -/
def SendAnswer.sent (bytes : List UInt8) : SendAnswer → Int
  | .takes count => (bytes.take count).length
  | .fails => -1

structure Client where
  state : WebsocketConnectionState
  bytesSent : UInt64
  messagesSent : UInt64
  deriving DecidableEq, Repr

/-- A client until it is removed, with all that its socket has taken.
It is torn once the socket has taken a part of a frame only. -/
structure Channel where
  client : Option Client
  wire : List UInt8
  torn : Bool
  deriving DecidableEq, Repr

/-- A writer has come to the end of a frame, of which the socket has taken this. -/
def Channel.write (channel : Channel) (frame taken : List UInt8) : Channel :=
  { channel with
    wire := channel.wire ++ taken
    torn := channel.torn || (0 < taken.length && taken.length < frame.length) }

/-- The first byte has the flag for the last fragment, and no mask follows the length. -/
def frameHeader (opcode : UInt8) (payloadLen : Nat) : List UInt8 :=
  let first := 0x80 ||| (opcode &&& 0x0F)
  if payloadLen ≤ 125 then [first, UInt8.ofNat payloadLen &&& 0x7F]
  else if payloadLen ≤ 65535 then first :: 126 :: bigEndian 2 payloadLen
  else first :: 127 :: bigEndian 8 payloadLen

def countSent (client : Client) (length : Nat) : Client :=
  { client with
    bytesSent := client.bytesSent + UInt64.ofNat length
    messagesSent := client.messagesSent + 1 }

/-- The header and the payload are sent one after the other. A result above zero counts as all of it. -/
def sendWebsocketFrame (channel : Channel) (client : Client) (opcode : UInt8) (payload : List UInt8)
    (forHeader forPayload : SendAnswer) : Int × Channel :=
  let header := frameHeader opcode payload.length
  let frame := header ++ payload
  let counted := countSent client (header.length + payload.length)
  if forHeader.sent header ≤ 0 then (-1, channel)
  else if 0 < payload.length then
    if forPayload.sent payload ≤ 0 then (-1, channel.write frame (forHeader.taken header))
    else (0, { channel.write frame (forHeader.taken header ++ forPayload.taken payload) with client := some counted })
  else (0, { channel.write frame (forHeader.taken header) with client := some counted })

/-- A C string without its end. -/
abbrev Reason := { bytes : List UInt8 // 0 ∉ bytes }

def closeFrameSize : Nat := 128

/-- What is stored from the start of the buffer on, and how many bytes of it are sent. -/
structure CloseFrame where
  stored : List UInt8
  closeFrameLen : Nat
  deriving DecidableEq, Repr

def CloseFrame.bytes (frame : CloseFrame) : List UInt8 := frame.stored.take frame.closeFrameLen

/-- The status code counts for the length of the payload, and it is sent only with a reason. -/
def closeFrame (statusCode : UInt16) (reason : Option Reason) : CloseFrame :=
  let code := bigEndian 2 statusCode.toNat
  match reason with
  | none => ⟨[0x88, 0x02] ++ code, 2⟩
  | some text =>
      if text.val = [] then ⟨[0x88, 0x02] ++ code, 2⟩
      else
        let reasonLen := min text.val.length 125
        ⟨[0x88, UInt8.ofNat (2 + reasonLen)] ++ code ++ text.val.take reasonLen, 4 + reasonLen⟩

/-- A client that is open gets a close frame before it is destroyed. -/
def removeClient (channel : Channel) (client : Client) (statusCode : UInt16) (reason : Option Reason)
    (answer : SendAnswer) : Channel :=
  if client.state = .open then
    let frame := (closeFrame statusCode reason).bytes
    { channel.write frame (answer.taken frame) with client := none }
  else { channel with client := none }

/-- The frames without payload that keep a connection alive. -/
def pingFrame : List UInt8 := [0x89, 0x00]

def pongFrame : List UInt8 := [0x8A, 0x00]

/-- A call of one of the writers, with what the socket answers to it. -/
inductive WriterCall where
  | sendFrame (opcode : UInt8) (payload : List UInt8) (forHeader forPayload : SendAnswer)
  | ping (answer : SendAnswer)
  | pong (answer : SendAnswer)
  | remove (statusCode : UInt16) (reason : Option Reason) (answer : SendAnswer)

/-- All callers look for an open client first. Only a removal takes place in any other state, too.
The output is the result of `send_websocket_frame`. -/
def perform (channel : Channel) (call : WriterCall) : Channel × List Int :=
  match channel.client with
  | none => (channel, [])
  | some client =>
      match call with
      | .remove statusCode reason answer => (removeClient channel client statusCode reason answer, [])
      | .sendFrame opcode payload forHeader forPayload =>
          if client.state = .open then
            let (result, next) := sendWebsocketFrame channel client opcode payload forHeader forPayload
            (next, [result])
          else (channel, [])
      | .ping answer =>
          if client.state = .open then (channel.write pingFrame (answer.taken pingFrame), []) else (channel, [])
      | .pong answer =>
          if client.state = .open then (channel.write pongFrame (answer.taken pongFrame), []) else (channel, [])

def writerMachine : Machine Channel WriterCall Int := ⟨perform⟩

end SecureChat.WebSocket.Writer
