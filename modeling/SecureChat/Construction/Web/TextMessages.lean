/-
This file holds the text message format of the browser clients:
the two functions that write it and the one that reads it.
-/

import SecureChat.Library.ByteOrder
import SecureChat.Library.Doubles

namespace SecureChat.Web
open Library Library.JsNumber

/-- An identifier is a big integer and the timestamp is a number with an integral value. -/
structure OfflineMessage where
  receiverId : Int
  encrypted : Bool
  timestamp : Int
  deriving DecidableEq, Repr

/-- What is read of a message, with its identifiers as numbers. -/
structure ParsedMessage where
  messageId : Nat
  senderId : Nat
  receiverId : Nat
  timestamp : Nat
  type : Nat
  replyToId : Nat
  encrypted : Bool
  contentHash : List Char
  content : List UInt8
  deriving DecidableEq, Repr

/-- The fields that a stored message takes from the wire. -/
structure ReceivedMessage where
  messageId : Int
  senderId : Int
  receiverId : Int
  type : Nat
  content : List UInt8
  encrypted : Bool
  timestamp : Nat
  deriving DecidableEq, Repr

/-- A byte as two hexadecimal digits. -/
def hexByte (byte : UInt8) : List Char := [Nat.digitChar (byte.toNat / 16), Nat.digitChar (byte.toNat % 16)]

namespace MessageSyncManager

def prepareTextMessageData (message : OfflineMessage) (content : List UInt8) : Option (List UInt8) := do
  let view := List.replicate (8 + 8 + 8 + 8 + 4 + 8 + 1 + 64 + 4 + content.length) 0
  let offset := 0
  let view ← setUint 8 offset 0 view
  let offset := offset + 8
  let view ← setUint 8 offset 0 view
  let offset := offset + 8
  let view ← setUint 8 offset message.receiverId view
  let offset := offset + 8
  let view ← setUint 8 offset message.timestamp view
  let offset := offset + 8
  let view ← setUint 4 offset 0 view
  let offset := offset + 4
  -- The identifier of the message that this one answers is never set.
  let view ← setUint 8 offset 0 view
  let offset := offset + 8
  let view ← setUint 1 offset (if message.encrypted then 1 else 0) view
  let offset := offset + 1
  let view ← setBytes offset (List.replicate 64 0) view
  let offset := offset + 64
  let view ← setUint 4 offset content.length view
  let offset := offset + 4
  setBytes offset content view

def parseIncomingMessage (data : List UInt8) : Option ParsedMessage := do
  let offset := 0
  let messageId ← getUint 8 offset data
  let offset := offset + 8
  let senderId ← getUint 8 offset data
  let offset := offset + 8
  let receiverId ← getUint 8 offset data
  let offset := offset + 8
  let timestamp ← getUint 8 offset data
  let offset := offset + 8
  let messageType ← getUint 4 offset data
  let offset := offset + 4
  let replyToId ← getUint 8 offset data
  let offset := offset + 8
  let encrypted ← getUint 1 offset data
  let offset := offset + 1
  -- The view of the hash throws when it leaves the buffer.
  if data.length < offset + 64 then none else
  let hashArray := sliceBytes offset (offset + 64) data
  let offset := offset + 64
  let contentLength ← getUint 4 offset data
  let offset := offset + 4
  let content := sliceBytes offset (offset + contentLength) data
  some {
    messageId := numberOfBigInt messageId
    senderId := numberOfBigInt senderId
    receiverId := numberOfBigInt receiverId
    timestamp := numberOfBigInt timestamp
    type := messageType
    replyToId := numberOfBigInt replyToId
    encrypted := encrypted ≠ 0
    contentHash := hashArray.flatMap hexByte
    content := content }

def processIncomingMessage (messageData : ParsedMessage) : ReceivedMessage where
  messageId := messageData.messageId
  senderId := messageData.senderId
  receiverId := messageData.receiverId
  type := messageData.type
  content := messageData.content
  encrypted := messageData.encrypted
  timestamp := messageData.timestamp

end MessageSyncManager

namespace SecureChatWebSocket

/-- The data that is handed to `sendMessage`, for the bytes of the text. -/
def sendTextMessage (receiverId : Int) (textBuffer : List UInt8) (now : Int) : Option (List UInt8) := do
  let view := List.replicate (8 + 8 + 8 + 4 + 8 + 1 + 64 + 4 + textBuffer.length) 0
  let offset := 0
  let view ← setUint 8 offset 0 view
  let offset := offset + 8
  let view ← setUint 8 offset 0 view
  let offset := offset + 8
  let view ← setUint 8 offset receiverId view
  let offset := offset + 8
  let view ← setUint 8 offset now view
  let offset := offset + 8
  let view ← setUint 4 offset 0 view
  let offset := offset + 4
  let view ← setUint 8 offset 0 view
  let offset := offset + 8
  let view ← setUint 1 offset 0 view
  let offset := offset + 1
  let view ← setBytes offset (List.replicate 64 0) view
  let offset := offset + 64
  let view ← setUint 4 offset textBuffer.length view
  let offset := offset + 4
  setBytes offset textBuffer view

end SecureChatWebSocket

/-- The nine fields in front of the content. -/
def textFields (messageId senderId receiverId timestamp : Int) (encrypted : Bool) (length : Nat) :
    List (List UInt8) :=
  [uintBytes 8 messageId, uintBytes 8 senderId, uintBytes 8 receiverId, uintBytes 8 timestamp,
    uintBytes 4 0, uintBytes 8 0, uintBytes 1 (if encrypted then 1 else 0), List.replicate 64 0,
    uintBytes 4 length]

theorem textFields_length (messageId senderId receiverId timestamp : Int) (encrypted : Bool) (length : Nat) :
    (textFields messageId senderId receiverId timestamp encrypted length).flatten.length = 113 := by
  simp [textFields]

/-- The message fills its buffer. -/
theorem MessageSyncManager.prepareTextMessageData_eq (message : OfflineMessage) (content : List UInt8) :
    prepareTextMessageData message content =
      some ((textFields 0 0 message.receiverId message.timestamp message.encrypted content.length).flatten ++
        content) := by
  have size := textFields_length 0 0 message.receiverId message.timestamp message.encrypted content.length
  have chain : prepareTextMessageData message content =
      writeFields 0 (textFields 0 0 message.receiverId message.timestamp message.encrypted content.length ++
        [content]) (List.replicate (113 + content.length) 0) := by
    simp only [prepareTextMessageData, textFields, List.cons_append, List.nil_append, writeFields, setUint,
      uintBytes_length, List.length_replicate, Option.bind_eq_bind, Option.bind_fun_some,
      Nat.zero_add, Nat.reduceAdd]
  rw [chain, writeFields_zero, List.flatten_append, List.flatten_singleton, List.length_append, size,
    Nat.sub_self, List.replicate_zero, List.append_nil]
  rw [List.flatten_append, List.flatten_singleton, List.length_append, size]

/-- The buffer has no place for one of the nine fields. -/
theorem SecureChatWebSocket.sendTextMessage_overflows (receiverId : Int) (textBuffer : List UInt8) (now : Int) :
    sendTextMessage receiverId textBuffer now = none := by
  have size := textFields_length 0 0 receiverId now false textBuffer.length
  have chain : sendTextMessage receiverId textBuffer now =
      writeFields 0 (textFields 0 0 receiverId now false textBuffer.length ++ [textBuffer])
        (List.replicate (105 + textBuffer.length) 0) := by
    simp only [sendTextMessage, textFields, List.cons_append, List.nil_append, writeFields, setUint,
      uintBytes_length, List.length_replicate, Option.bind_eq_bind, Option.bind_fun_some,
      Nat.zero_add, Nat.reduceAdd, Bool.false_eq_true, if_false]
  have long : (textFields 0 0 receiverId now false textBuffer.length ++ [textBuffer]).flatten.length =
      113 + textBuffer.length := by
    rw [List.flatten_append, List.flatten_singleton, List.length_append, size]
  rw [chain, writeFields_overflow]
  · intro empty
    rw [empty, List.length_nil] at long
    omega
  · rw [List.length_replicate, long]
    omega

end SecureChat.Web
