/-
This file handles the text messages of a chat.
-/

import SecureChat.Construction.Protocol
import SecureChat.Construction.Server.MessageHandler

namespace SecureChat.Dispatch
open Protocol

def messageStatusSent : UInt8 := 1

/-- `sizeof(user_info_t)` of the packed struct. -/
def userInfoSize : Nat := 426

/-- The sizes with that of the struct of a message. -/
def Layout.withMessageContent (layout : Layout) : Layout :=
  { layout with messageContent := messageContentSize }

/-- The identifiers in the array of online users. The array is in memory. -/
structure OnlineUsers where
  ids : List UInt64
  fits : ids.length * userInfoSize < 2 ^ 64

/-- The body of a message, and what the memory behind it holds. -/
structure MessageBody where
  data : List UInt8
  behind : Nat → UInt8

def MessageBody.memory (body : MessageBody) (index : Nat) : UInt8 :=
  body.data.getD index (body.behind (index - body.data.length))

def MessageBody.slice (body : MessageBody) (start count : Nat) : List UInt8 :=
  (List.range count).map fun index => body.memory (start + index)

/-- Bytes of the body that a step reads. -/
structure ByteRange where
  start : Nat
  count : Nat
  deriving DecidableEq, Repr

/-- A new row of the table `messages`. -/
structure ChatRow where
  senderId : UInt64
  receiverId : UInt64
  messageType : UInt32
  content : List UInt8
  contentHash : String
  timestamp : UInt64
  status : UInt8
  deriving DecidableEq, Repr

/-- What the user manager, the heap, the database, the clock and the socket answer.
The array of identifiers has the content that `malloc` finds there. -/
structure ChatAnswers where
  onlineUsers : Option OnlineUsers
  mallocOk : Bool
  heap : Nat → UInt64
  isOnline : UInt64 → Bool
  prepareOk : Bool
  now : UInt64
  responseSent : Int

inductive ChatOutcome where
  | refused (code : Int)
  | processed (code : Int) (sends : List UInt64) (row : Option ChatRow)

def ChatOutcome.isProcessed : ChatOutcome → Bool
  | .refused _ => false
  | .processed _ _ _ => true

/-- The users to whom `server_send_to_user` is called, in this order. -/
def ChatOutcome.sends : ChatOutcome → List UInt64
  | .refused _ => []
  | .processed _ sends _ => sends

/-- The array behind the loop over the users. The place of the sender is not written. -/
def userIdsArray (users : List UInt64) (sender : UInt64) (heap : Nat → UInt64) (index : Nat) : UInt64 :=
  match users[index]? with
  | some user => if user ≠ sender then user else heap index
  | none => heap index

def messageBroadcastToUsers (userIds : Nat → UInt64) (userCount : UInt64) : List UInt64 :=
  (List.range userCount.toNat).map userIds

/-- The calls for a message, which is for everybody if the receiver is zero. -/
def chatSends (message : MessageContent) (sender : UInt64) (answers : ChatAnswers) : List UInt64 :=
  if message.receiverId = 0 then
    match answers.onlineUsers with
    | none => []
    | some users =>
        if answers.mallocOk then
          messageBroadcastToUsers (userIdsArray users.ids sender answers.heap)
            (UInt64.ofNat users.ids.length - 1)
        else []
  else if answers.isOnline message.receiverId then [message.receiverId]
  else []

/-- The row that is inserted. The checksum of the content is computed and then left aside. -/
def chatRow (message : MessageContent) (body : MessageBody) (now : UInt64) : ChatRow where
  senderId := message.senderId
  receiverId := message.receiverId
  messageType := message.messageType
  content := body.slice messageContentSize message.contentLength.toNat
  contentHash := "hash"
  timestamp := now
  status := messageStatusSent

/-- Each send reads the whole body. The checksum and the database read the declared content. -/
def chatReads (message : MessageContent) (body : MessageBody) (sends : List UInt64) (answers : ChatAnswers) :
    List ByteRange :=
  sends.map (fun _ => ⟨0, body.data.length⟩) ++
    if answers.prepareOk then [⟨0, messageContentSize⟩, ⟨messageContentSize, message.contentLength.toNat⟩] else []

/-- What is read of the body, and what comes of the message. -/
def handleChatTextSend (conn : ClientConnection) (body : MessageBody) (answers : ChatAnswers) :
    List ByteRange × ChatOutcome :=
  let message := castMessageContent body.memory
  if body.data.length < messageContentSize then ([], .refused (-1))
  else if message.senderId ≠ conn.userId then ([⟨0, messageContentSize⟩], .refused (-2))
  else if maxMessageSize < message.contentLength.toNat then ([⟨0, messageContentSize⟩], .refused (-3))
  else
    let sends := chatSends message conn.userId answers
    let row := if answers.prepareOk then some (chatRow message body answers.now) else none
    (⟨0, messageContentSize⟩ :: chatReads message body sends answers,
      .processed answers.responseSent sends row)

/-- The copy of the data that is handed out, with the code that is returned. -/
def messageParseData (layout : Layout) (body : MessageBody) (messageType : UInt32) (mallocOk : Bool) :
    Int × Option (List UInt8) :=
  if body.data.length = 0 then (-1, none)
  else if messageType = msgAuthLogin then
    if body.data.length < layout.loginMsg then (-2, none)
    else if !mallocOk then (-3, none)
    else (0, some (body.slice 0 layout.loginMsg))
  else if messageType = msgChatTextSend then
    if body.data.length < layout.messageContent then (-2, none)
    else
      let total := layout.messageContent + (castMessageContent body.memory).contentLength.toNat
      if body.data.length < total then (-3, none)
      else if !mallocOk then (-4, none)
      else (0, some (body.slice 0 total))
  else if !mallocOk then (-5, none)
  else (0, some body.data)

end SecureChat.Dispatch
