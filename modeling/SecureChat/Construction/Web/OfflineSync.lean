/-
This file holds the message store of the browser client, and what the offline manager does
with it when nothing interrupts it.
-/

import SecureChat.Library.ByteOrder
import SecureChat.Library.Doubles
import SecureChat.Library.Machine
import SecureChat.Library.ObjectStore

namespace SecureChat.Web
open Library Library.JsNumber

inductive MessageStatus where
  | localDraft | sending | sent | delivered | read | failed | pendingRetry | conflict
  deriving DecidableEq, Repr

/-- A conversation is named after a user or a group. -/
inductive Conversation where
  | user (userId : Nat)
  | group (groupId : Nat)
  deriving DecidableEq, Repr

inductive Content where
  | arrayBuffer (bytes : List UInt8)
  | text (value : String)
  deriving DecidableEq, Repr

/--
The `OfflineMessage` of the store.
Of the texts in the fields `id`, `localId` and `deliveredTo` only order and equality count.
-/
structure OfflineRecord where
  id : Nat
  localId : Option Nat
  messageId : Nat
  conversationId : Conversation
  senderId : Nat
  receiverId : Nat
  groupId : Option Nat
  type : Nat
  content : Content
  encrypted : Bool
  timestamp : Nat
  localTimestamp : Nat
  status : MessageStatus
  sendAttempts : Nat
  lastAttempt : Nat
  synced : Bool
  readBy : List Nat
  deliveredTo : List Nat
  deriving DecidableEq, Repr

/-- The object store of the messages, with its key path and its unique index. -/
abbrev MessageStore := ObjectStore OfflineRecord.id OfflineRecord.localId

/-- The indexes that the upgrade of the database creates. -/
inductive MessageIndex where
  | conversationId | timestamp | status | synced | localId
  deriving DecidableEq, Repr

/-- A key that the index over the status is asked for. -/
inductive StatusKey where
  | value (status : MessageStatus)
  | array (statuses : List MessageStatus)
  deriving DecidableEq, Repr

/-- The fields of a new message that its author gives. -/
structure Draft where
  localId : Option Nat
  messageId : Nat
  conversationId : Conversation
  senderId : Nat
  receiverId : Nat
  groupId : Option Nat
  type : Nat
  content : Content
  encrypted : Bool
  timestamp : Nat
  deriving DecidableEq, Repr

structure IncomingMessage where
  messageId : Nat
  senderId : Nat
  receiverId : Nat
  groupId : Option Nat
  type : Nat
  content : List UInt8
  encrypted : Bool
  timestamp : Nat
  deriving DecidableEq, Repr

/-- The fields that a change of the status may bring with it. -/
structure Updates where
  sendAttempts : Option Nat
  lastAttempt : Option Nat
  deriving DecidableEq, Repr

/-- What becomes of a message on its way to the server. -/
inductive Reply where
  | response (messageId : Nat)
  | null
  | rejected
  deriving DecidableEq, Repr

def msgChatTextSend : Nat := 0x03000001
def msgChatFileSend : Nat := 0x03000004
def msgGroupMessageSend : Nat := 0x04000007

namespace OfflineSyncManager

/-- An index that was not created is an error. -/
def index (name : String) : Option MessageIndex :=
  match name with
  | "conversationId" => some .conversationId
  | "timestamp" => some .timestamp
  | "status" => some .status
  | "synced" => some .synced
  | "localId" => some .localId
  | _ => none

def saveMessage (store : MessageStore) (message : OfflineRecord) : Option MessageStore := store.put message

def getMessage (store : MessageStore) (id : Nat) : Option OfflineRecord := store.get id

def getMessageByServerId (store : MessageStore) (messageId : Nat) : Option (Option OfflineRecord) :=
  (index "messageId").map fun _ => store.records.find? fun message => message.messageId = messageId

/-- The records of the index over the status whose key equals the wanted one. -/
def getAllByStatus (store : MessageStore) (wanted : StatusKey) : List OfflineRecord :=
  store.getAll fun message => StatusKey.value message.status = wanted

def getPendingMessages (store : MessageStore) : List OfflineRecord :=
  getAllByStatus store (.array [.sending, .pendingRetry])

def getMessagesByStatus (store : MessageStore) (statuses : List MessageStatus) : List OfflineRecord :=
  statuses.flatMap fun status => getAllByStatus store (.value status)

/-- One page of the messages of a conversation, the newest first. -/
def getConversationMessages (store : MessageStore) (conversationId : Conversation) (limit offset : Nat) :
    List OfflineRecord :=
  let messages := store.getAll fun message => message.conversationId = conversationId
  ((messages.mergeSort fun first second => decide (second.timestamp ≤ first.timestamp)).drop offset).take limit

/-- The record with its new status. -/
def withStatus (status : MessageStatus) (updates : Updates) (message : OfflineRecord) : OfflineRecord :=
  { message with
    status := status
    sendAttempts := updates.sendAttempts.getD message.sendAttempts
    lastAttempt := updates.lastAttempt.getD message.lastAttempt
    synced := message.synced || status = .sent }

def noUpdates : Updates := ⟨none, none⟩

/-- None is an error of the database. -/
def updateMessageStatus (store : MessageStore) (id : Nat) (status : MessageStatus) (updates : Updates) :
    Option MessageStore :=
  match getMessage store id with
  | none => some store
  | some message => saveMessage store (withStatus status updates message)

def statusOfCode : Nat → Option MessageStatus
  | 1 => some .sent
  | 2 => some .delivered
  | 3 => some .read
  | _ => none

def updateMessageStatusByServerId (store : MessageStore) (messageId statusCode : Nat) : Option MessageStore := do
  match ← getMessageByServerId store messageId with
  | none => some store
  | some message =>
      match statusOfCode statusCode with
      | none => some store
      | some status => updateMessageStatus store message.id status noUpdates

/-- The record with one more reader. -/
def withReader (readerId timestamp : Nat) (message : OfflineRecord) : OfflineRecord :=
  { message with
    readBy := if readerId ∈ message.readBy then message.readBy else message.readBy ++ [readerId]
    status := .read
    timestamp := timestamp }

def markMessageAsRead (store : MessageStore) (messageId readerId timestamp : Nat) : Option MessageStore := do
  match ← getMessageByServerId store messageId with
  | none => some store
  | some message => saveMessage store (withReader readerId timestamp message)

/-- The message number and the status code of an acknowledgement. -/
def parseMessageAck (data : List UInt8) : Option (Nat × Nat) := do
  let messageId ← getUint 8 0 data
  let statusCode ← getUint 4 8 data
  some (messageId, statusCode)

/-- The message number, the reader and the time of a receipt. -/
def parseReadReceipt (data : List UInt8) : Option (Nat × Nat × Nat) := do
  let messageId ← getUint 8 0 data
  let readerId ← getUint 8 8 data
  let timestamp ← getUint 8 16 data
  some (messageId, readerId, numberOfBigInt timestamp)

def parseIncomingMessage (data : List UInt8) : Option IncomingMessage := do
  let messageId ← getUint 8 0 data
  let senderId ← getUint 8 8 data
  let receiverId ← getUint 8 16 data
  let timestamp ← getUint 8 24 data
  let messageType ← getUint 4 32 data
  let _replyToId ← getUint 8 36 data
  let encrypted ← getUint 1 44 data
  -- The hash is a view of the buffer and has to lie inside.
  if data.length < 45 + 64 then none else
  let contentLength ← getUint 4 109 data
  some {
    messageId := numberOfBigInt messageId
    senderId := numberOfBigInt senderId
    receiverId := numberOfBigInt receiverId
    groupId := none
    type := messageType
    content := sliceBytes 113 (113 + contentLength) data
    encrypted := encrypted ≠ 0
    timestamp := numberOfBigInt timestamp }

def getConversationId (messageData : IncomingMessage) : Conversation :=
  match messageData.groupId with
  | some groupId => if groupId ≠ 0 then .group groupId else .user messageData.senderId
  | none => .user messageData.senderId

/-- The record of an incoming message, under a new key. -/
def incomingRecord (messageData : IncomingMessage) (id deviceId now : Nat) : OfflineRecord where
  id := id
  localId := none
  messageId := messageData.messageId
  conversationId := getConversationId messageData
  senderId := messageData.senderId
  receiverId := messageData.receiverId
  groupId := messageData.groupId.filter (· ≠ 0)
  type := messageData.type
  content := .arrayBuffer messageData.content
  encrypted := messageData.encrypted
  timestamp := messageData.timestamp
  localTimestamp := now
  status := .delivered
  sendAttempts := 0
  lastAttempt := 0
  synced := true
  readBy := []
  deliveredTo := [deviceId]

def processIncomingMessage (store : MessageStore) (messageData : IncomingMessage) (id deviceId now : Nat) :
    Option MessageStore := saveMessage store (incomingRecord messageData id deviceId now)

/-- The record of a message that this client writes, under a new key. -/
def draftRecord (draft : Draft) (id now : Nat) : OfflineRecord where
  id := id
  localId := draft.localId
  messageId := draft.messageId
  conversationId := draft.conversationId
  senderId := draft.senderId
  receiverId := draft.receiverId
  groupId := draft.groupId
  type := draft.type
  content := draft.content
  encrypted := draft.encrypted
  timestamp := draft.timestamp
  localTimestamp := now
  status := .sending
  sendAttempts := 0
  lastAttempt := 0
  synced := false
  readBy := []
  deliveredTo := []

def storeMessage (store : MessageStore) (draft : Draft) (id now : Nat) : Option MessageStore :=
  saveMessage store (draftRecord draft id now)

/-- None is a rejected promise. The functions for files and for groups do not exist. -/
def sendMessageToServer (message : OfflineRecord) (reply : Reply) : Option Reply :=
  if message.type = msgChatTextSend then
    if reply = .rejected then none else some reply
  else if message.type = msgChatFileSend then none
  else if message.type = msgGroupMessageSend then none
  else none

/-- A pass over the outbox: the store, the messages that were tried, what the server has taken
with which number, and whether the pass goes on. -/
structure Pass where
  store : MessageStore
  attempted : List Nat
  accepted : List (Nat × Nat)
  running : Bool
  deriving DecidableEq

/-- An error of the database ends the pass. -/
def Pass.after (pass : Pass) : Option MessageStore → Pass
  | some store => { pass with store := store }
  | none => { pass with running := false }

/-- One round of the loop over the pending messages.
An error of the database after a message was sent counts as a failure to send it. -/
def Pass.round (reply : OfflineRecord → Reply) (now : Nat) (pass : Pass) (message : OfflineRecord) : Pass :=
  if ¬ pass.running then pass
  else if message.sendAttempts ≥ 3 then
    pass.after (updateMessageStatus pass.store message.id .failed noUpdates)
  else
    let tried : Updates := ⟨some (message.sendAttempts + 1), some now⟩
    let pass := { pass with attempted := pass.attempted ++ [message.id] }
    match sendMessageToServer message (reply message) with
    | none => pass.after (updateMessageStatus pass.store message.id .pendingRetry tried)
    | some answer =>
        let pass := match answer with
          | .response messageId => { pass with accepted := pass.accepted ++ [(message.id, messageId)] }
          | _ => pass
        match updateMessageStatus pass.store message.id .sent tried with
        | some store => { pass with store := store }
        | none => pass.after (updateMessageStatus pass.store message.id .pendingRetry tried)

/-- The loop over the messages that it is given. -/
def sendAll (store : MessageStore) (messages : List OfflineRecord) (reply : OfflineRecord → Reply) (now : Nat) :
    Pass := messages.foldl (Pass.round reply now) ⟨store, [], [], true⟩

def syncPendingMessages (store : MessageStore) (reply : OfflineRecord → Reply) (now : Nat) : Pass :=
  sendAll store (getPendingMessages store) reply now

/-- The server is asked for the status of one message, and it answers with a code.
Where the query fails or has another answer the message is left alone. -/
def Pass.query (answer : OfflineRecord → Option Nat) (pass : Pass) (message : OfflineRecord) : Pass :=
  if ¬ pass.running then pass
  else
    match (answer message).bind statusOfCode with
    | some status => pass.after (updateMessageStatus pass.store message.id status noUpdates)
    | none => pass

def syncMessageStatus (answer : OfflineRecord → Option Nat) (pass : Pass) : Pass :=
  if ¬ pass.running then pass
  else (getMessagesByStatus pass.store [.sent, .delivered]).foldl (Pass.query answer) pass

/-- The operations between these two do not touch the messages, and the pull after them fetches nothing.
Where they throw no status is asked for, as if the server knew none. -/
def autoSync (store : MessageStore) (reply : OfflineRecord → Reply) (answer : OfflineRecord → Option Nat)
    (now : Nat) : Pass := syncMessageStatus answer (syncPendingMessages store reply now)

/-- Bytes that cannot be read throw, and so does the database. The callers log it. -/
def handleMessageAck (store : MessageStore) (data : List UInt8) : MessageStore :=
  match parseMessageAck data with
  | none => store
  | some (messageId, statusCode) => (updateMessageStatusByServerId store messageId statusCode).getD store

def handleReadReceipt (store : MessageStore) (data : List UInt8) : MessageStore :=
  match parseReadReceipt data with
  | none => store
  | some (messageId, readerId, timestamp) => (markMessageAsRead store messageId readerId timestamp).getD store

def handleIncomingMessage (store : MessageStore) (data : List UInt8) (id deviceId now : Nat) : MessageStore :=
  match parseIncomingMessage data with
  | none => store
  | some messageData => (processIncomingMessage store messageData id deviceId now).getD store

end OfflineSyncManager

/-- An operation that runs to its end without another one in between. -/
inductive OfflineEvent where
  | storeMessage (draft : Draft) (id now : Nat)
  | sync (reply : OfflineRecord → Reply) (answer : OfflineRecord → Option Nat) (now : Nat)
  | pushed (data : List UInt8) (id now : Nat)
  | pulled (messageData : IncomingMessage) (id now : Nat)
  | acknowledged (data : List UInt8)
  | receipt (data : List UInt8)

open OfflineSyncManager in
/-- A generated key is a new one. The messages that the server has taken are shown with their numbers. -/
def offlineStep (deviceId : Nat) (store : MessageStore) : OfflineEvent → MessageStore × List (Nat × Nat)
  | .storeMessage draft id now =>
      if (store.get id).isSome then (store, []) else ((storeMessage store draft id now).getD store, [])
  | .sync reply answer now =>
      let pass := autoSync store reply answer now
      (pass.store, pass.accepted)
  | .pushed data id now =>
      if (store.get id).isSome then (store, []) else (handleIncomingMessage store data id deviceId now, [])
  | .pulled messageData id now =>
      if (store.get id).isSome then (store, [])
      else ((processIncomingMessage store messageData id deviceId now).getD store, [])
  | .acknowledged data => (handleMessageAck store data, [])
  | .receipt data => (handleReadReceipt store data, [])

def offlineMachine (deviceId : Nat) : Machine MessageStore OfflineEvent (Nat × Nat) where
  step := offlineStep deviceId

end SecureChat.Web
