/-
This file holds the operations of the offline manager as tasks that stop at every `await`,
so that the steps of one may come between those of another one.
-/

import SecureChat.Construction.Web.OfflineSync

namespace SecureChat.Web
open Library

/-- Where an operation goes on after `updateMessageStatus`. -/
inductive Caller where
  | acknowledgement
  | failing (rest : List OfflineRecord)
  | sent (message : OfflineRecord) (rest : List OfflineRecord)
  | retrying (rest : List OfflineRecord)
  | queried (rest : List OfflineRecord)
  deriving DecidableEq

/-- The `await` that an operation has come to, with what it remembers. -/
inductive Task where
  | lookAck (messageId statusCode : Nat)
  | lookReceipt (messageId readerId timestamp : Nat)
  | saveReceipt (message : OfflineRecord)
  | readStatus (id : Nat) (status : MessageStatus) (updates : Updates) (caller : Caller)
  | saveStatus (message : OfflineRecord) (caller : Caller)
  | listPending
  | sending (message : OfflineRecord) (rest : List OfflineRecord)
  | listStatuses
  | querying (message : OfflineRecord) (rest : List OfflineRecord)
  | listConversation (conversationId : Conversation)
  | findUser (messages : List OfflineRecord)
  | saveMark (message : OfflineRecord) (rest : List OfflineRecord) (currentUserId : Nat)
  | finished
  deriving DecidableEq

/-- What a task may learn while it waits: the reply to a message, the code of a status, and the time. -/
structure Answer where
  reply : Reply
  status : Option Nat
  now : Nat
  deriving DecidableEq, Repr

/-- The answer where there is nothing to learn. -/
def noAnswer : Answer := ⟨.null, none, 0⟩

namespace Task
open OfflineSyncManager

def tried (message : OfflineRecord) (now : Nat) : Updates := ⟨some (message.sendAttempts + 1), some now⟩

/-- The head of the loop in `syncPendingMessages`. -/
def nextPending : List OfflineRecord → Task
  | [] => .finished
  | message :: rest =>
      if message.sendAttempts ≥ 3 then .readStatus message.id .failed noUpdates (.failing rest)
      else .sending message rest

/-- The head of the loop in `syncMessageStatus`. -/
def nextStatus : List OfflineRecord → Task
  | [] => .finished
  | message :: rest => .querying message rest

/-- The head of the loop in `markConversationAsRead`. -/
def nextMark (currentUserId : Nat) : List OfflineRecord → Task
  | [] => .finished
  | message :: rest =>
      if currentUserId ∈ message.readBy then nextMark currentUserId rest
      else
        .saveMark { message with readBy := message.readBy ++ [currentUserId], status := .read } rest
          currentUserId

/-- An error of the database ends a pass, but for a message that was just sent. -/
def afterStatus (stored : Bool) (now : Nat) : Caller → Task
  | .acknowledgement => .finished
  | .failing rest => if stored then nextPending rest else .finished
  | .sent message rest =>
      if stored then nextPending rest
      else .readStatus message.id .pendingRetry (tried message now) (.retrying rest)
  | .retrying rest => if stored then nextPending rest else .finished
  | .queried rest => if stored then nextStatus rest else .finished

/-- A task goes on up to its next `await`. -/
def resume (store : MessageStore) (userId : Nat) (answer : Answer) : Task → MessageStore × Task
  | .lookAck messageId statusCode =>
      match getMessageByServerId store messageId with
      | none => (store, .finished)
      | some none => (store, .finished)
      | some (some message) =>
          match statusOfCode statusCode with
          | none => (store, .finished)
          | some status => (store, .readStatus message.id status noUpdates .acknowledgement)
  | .lookReceipt messageId readerId timestamp =>
      match getMessageByServerId store messageId with
      | none => (store, .finished)
      | some none => (store, .finished)
      | some (some message) => (store, .saveReceipt (withReader readerId timestamp message))
  | .saveReceipt message => ((saveMessage store message).getD store, .finished)
  | .readStatus id status updates caller =>
      match getMessage store id with
      | none => (store, afterStatus true answer.now caller)
      | some message => (store, .saveStatus (withStatus status updates message) caller)
  | .saveStatus message caller =>
      match saveMessage store message with
      | none => (store, afterStatus false answer.now caller)
      | some next => (next, afterStatus true answer.now caller)
  | .listPending => (store, nextPending (getPendingMessages store))
  | .sending message rest =>
      match sendMessageToServer message answer.reply with
      | none => (store, .readStatus message.id .pendingRetry (tried message answer.now) (.retrying rest))
      | some _ => (store, .readStatus message.id .sent (tried message answer.now) (.sent message rest))
  | .listStatuses => (store, nextStatus (getMessagesByStatus store [.sent, .delivered]))
  | .querying message rest =>
      match answer.status.bind statusOfCode with
      | none => (store, nextStatus rest)
      | some status => (store, .readStatus message.id status noUpdates (.queried rest))
  | .listConversation conversationId => (store, .findUser (getConversationMessages store conversationId 1000 0))
  | .findUser messages => (store, nextMark userId messages)
  | .saveMark message rest currentUserId =>
      match saveMessage store message with
      | none => (store, .finished)
      | some next => (next, nextMark currentUserId rest)
  | .finished => (store, .finished)

/-- The task is part of a pass, and the flag of the passes is up. -/
def inPass : Task → Bool
  | .readStatus _ _ _ caller => caller ≠ .acknowledgement
  | .saveStatus _ caller => caller ≠ .acknowledgement
  | .listPending => true
  | .sending _ _ => true
  | .listStatuses => true
  | .querying _ _ => true
  | _ => false

end Task

structure OfflineState where
  store : MessageStore
  tasks : List Task
  userId : Nat
  deriving DecidableEq

/-- A new operation, or one that goes on. A sync begins its passes one after the other,
the second one only if nothing in between throws. -/
inductive TaskEvent where
  | storeMessage (draft : Draft) (id now : Nat)
  | pushed (data : List UInt8) (id now : Nat)
  | syncPendingMessages
  | syncMessageStatus
  | acknowledged (data : List UInt8)
  | receipt (data : List UInt8)
  | markConversationAsRead (conversationId : Conversation)
  | resume (task : Nat) (answer : Answer)

namespace OfflineState
open OfflineSyncManager

def begin (state : OfflineState) (task : Task) : OfflineState := { state with tasks := state.tasks ++ [task] }

def resume (state : OfflineState) (index : Nat) (answer : Answer) : OfflineState :=
  match state.tasks[index]? with
  | none => state
  | some task =>
      let (store, next) := task.resume state.store state.userId answer
      { state with store := store, tasks := state.tasks.set index next }

/-- A new record needs one transaction only. A generated key is a new one. -/
def step (deviceId : Nat) (state : OfflineState) : TaskEvent → OfflineState
  | .storeMessage draft id now =>
      if (state.store.get id).isSome then state
      else { state with store := (OfflineSyncManager.storeMessage state.store draft id now).getD state.store }
  | .pushed data id now =>
      if (state.store.get id).isSome then state
      else { state with store := handleIncomingMessage state.store data id deviceId now }
  | .syncPendingMessages => if state.tasks.any Task.inPass then state else state.begin .listPending
  | .syncMessageStatus => if state.tasks.any Task.inPass then state else state.begin .listStatuses
  | .acknowledged data =>
      match parseMessageAck data with
      | none => state
      | some (messageId, statusCode) => state.begin (.lookAck messageId statusCode)
  | .receipt data =>
      match parseReadReceipt data with
      | none => state
      | some (messageId, readerId, timestamp) => state.begin (.lookReceipt messageId readerId timestamp)
  | .markConversationAsRead conversationId => state.begin (.listConversation conversationId)
  | .resume task answer => state.resume task answer

/-- The operations in flight go on in some order. -/
def interleave (state : OfflineState) (schedule : List (Nat × Answer)) : OfflineState :=
  schedule.foldl (fun state go => state.resume go.1 go.2) state

end OfflineState

/-- The operations that change a stored message which others read. -/
inductive Handling where
  | markMessageAsRead (messageId readerId timestamp : Nat)
  | updateMessageStatus (id : Nat) (status : MessageStatus) (updates : Updates)
  | markConversationAsRead (conversationId : Conversation)
  deriving DecidableEq

/-- The first `await` of an operation. -/
def Handling.task : Handling → Task
  | .markMessageAsRead messageId readerId timestamp => .lookReceipt messageId readerId timestamp
  | .updateMessageStatus id status updates => .readStatus id status updates .acknowledgement
  | .markConversationAsRead conversationId => .listConversation conversationId

end SecureChat.Web
