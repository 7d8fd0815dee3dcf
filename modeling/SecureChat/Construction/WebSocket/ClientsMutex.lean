/-
This file follows `clients_mutex` through the worker thread of the WebSocket server and the callbacks.
-/

import SecureChat.Construction.Server.Maintenance
import SecureChat.Construction.WebSocket.Session
import SecureChat.Library.Threads

namespace SecureChat.WebSocket.ClientsMutex
open Library

/-- A client in its slot of the array. -/
structure Slot where
  fd : Int
  client : WebsocketClient

/-- The fields of the server that decide who locks, with the array of its clients. -/
structure Table where
  server : WebsocketServer
  running : Bool
  timeout : UInt32
  clients : List (Option Slot)

/-- A call of a public function out of a callback. A pointer may be null.
The last one comes with the calls that `on_close` makes if there is a client to close. -/
inductive ApiCall where
  | sendText (text : Option (List UInt8))
  | sendBinary (data : Option (List UInt8))
  | sendJson (json : Option (List UInt8))
  | broadcastText (text : Option (List UInt8))
  | broadcastBinary (data : Option (List UInt8))
  | getClient
  | getClientCount
  | getStats
  | closeClient (onClose : List ApiCall)

/-- The tests in front of the lock. A text may be empty, and only the broadcasts look at the length first. -/
def ApiCall.locks (table : Table) : ApiCall → Bool
  | .sendText text => table.running && text.isSome
  | .sendBinary data => table.running && data.any (0 < ·.length)
  | .sendJson json => table.running && json.isSome
  | .broadcastText text =>
      table.running && text.any (·.length ≤ table.server.config.maxMessageSize.toNat)
  | .broadcastBinary data =>
      table.running && data.any fun data => 0 < data.length && data.length ≤ table.server.config.maxMessageSize.toNat
  | .getClient => true
  | .getClientCount => true
  | .getStats => false
  | .closeClient _ => table.running

mutual

/-- The send functions have the mutex only while they look for the client or send to all of them.
`on_close` is called with the mutex held. -/
def ApiCall.ops (table : Table) : ApiCall → List LockOp
  | .closeClient onClose => if table.running then .lock :: (opsOfCalls table onClose ++ [.unlock]) else []
  | .sendText text => if (ApiCall.sendText text).locks table then [.lock, .unlock] else []
  | .sendBinary data => if (ApiCall.sendBinary data).locks table then [.lock, .unlock] else []
  | .sendJson json => if (ApiCall.sendJson json).locks table then [.lock, .unlock] else []
  | .broadcastText text => if (ApiCall.broadcastText text).locks table then [.lock, .unlock] else []
  | .broadcastBinary data => if (ApiCall.broadcastBinary data).locks table then [.lock, .unlock] else []
  | .getClient => [.lock, .unlock]
  | .getClientCount => [.lock, .unlock]
  | .getStats => []

def opsOfCalls (table : Table) : List ApiCall → List LockOp
  | [] => []
  | call :: rest => call.ops table ++ opsOfCalls table rest

end

/-- `remove_client` locks, calls `on_close` and unlocks. -/
def removeOps (table : Table) (onClose : List ApiCall) : List LockOp :=
  .lock :: (opsOfCalls table onClose ++ [.unlock])

/-- What one read gives, whether it completes a handshake, and which calls the callbacks make if they are called. -/
structure ReadAnswer where
  result : RecvResult
  tick : Tick
  handshake : Bool
  onMessage : List ApiCall
  onBinary : List ApiCall
  onClose : List ApiCall

def eventOps (table : Table) (answer : ReadAnswer) : SessionEvent → List LockOp
  | .onMessage _ => opsOfCalls table answer.onMessage
  | .onBinary _ => opsOfCalls table answer.onBinary
  | .send _ => []
  | .removeClient _ _ => removeOps table answer.onClose

/-- `process_websocket_frame` is called with the mutex held. -/
def frameOps (table : Table) (client : WebsocketClient) (data : List UInt8) (answer : ReadAnswer) : List LockOp :=
  (processWebsocketFrame table.server client data answer.tick).events.flatMap (eventOps table answer)

/-- The slot of a client that has received something, with the statistics. -/
def Table.received (table : Table) (index : Nat) (slot : Slot) (outcome : Outcome) (length : Nat) : Table :=
  let session := countBytes outcome length
  { table with
    server := session.server
    clients := table.clients.set index (session.client.map fun client => { slot with client := client }) }

/-- One round of the loop over the readable clients. -/
def readSlot (isSet : Int → Bool) (answers : Nat → ReadAnswer) (state : Table × List LockOp) (index : Nat) :
    Table × List LockOp :=
  let (table, ops) := state
  match table.clients[index]? with
  | some (some slot) =>
      if isSet slot.fd = false then (table, ops) else
      let answer := answers index
      match answer.result with
      | .data bytes =>
          let active := { slot.client with lastActivity := answer.tick.now }
          if active.state = .connecting then
            let shaken := if answer.handshake then { active with state := .open } else active
            (table.received index slot ⟨0, table.server, some shaken, []⟩ bytes.length, ops)
          else if active.state = .open then
            (table.received index slot (processWebsocketFrame table.server active bytes answer.tick) bytes.length,
              ops ++ frameOps table active bytes answer)
          else (table.received index slot ⟨0, table.server, some active, []⟩ bytes.length, ops)
      | .closed =>
          ({ table with clients := table.clients.set index none }, ops ++ removeOps table answer.onClose)
      | .again => (table, ops)
      | .failed =>
          ({ table with clients := table.clients.set index none }, ops ++ removeOps table answer.onClose)
  | _ => (table, ops)

def readSlots (table : Table) (isSet : Int → Bool) (answers : Nat → ReadAnswer) : Table × List LockOp :=
  (List.range table.clients.length).foldl (readSlot isSet answers) (table, [])

/-- The difference of the times and the limit are unsigned words, as they are for the sweep. -/
def overdue (table : Table) (currentTime : UInt64) (slot : Slot) : Bool :=
  slot.client.state = .open ∧
    currentTime - UInt64.ofNat slot.client.lastActivity > Server.IdleSweeps.timeoutMs table.timeout

/-- One round of the loop in `check_client_timeout`. -/
def timeoutOps (table : Table) (currentTime : UInt64) (onClose : Nat → List ApiCall) (index : Nat) : List LockOp :=
  if table.clients[index]?.join.any (overdue table currentTime) then removeOps table (onClose index) else []

def checkClientTimeoutOps (table : Table) (currentTime : UInt64) (onClose : Nat → List ApiCall) : List LockOp :=
  .lock :: ((List.range table.clients.length).flatMap (timeoutOps table currentTime onClose) ++ [.unlock])

/-- What `select` reports. The other threads may have changed the table before the thread has the mutex again.
An interrupted call goes on with the sets as they are. -/
inductive Activity where
  | failed
  | timeout (found : Table) (currentTime : UInt64) (onClose : Nat → List ApiCall)
  | active (found : Table) (isReady : Int → Bool) (answers : Nat → ReadAnswer)

/-- Only open clients are put into the set. -/
def Table.selected (table : Table) (isReady : Int → Bool) (fd : Int) : Bool :=
  isReady fd && table.clients.any fun slot => slot.any fun slot => slot.client.state = .open && slot.fd = fd

/-- One iteration of the loop in `worker_thread_function`. -/
def workerOps (table : Table) (activity : Activity) : List LockOp :=
  [.lock, .unlock] ++ match activity with
    | .failed => []
    | .timeout found currentTime onClose => checkClientTimeoutOps found currentTime onClose
    | .active found isReady answers => .lock :: ((readSlots found (table.selected isReady) answers).2 ++ [.unlock])

/-- The three executions. The second one is a part of the first, and the third one has the mutex from its caller. -/
inductive Execution where
  | worker (table : Table) (activity : Activity)
  | checkTimeout (table : Table) (currentTime : UInt64) (onClose : Nat → List ApiCall)
  | processFrame (table : Table) (client : WebsocketClient) (data : List UInt8) (answer : ReadAnswer)

/-- The mutex is never locked by a thread that holds it. -/
def Execution.Goes : Execution → Prop
  | .worker table activity => LockOp.Goes false (workerOps table activity)
  | .checkTimeout table currentTime onClose => LockOp.Goes false (checkClientTimeoutOps table currentTime onClose)
  | .processFrame table client data answer => LockOp.Goes true (frameOps table client data answer)

end SecureChat.WebSocket.ClientsMutex
