/-
This file holds the connection pool of the native server, with the operations on one of its connections.
-/

import SecureChat.Library.Machine

namespace SecureChat.Server.ConnectionPool
open Library

inductive ConnectionState where
  | new | authenticated | closing | closed | error
  deriving DecidableEq, Repr

/-- A connection in its slot. The two buffers are allocated and released together. -/
structure Slot where
  id : UInt64
  fd : Int
  state : ConnectionState
  lastActivity : UInt64
  buffers : Bool
  deriving DecidableEq, Repr

/-- A thread that locks the mutex of the pool a second time blocks for ever and keeps it. -/
structure Pool where
  connections : List Slot
  capacity : UInt64
  count : UInt64
  nextConnectionId : UInt64
  totalConnections : UInt64
  activeConnections : UInt64
  maxConcurrentConnections : UInt64
  blocked : Bool
  deriving DecidableEq, Repr

/-- A slot of zeros that is marked as free. -/
def freeSlot : Slot := ⟨0, -1, .new, 0, false⟩

def connectionPoolCreate (initialCapacity : UInt64) : Pool where
  connections := List.replicate initialCapacity.toNat freeSlot
  capacity := initialCapacity
  count := 0
  nextConnectionId := 1
  totalConnections := 0
  activeConnections := 0
  maxConcurrentConnections := 0
  blocked := false

/-- `resize_connection_pool` locks the mutex that its callers hold. -/
def resizeConnectionPool (pool : Pool) : Pool := { pool with blocked := true }

/-- The free slot that `allocate_connection` finds, before it tries to extend the pool. -/
def allocateConnection (pool : Pool) : Option Nat := pool.connections.findIdx? (·.fd = -1)

/-- The slot is cleared before it is used. When its buffers or its mutex fail it is free again. -/
def connectionPoolAdd (pool : Pool) (fd : Int) (now : UInt64) (initialized : Bool) : Pool :=
  if fd < 0 then pool
  else if pool.blocked then pool
  else if pool.count ≥ pool.capacity then resizeConnectionPool pool
  else
    match allocateConnection pool with
    | none => resizeConnectionPool pool
    | some index =>
        let numbered := { pool with nextConnectionId := pool.nextConnectionId + 1 }
        if ¬ initialized then { numbered with connections := pool.connections.set index freeSlot }
        else { numbered with
          connections := pool.connections.set index ⟨pool.nextConnectionId, fd, .new, now, true⟩
          count := pool.count + 1
          totalConnections := pool.totalConnections + 1
          activeConnections := pool.activeConnections + 1
          maxConcurrentConnections := max pool.maxConcurrentConnections (pool.activeConnections + 1) }

/-- The descriptor is closed and forgotten. The buffers stay. -/
def closeSlot (slot : Slot) : Slot :=
  if slot.state = .closing ∨ slot.state = .closed then slot
  else { slot with fd := -1, state := .closed }

/-- The pool does not notice that one of its connections is closed, gracefully or not. -/
def connectionClose (pool : Pool) (index : Nat) : Pool :=
  { pool with connections := pool.connections.modify index closeSlot }

/-- `free` of a cell inside of the array is undefined, and so is all that follows. -/
def connectionDestroy (_pool : Pool) (_index : Nat) : Option Pool := none

def freeConnection (pool : Pool) (index : Nat) : Pool :=
  { pool with
    connections := pool.connections.modify index ({ · with fd := -1 })
    count := pool.count - 1 }

/-- A connection is closed, destroyed and freed. -/
def removeAt (pool : Pool) (index : Nat) : Option Pool := do
  let destroyed ← connectionDestroy (connectionClose pool index) index
  let freed := freeConnection destroyed index
  some { freed with activeConnections := freed.activeConnections - 1 }

def connectionPoolRemove (pool : Pool) (connectionId : UInt64) : Option Pool :=
  if pool.blocked then some pool
  else
    match pool.connections.findIdx? fun slot => slot.fd ≠ -1 ∧ slot.id = connectionId with
    | none => some pool
    | some index => removeAt pool index

/-- A connection that was quiet for too long. -/
def expired (now timeoutMs : UInt64) (slot : Slot) : Bool := slot.fd ≠ -1 ∧ now - slot.lastActivity > timeoutMs

def cleanupSlot (now timeoutMs : UInt64) (pool : Pool) (index : Nat) : Option Pool :=
  if pool.connections[index]?.any (expired now timeoutMs) then removeAt pool index else some pool

def connectionPoolCleanupExpired (pool : Pool) (now timeoutMs : UInt64) : Option Pool :=
  if pool.blocked then some pool
  else (List.range pool.connections.length).foldlM (cleanupSlot now timeoutMs) pool

def connectionUpdateActivity (pool : Pool) (index : Nat) (now : UInt64) : Pool :=
  { pool with connections := pool.connections.modify index ({ · with lastActivity := now }) }

def connectionSetUserInfo (pool : Pool) (index : Nat) : Pool :=
  { pool with connections := pool.connections.modify index ({ · with state := .authenticated }) }

def connectionClearUserInfo (pool : Pool) (index : Nat) : Pool :=
  { pool with connections := pool.connections.modify index ({ · with state := .new }) }

/-- A call on the pool, or on the connection in one of its slots. -/
inductive PoolCall where
  | add (fd : Int) (now : UInt64) (initialized : Bool)
  | close (index : Nat)
  | remove (connectionId : UInt64)
  | cleanupExpired (now timeoutMs : UInt64)
  | updateActivity (index : Nat) (now : UInt64)
  | setUserInfo (index : Nat)
  | clearUserInfo (index : Nat)
  deriving DecidableEq, Repr

def PoolCall.perform (pool : Pool) : PoolCall → Option Pool
  | .add fd now initialized => some (connectionPoolAdd pool fd now initialized)
  | .close index => some (connectionClose pool index)
  | .remove connectionId => connectionPoolRemove pool connectionId
  | .cleanupExpired now timeoutMs => connectionPoolCleanupExpired pool now timeoutMs
  | .updateActivity index now => some (connectionUpdateActivity pool index now)
  | .setUserInfo index => some (connectionSetUserInfo pool index)
  | .clearUserInfo index => some (connectionClearUserInfo pool index)

/-- There is no pool any more once something undefined has happened. -/
def poolMachine : Machine (Option Pool) PoolCall Unit where
  step pool call := (pool.bind call.perform, [])

end SecureChat.Server.ConnectionPool
