/-
This file runs the connection pool of the database module.
-/

import SecureChat.Library.Machine

namespace SecureChat.Database
open Library

/-- The error codes that the modelled functions return. -/
inductive DbErrorCode where
  | success | connection | query | transaction | prepare | bind | execute | timeout | busy | memory
  deriving DecidableEq, Repr

def dbMaxConnections : Nat := 10

/-- One index of the arrays `connections` and `in_use`. A connection is a pointer that may be null. -/
structure DbSlot (Handle : Type) where
  connection : Option Handle
  inUse : Bool
  deriving DecidableEq, Repr

/-- The pool without its mutex, its condition variable and its path. -/
structure DbPool (Handle : Type) where
  slots : List (DbSlot Handle)
  activeCount : Nat
  maxConnections : Nat
  deriving DecidableEq, Repr

variable {Handle : Type}

/-- A configured number that is not positive stands for the size of the arrays, which also bounds it. -/
def dbInitPool (configured : Int) : DbPool Handle where
  slots := List.replicate dbMaxConnections ⟨none, false⟩
  activeCount := 0
  maxConnections :=
    min (if 0 < configured then configured.toNat else dbMaxConnections) dbMaxConnections

/-- The handles of the open connections. -/
def DbPool.opened (pool : DbPool Handle) : List Handle := pool.slots.filterMap DbSlot.connection

/-- Opening may fail at any call. A handle that it returns belongs to no open connection.
The seed lets it answer differently each time. -/
structure Sqlite3Open (Handle : Type) where
  answer : Nat → List Handle → Option Handle
  fresh : ∀ seed opened handle, answer seed opened = some handle → handle ∉ opened

/-- The first index of the pool whose slot passes the test. -/
def findSlot (pool : DbPool Handle) (test : DbSlot Handle → Bool) : Option Nat :=
  (pool.slots.take pool.maxConnections).findIdx? test

/-- The search in front of the wait. -/
def chooseSlot (pool : DbPool Handle) : Option Nat :=
  match findSlot pool fun slot => !slot.inUse with
  | some index => some index
  | none =>
      if pool.activeCount < pool.maxConnections then findSlot pool fun slot => slot.connection.isNone
      else none

/-- The end of `db_get_connection` opens the connection of the slot if it has none.
A failed open leaves a null pointer in the slot. -/
def takeSlot (sqlite : Sqlite3Open Handle) (seed : Nat) (pool : DbPool Handle) (index : Nat) :
    DbPool Handle × DbErrorCode × Option Handle :=
  match pool.slots[index]?.bind DbSlot.connection with
  | some handle =>
      ({ pool with slots := pool.slots.set index ⟨some handle, true⟩ }, .success, some handle)
  | none =>
      match sqlite.answer seed pool.opened with
      | none => (pool, .connection, none)
      | some handle =>
          ({ pool with
            slots := pool.slots.set index ⟨some handle, true⟩
            activeCount := pool.activeCount + 1 }, .success, some handle)

/-- The first part of `db_get_connection`. The result is absent when the call waits. -/
def dbGetConnection (sqlite : Sqlite3Open Handle) (seed : Nat) (pool : DbPool Handle) :
    Option (DbPool Handle × DbErrorCode × Option Handle) :=
  (chooseSlot pool).map (takeSlot sqlite seed pool)

/-- The rest of `db_get_connection` behind a wait that did not time out. -/
def dbRetryConnection (sqlite : Sqlite3Open Handle) (seed : Nat) (pool : DbPool Handle) :
    DbPool Handle × DbErrorCode × Option Handle :=
  match findSlot pool fun slot => !slot.inUse with
  | none => (pool, .busy, none)
  | some index => takeSlot sqlite seed pool index

def dbReleaseConnection [DecidableEq Handle] (pool : DbPool Handle) (conn : Option Handle) :
    DbPool Handle × DbErrorCode :=
  match conn with
  | none => (pool, .connection)
  | some handle =>
      match findSlot pool fun slot => slot.connection = some handle with
      | none => (pool, .connection)
      | some index =>
          ({ pool with slots := pool.slots.modify index fun slot => { slot with inUse := false } },
            .success)

/-- The pool, the callers that wait for a connection, and who has been given which connection. -/
structure PoolState (Handle : Type) where
  pool : DbPool Handle
  waiting : Nat → Bool
  held : List (Nat × Handle)

/-- What the calls return. -/
inductive PoolOutput (Handle : Type) where
  | got (caller : Nat) (code : DbErrorCode) (conn : Option Handle)
  | released (caller : Nat) (code : DbErrorCode)
  deriving DecidableEq, Repr

/-- The steps between two holders of the pool mutex. A signal only lets a waiting call wake up. -/
inductive PoolInput (Handle : Type) where
  | get (caller seed : Nat)
  | wake (caller seed : Nat)
  | expire (caller : Nat)
  | release (caller : Nat) (conn : Option Handle)
  deriving DecidableEq, Repr

/-- The call returns to its caller, who holds the connection from now on. -/
def answerCall (state : PoolState Handle) (caller : Nat)
    (result : DbPool Handle × DbErrorCode × Option Handle) :
    PoolState Handle × List (PoolOutput Handle) :=
  (⟨result.1, Function.update state.waiting caller false,
    result.2.2.toList.map (fun handle => (caller, handle)) ++ state.held⟩,
    [.got caller result.2.1 result.2.2])

/-- A caller that waits starts no other call. -/
def poolStep [DecidableEq Handle] (sqlite : Sqlite3Open Handle) (state : PoolState Handle) :
    PoolInput Handle → PoolState Handle × List (PoolOutput Handle)
  | .get caller seed =>
      if state.waiting caller then (state, []) else
      match dbGetConnection sqlite seed state.pool with
      | none => ({ state with waiting := Function.update state.waiting caller true }, [])
      | some result => answerCall state caller result
  | .wake caller seed =>
      if state.waiting caller then answerCall state caller (dbRetryConnection sqlite seed state.pool)
      else (state, [])
  | .expire caller =>
      if state.waiting caller then answerCall state caller (state.pool, .timeout, none)
      else (state, [])
  | .release caller conn =>
      if state.waiting caller then (state, []) else
      let (pool, code) := dbReleaseConnection state.pool conn
      ({ state with
        pool := pool
        held := conn.elim state.held fun handle => state.held.erase (caller, handle) },
        [.released caller code])

def poolMachine [DecidableEq Handle] (sqlite : Sqlite3Open Handle) :
    Machine (PoolState Handle) (PoolInput Handle) (PoolOutput Handle) :=
  ⟨poolStep sqlite⟩

/-- A new pool that nobody has called yet. -/
def poolStart (configured : Int) : PoolState Handle := ⟨dbInitPool configured, fun _ => false, []⟩

end SecureChat.Database
