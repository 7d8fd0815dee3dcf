/-
This file runs the connection pool of the second database module.
-/

import SecureChat.Library.Machine

namespace SecureChat.Database1
open Library

/-- An open connection remembers whether it was opened for reading only. -/
structure Sqlite3 (Handle : Type) where
  handle : Handle
  readOnly : Bool
  deriving DecidableEq, Repr

/-- A slot of the pool without the time of its last use. -/
structure DbConnection (Handle : Type) where
  conn : Option (Sqlite3 Handle)
  inUse : Bool
  isWriteConn : Bool
  deriving DecidableEq, Repr

/-- The fields of the pool that its connections depend on. It is initialised and does not shut down. -/
structure DatabasePool (Handle : Type) where
  connections : List (DbConnection Handle)
  maxConnections : Int
  activeConnections : Nat
  deriving DecidableEq, Repr

variable {Handle : Type}

/-- The open connections. -/
def DatabasePool.opened (pool : DatabasePool Handle) : List (Sqlite3 Handle) :=
  pool.connections.filterMap DbConnection.conn

/-- Opening succeeds with a handle that belongs to no open connection.
The seed lets it answer differently each time. -/
structure Sqlite3OpenV2 (Handle : Type) where
  answer : Nat → List Handle → Handle
  fresh : ∀ seed opened, answer seed opened ∉ opened

variable (sqlite : Sqlite3OpenV2 Handle)

def dbOpenConnection (seed : Nat) (opened : List (Sqlite3 Handle)) (isWrite : Bool) : Sqlite3 Handle :=
  ⟨sqlite.answer seed (opened.map Sqlite3.handle), !isWrite⟩

/-- The array has ten slots when the configured number is not positive, but the pool keeps this number. -/
def databaseInit (maxConnections : Int) (seed : Nat) : DatabasePool Handle where
  connections :=
    ⟨some (dbOpenConnection sqlite seed [] true), false, true⟩ ::
      List.replicate ((if 0 < maxConnections then maxConnections.toNat else 10) - 1) ⟨none, false, false⟩
  maxConnections := maxConnections
  activeConnections := 1

/-- The test of the search loops. -/
def available (write : Bool) (slot : DbConnection Handle) : Bool :=
  (!write || slot.isWriteConn) && !slot.inUse

/-- The slots that the loops visit. -/
def DatabasePool.visited (pool : DatabasePool Handle) : List (DbConnection Handle) :=
  pool.connections.take pool.maxConnections.toNat

/-- The search for a slot that is not in use. It does not ask whether the slot has a connection. -/
def findConnection (pool : DatabasePool Handle) (write : Bool) : Option Nat :=
  pool.visited.findIdx? (available write)

/-- The creation of a connection in the first slot that has none. -/
def createConnection (seed : Nat) (pool : DatabasePool Handle) (write : Bool) :
    Option (Nat × DatabasePool Handle) :=
  if (pool.activeConnections : Int) < pool.maxConnections then
    (pool.visited.findIdx? fun slot => slot.conn.isNone).map fun index =>
      (index, { pool with
        connections := pool.connections.modify index fun slot =>
          { slot with conn := some (dbOpenConnection sqlite seed pool.opened write), isWriteConn := write }
        activeConnections := pool.activeConnections + 1 })
  else none

/-- The end of `db_get_connection` returns the pointer of the slot, which may be null. -/
def takeConnection (pool : DatabasePool Handle) (index : Nat) :
    DatabasePool Handle × Option (Sqlite3 Handle) :=
  ({ pool with connections := pool.connections.modify index fun slot => { slot with inUse := true } },
    pool.connections[index]?.bind DbConnection.conn)

/-- The first part of `db_get_connection`. The result is absent when the call waits. -/
def dbGetConnection (seed : Nat) (pool : DatabasePool Handle) (write : Bool) :
    Option (DatabasePool Handle × Option (Sqlite3 Handle)) :=
  match findConnection pool write with
  | some index => some (takeConnection pool index)
  | none =>
      match createConnection sqlite seed pool write with
      | some (index, created) => some (takeConnection created index)
      | none => none

/-- One round of the waiting loop. The call waits on if it finds nothing before its time is over. -/
def dbAwaitConnection (pool : DatabasePool Handle) (write timedOut : Bool) :
    Option (DatabasePool Handle × Option (Sqlite3 Handle)) :=
  match findConnection pool write with
  | some index => some (takeConnection pool index)
  | none => if timedOut then some (pool, none) else none

/-- A null pointer stands for the first slot without a connection. -/
def dbReleaseConnection [DecidableEq Handle] (pool : DatabasePool Handle)
    (conn : Option (Sqlite3 Handle)) : DatabasePool Handle :=
  match pool.visited.findIdx? fun slot => slot.conn = conn with
  | none => pool
  | some index =>
      { pool with connections := pool.connections.modify index fun slot => { slot with inUse := false } }

/-- The pool, the waiting calls with their `write` arguments,
and the connections that have been given out and not yet released. -/
structure LendingState (Handle : Type) where
  pool : DatabasePool Handle
  waiting : Nat → Option Bool
  held : List (Sqlite3 Handle)

/-- What a get call returns. -/
structure Granted (Handle : Type) where
  caller : Nat
  write : Bool
  conn : Option (Sqlite3 Handle)
  deriving DecidableEq, Repr

/-- The steps between two holders of the mutex.
A get call is `database_get_write_connection` or `database_get_read_connection`. -/
inductive LendingInput (Handle : Type) where
  | get (caller : Nat) (write : Bool) (seed : Nat)
  | wake (caller : Nat) (timedOut : Bool)
  | release (conn : Option (Sqlite3 Handle))
  deriving DecidableEq, Repr

/-- The call returns to its caller or waits. -/
def grant (state : LendingState Handle) (caller : Nat) (write : Bool) :
    Option (DatabasePool Handle × Option (Sqlite3 Handle)) →
      LendingState Handle × List (Granted Handle)
  | none => ({ state with waiting := Function.update state.waiting caller (some write) }, [])
  | some (pool, conn) =>
      (⟨pool, Function.update state.waiting caller none, conn.toList ++ state.held⟩,
        [⟨caller, write, conn⟩])

/-- A caller that waits starts no other call. -/
def lendingStep [DecidableEq Handle] (state : LendingState Handle) :
    LendingInput Handle → LendingState Handle × List (Granted Handle)
  | .get caller write seed =>
      match state.waiting caller with
      | some _ => (state, [])
      | none => grant state caller write (dbGetConnection sqlite seed state.pool write)
  | .wake caller timedOut =>
      match state.waiting caller with
      | none => (state, [])
      | some write => grant state caller write (dbAwaitConnection state.pool write timedOut)
  | .release conn =>
      ({ state with
        pool := dbReleaseConnection state.pool conn
        held := conn.elim state.held state.held.erase }, [])

def lendingMachine [DecidableEq Handle] :
    Machine (LendingState Handle) (LendingInput Handle) (Granted Handle) :=
  ⟨lendingStep sqlite⟩

/-- An initialised pool that nobody has called yet. -/
def lendingStart (maxConnections : Int) (seed : Nat) : LendingState Handle :=
  ⟨databaseInit sqlite maxConnections seed, fun _ => none, []⟩

end SecureChat.Database1
