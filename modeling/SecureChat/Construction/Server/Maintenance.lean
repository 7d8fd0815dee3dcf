/-
This file starts and stops the server and restores its database from a backup file,
runs the sweeps over idle connections, with the activity of other threads beside them,
and deletes the expired rows of the database.
-/

import Mathlib.Logic.Function.Basic
import SecureChat.Construction.Server.ConnectionPool
import SecureChat.Construction.WebSocket.Clients
import SecureChat.Library.Records
import Mathlib.Data.List.Basic
import Mathlib.Tactic.Common

namespace SecureChat.Server.Restore

inductive ServerState where
  | initializing | running | shuttingDown | shutdown | error
  deriving DecidableEq, Repr

abbrev Path := List UInt8

/-- A handle of SQLite. An attempt to open that fails leaves one that cannot be used. -/
structure Sqlite3 where
  path : Path
  usable : Bool
  deriving DecidableEq, Repr

/-- The fields that these functions use. -/
structure ServerInstance where
  databasePath : Path
  state : ServerState
  running : Bool
  shutdownRequested : Bool
  dbConn : Option Sqlite3
  deriving DecidableEq, Repr

/-- Whether each step of the initialization succeeds. A step that the configuration leaves out does. -/
structure InitAnswers where
  systemLimits : Bool
  resources : Bool
  privileges : Bool
  daemon : Bool
  pidFile : Bool
  ssl : Bool
  network : Bool
  databaseOpens : Bool
  createsTables : Bool
  threadPool : Bool
  websocket : Bool
  components : Bool
  deriving DecidableEq, Repr

namespace ServerInstance

/-- The tables are created on a new handle. A handle without them is closed. -/
def serverInitDatabase (server : ServerInstance) (answers : InitAnswers) : Bool × ServerInstance :=
  if answers.databaseOpens = false then (false, { server with dbConn := some ⟨server.databasePath, false⟩ })
  else if answers.createsTables = false then (false, { server with dbConn := none })
  else (true, { server with dbConn := some ⟨server.databasePath, true⟩ })

/-- A server is initialized only once. Monitoring may fail. -/
def serverInit (server : ServerInstance) (answers : InitAnswers) : Int × ServerInstance :=
  if server.state ≠ .initializing then (-2, server)
  else if answers.systemLimits = false then (-3, server)
  else if answers.resources = false then (-4, server)
  else if answers.privileges = false then (-5, server)
  else if answers.daemon = false then (-6, server)
  else if answers.pidFile = false then (-7, server)
  else if answers.ssl = false then (-8, server)
  else if answers.network = false then (-9, server)
  else
    match server.serverInitDatabase answers with
    | (false, server) => (-10, server)
    | (true, server) =>
        if answers.threadPool = false then (-11, server)
        else if answers.websocket = false then (-12, server)
        else if answers.components = false then (-13, server)
        else (0, { server with state := .running })

/-- What the steps of a start answer. -/
structure StartAnswers where
  init : InitAnswers
  acceptThread : Bool
  cleanupThread : Bool
  maintenanceThread : Bool
  deriving DecidableEq, Repr

def serverStart (server : ServerInstance) (answers : StartAnswers) : Int × ServerInstance :=
  if server.running then (0, server) else
  match server.serverInit answers.init with
  | (0, server) =>
      if answers.acceptThread = false then (-2, server)
      else if answers.cleanupThread = false then (-3, { server with running := false })
      else if answers.maintenanceThread = false then (-4, { server with running := false })
      else (0, { server with running := true })
  | (initResult, server) => (initResult, server)

/-- The database handle is closed with all other components. -/
def serverCleanupComponents (server : ServerInstance) : ServerInstance := { server with dbConn := none }

/-- The waiting for the clients and the threads has an end. -/
def serverStop (server : ServerInstance) : Int × ServerInstance :=
  if server.running = false then (0, server)
  else
    let stopping := { server with shutdownRequested := true, running := false, state := .shuttingDown }
    (0, { stopping.serverCleanupComponents with state := .shutdown })

end ServerInstance

variable {Content : Type}

/-- The server and the files below it. -/
structure Host (Content : Type) where
  server : ServerInstance
  files : Path → Option Content

/-- A file that is moved replaces the file at its new path. -/
def rename (files : Path → Option Content) (source target : Path) : Path → Option Content :=
  if source = target then files
  else Function.update (Function.update files target (files source)) source none

/-- What the steps of a restore answer. -/
structure RestoreAnswers where
  renames : Bool
  opens : Bool
  start : ServerInstance.StartAnswers
  deriving DecidableEq, Repr

/-- The path is cut to the size of its buffer. -/
def dbPath (server : ServerInstance) : Path := server.databasePath.take 511

/-- The block for the database, with the code of its early returns. -/
def restoreDatabase (host : Host Content) (backupPath : Path) (answers : RestoreAnswers) :
    Option Int × Host Content :=
  match host.server.dbConn with
  | none => (none, host)
  | some _ =>
      let path := dbPath host.server
      let closed := { host.server with dbConn := none }
      if answers.renames = false then (some (-3), { host with server := closed })
      else
        let files := rename host.files backupPath path
        if answers.opens = false then (some (-4), ⟨{ closed with dbConn := some ⟨path, false⟩ }, files⟩)
        else (none, ⟨{ closed with dbConn := some ⟨path, true⟩ }, files⟩)

/-- The results of the stop and of the start are ignored. The path of the backup may be null. -/
def serverRestoreData (host : Host Content) (backupPath : Option Path) (answers : RestoreAnswers) :
    Int × Host Content :=
  match backupPath with
  | none => (-1, host)
  | some backupPath =>
      if host.files backupPath = none then (-2, host)
      else
        let wasRunning := host.server.running
        let stopped := if wasRunning then { host with server := host.server.serverStop.2 } else host
        match restoreDatabase stopped backupPath answers with
        | (some code, host) => (code, host)
        | (none, host) =>
            (0, if wasRunning then { host with server := (host.server.serverStart answers.start).2 } else host)

end SecureChat.Server.Restore

namespace SecureChat.Server.IdleSweeps
open Library

/-- Another thread has received something on the connection in this slot. -/
structure ActivityUpdate where
  index : Nat
  now : UInt64
  deriving DecidableEq, Repr

section Pool

open ConnectionPool

def receiveActivity (pool : Pool) (update : ActivityUpdate) : Pool :=
  connectionUpdateActivity pool update.index update.now

/-- The sweep reads the clock and then takes the lock, which `connection_receive` does without.
What a removal leaves behind is open here. -/
def poolSweep (now timeoutMs : UInt64) (remove : Pool → Nat → Option Pool) : Sweep Pool Slot ActivityUpdate where
  write := receiveActivity
  entry pool index := if pool.blocked then none else pool.connections[index]?
  due := ConnectionPool.expired now timeoutMs
  remove := remove

end Pool

section Clients

open WebSocket.Clients

/-- This is `update_client_activity`, which is called with the lock held, and so before the sweep has it. -/
def updateClientActivity (server : Server) (update : ActivityUpdate) : Server :=
  { server with
    clients := server.clients.modify update.index (Option.map ({ · with lastActivity := update.now })) }

/-- The product of two 32-bit numbers wraps around. -/
def timeoutMs (timeout : UInt32) : UInt64 := (timeout * 1000).toUInt64

def overdue (currentTime limit : UInt64) (client : WebSocket.Clients.Client) : Bool :=
  client.state = .open ∧ currentTime - client.lastActivity > limit

/-- The time-out is that of the configuration, in seconds. -/
def clientSweep (currentTime : UInt64) (timeout : UInt32) (remove : Server → Nat → Option Server) :
    Sweep Server WebSocket.Clients.Client ActivityUpdate where
  write := updateClientActivity
  entry server index := if server.blocked then none else server.clients[index]?.join
  due := overdue currentTime (timeoutMs timeout)
  remove := remove

end Clients

end SecureChat.Server.IdleSweeps

namespace SecureChat.Server.Cleanup

/-- A row with the column that the clean-up compares. The column may be null. -/
structure Row where
  id : Int64
  time : Option Int64
  deriving DecidableEq, Repr

/-- The size of a database file bounds the number of its rows. -/
structure Table where
  rows : List Row
  bounded : rows.length < 2 ^ 45

/-- The tables that the clean-up reads. -/
structure Database where
  sessions : Table
  messages : Table
  auditLog : Table

/-- `time < ?` is not true of a null. -/
def Row.before (cutoff : Int64) (row : Row) : Bool := row.time.any (· < cutoff)

/-- The rows that a statement leaves. -/
def Table.deleteBefore (table : Table) (cutoff : Int64) : Table where
  rows := table.rows.filter fun row => !row.before cutoff
  bounded := Nat.lt_of_le_of_lt (List.length_filter_le _ _) table.bounded

/-- The number of deleted rows as `sqlite3_changes` returns it. -/
def sqlite3Changes (table : Table) (cutoff : Int64) : Int32 := Int32.ofNat (table.rows.countP (Row.before cutoff))

/-- How the calls for one statement end. -/
structure StatementAnswer where
  prepared : Bool
  done : Bool
  deriving DecidableEq, Repr

/-- One of the three blocks. A negative `int` counts as a large `size_t`. -/
def deleteExpired (table : Table) (cutoff : Int64) (answer : StatementAnswer) (totalCleaned : UInt64) :
    Table × UInt64 :=
  if answer.prepared ∧ answer.done then
    (table.deleteBefore cutoff, totalCleaned + (sqlite3Changes table cutoff).toInt64.toUInt64)
  else (table, totalCleaned)

/-- An `int` that is subtracted from a `uint64_t` keeps its sign. -/
def minusInt (now : UInt64) (age : Int32) : UInt64 := now - age.toInt64.toUInt64

/-- The product of `int` constants. -/
def messageAge : Int32 := 30 * 24 * 3600 * 1000

def auditAge : Int32 := 7 * 24 * 3600 * 1000

/-- The cut-off times are bound as signed numbers. -/
def messageExpiry (now : UInt64) : Int64 := (minusInt now messageAge).toInt64

def auditExpiry (now : UInt64) : Int64 := (minusInt now auditAge).toInt64

def expiredTime (now : UInt64) (sessionTimeout : Int32) : Int64 := (minusInt now sessionTimeout).toInt64

/-- The answers for the three statements. -/
structure CleanupAnswers where
  sessions : StatementAnswer
  messages : StatementAnswer
  auditLog : StatementAnswer
  deriving DecidableEq, Repr

structure ServerInstance where
  sessionTimeout : Int32
  dbConn : Option Database

def serverCleanupExpiredData (server : ServerInstance) (now : UInt64) (answers : CleanupAnswers) :
    ServerInstance × UInt64 :=
  match server.dbConn with
  | none => (server, 0)
  | some db =>
      let (sessions, total) :=
        deleteExpired db.sessions (expiredTime now server.sessionTimeout) answers.sessions 0
      let (messages, total) := deleteExpired db.messages (messageExpiry now) answers.messages total
      let (auditLog, total) := deleteExpired db.auditLog (auditExpiry now) answers.auditLog total
      ({ server with dbConn := some ⟨sessions, messages, auditLog⟩ }, total)

end SecureChat.Server.Cleanup
