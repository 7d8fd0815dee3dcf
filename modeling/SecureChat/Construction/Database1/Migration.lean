/-
This file creates the schema of the second database module from a file with SQL statements,
and runs the schema migration on its pooled connections.
-/

import SecureChat.Library.SqlTransaction
import Mathlib.Logic.Function.Basic
import SecureChat.Construction.Database1.Pool

namespace SecureChat.Database1
open Library

/-- What the reads of a file return one after another: up to a line end, and never more than the buffer
holds besides the final zero byte. -/
def fgets (size : Nat) : List UInt8 → List UInt8 → List (List UInt8)
  | [], [] => []
  | buffer, [] => [buffer]
  | buffer, byte :: rest =>
      if byte = byteOf '\n' ∨ buffer.length + 2 = size then (buffer ++ [byte]) :: fgets size [] rest
      else fgets size (buffer ++ [byte]) rest

def sqlBufferSize : Nat := 4096

def sqlLines (text : List UInt8) : List (List UInt8) := fgets sqlBufferSize [] text

/-- What SQLite finds in a text that ends at its first zero byte. -/
def sqlScript (sql : List UInt8) : SqlSession.Script (List UInt8) :=
  ((splitScript (sql.takeWhile (· ≠ 0))).1.map SqlStatement.command, (splitScript (sql.takeWhile (· ≠ 0))).2)

variable {Db : Type} (engine : SqlEngine (List UInt8) Db) (accepts : Bool)

/-- The complete statements are executed up to the first one that fails. An incomplete one fails. -/
def sqlite3Exec (conn : SqlSession Db) (sql : List UInt8) : SqlSession Db × Bool :=
  let result := conn.run engine accepts (sqlScript sql).1
  (result.1, result.2 && (sqlScript sql).2)

/-- Comments and empty lines are told by their first byte. -/
def isSkipped (sqlBuffer : List UInt8) : Bool :=
  sqlBuffer.head?.all fun first => first = byteOf '-' ∨ first = byteOf '\n' ∨ first = 0

/-- The loop stops at the first line that fails. -/
def executeLines : SqlSession Db → List (List UInt8) → SqlSession Db × Bool
  | conn, [] => (conn, true)
  | conn, sqlBuffer :: rest =>
      if isSkipped sqlBuffer then executeLines conn rest
      else
        match sqlite3Exec engine accepts conn sqlBuffer with
        | (conn, false) => (conn, false)
        | (conn, true) => executeLines conn rest

def beginTransaction : List UInt8 := sqlBytes "BEGIN TRANSACTION;"

def commitTransaction : List UInt8 := sqlBytes "COMMIT;"

def rollbackTransaction : List UInt8 := sqlBytes "ROLLBACK;"

/-- The file is absent when it cannot be opened. A refused commit is not followed by a rollback. -/
def dbCreateSchema (conn : SqlSession Db) (sqlFile : Option (List UInt8)) : SqlSession Db × Bool :=
  match sqlite3Exec engine accepts conn beginTransaction with
  | (conn, false) => (conn, false)
  | (conn, true) =>
      match sqlFile with
      | none => ((sqlite3Exec engine accepts conn rollbackTransaction).1, false)
      | some text =>
          match executeLines engine accepts conn (sqlLines text) with
          | (conn, true) => sqlite3Exec engine accepts conn commitTransaction
          | (conn, false) => ((sqlite3Exec engine accepts conn rollbackTransaction).1, false)

end SecureChat.Database1

namespace SecureChat.Database1
open Library

/-- The statements of the migration. -/
inductive Statement where
  | begin | commit | rollback
  | script (sql : String)
  | setVersion (version : Int)
  deriving DecidableEq, Repr

/-- A text for SQLite is the list of its statements. -/
structure MigrationScript where
  versionFrom : Int
  versionTo : Int
  sql : List Statement
  deriving DecidableEq, Repr

def migrations : List MigrationScript :=
  [⟨1, 2,
    [.script "CREATE INDEX IF NOT EXISTS idx_messages_composite ON messages(sender_id, receiver_id, timestamp);",
     .script "CREATE INDEX IF NOT EXISTS idx_messages_status ON messages(status, timestamp);",
     .script "CREATE INDEX IF NOT EXISTS idx_group_messages_composite ON group_messages(group_id, timestamp);"]⟩,
   ⟨2, 3,
    [.script "ALTER TABLE files ADD COLUMN access_level INTEGER DEFAULT 0;",
     .script "ALTER TABLE files ADD COLUMN access_password TEXT;",
     .script "ALTER TABLE files ADD COLUMN access_expiry INTEGER DEFAULT 0;",
     .script "CREATE INDEX IF NOT EXISTS idx_files_access ON files(access_level, access_expiry);"]⟩,
   ⟨3, 4,
    [.script "ALTER TABLE messages ADD COLUMN encryption_algorithm TEXT DEFAULT 'AES-256-GCM';",
     .script "ALTER TABLE messages ADD COLUMN encryption_key_id TEXT;",
     .script "ALTER TABLE messages ADD COLUMN signature TEXT;",
     .script "CREATE INDEX IF NOT EXISTS idx_messages_encryption ON messages(encryption_key_id, timestamp);"]⟩]

/-- The changes of the schema so far and the number in the row for the schema version. -/
structure Store where
  schema : List String
  version : Option Int
  deriving DecidableEq, Repr

def Store.change (store : Store) : Statement → Store
  | .script sql => { store with schema := store.schema ++ [sql] }
  | .setVersion version => { store with version := some version }
  | _ => store

variable {Handle : Type}

/-- What is stored, and the changes in the open transaction of each connection. -/
structure SqliteDatabase (Handle : Type) where
  stored : Store
  pending : Sqlite3 Handle → Option (List Statement)

/-- A connection sees the changes of its own transaction. -/
def SqliteDatabase.view (db : SqliteDatabase Handle) (conn : Sqlite3 Handle) : Store :=
  ((db.pending conn).getD []).foldl Store.change db.stored

/-- A transaction belongs to one connection, and a change outside a transaction is stored at once.
The result is absent when SQLite refuses the statement. -/
def sqlite3Step [DecidableEq Handle] (db : SqliteDatabase Handle) (conn : Sqlite3 Handle)
    (statement : Statement) : Option (SqliteDatabase Handle) :=
  match statement, db.pending conn with
  | .begin, none => some { db with pending := Function.update db.pending conn (some []) }
  | .begin, some _ => none
  | .commit, none => none
  | .commit, some changes =>
      some ⟨changes.foldl Store.change db.stored, Function.update db.pending conn none⟩
  | .rollback, none => none
  | .rollback, some _ => some { db with pending := Function.update db.pending conn none }
  | change, none => some { db with stored := db.stored.change change }
  | change, some changes =>
      some { db with pending := Function.update db.pending conn (some (changes ++ [change])) }

/-- What the other users of the pool do. -/
inductive OtherCall (Handle : Type) where
  | get (write : Bool) (seed : Nat)
  | await (write : Bool)
  | release (conn : Option (Sqlite3 Handle))
  deriving DecidableEq, Repr

variable [DecidableEq Handle] (sqlite : Sqlite3OpenV2 Handle)

def otherCall (pool : DatabasePool Handle) : OtherCall Handle → DatabasePool Handle
  | .get write seed => ((dbGetConnection sqlite seed pool write).map Prod.fst).getD pool
  | .await write => ((dbAwaitConnection pool write false).map Prod.fst).getD pool
  | .release conn => dbReleaseConnection pool conn

/-- What happens around one call of the migration: the other users of the pool before the call,
while it waits and while it holds its connection, and the answers of SQLite. -/
structure CallAnswers (Handle : Type) where
  before : List (OtherCall Handle)
  seed : Nat
  waiting : List (OtherCall Handle)
  holding : List (OtherCall Handle)
  prepares : Bool
  steps : Bool

/-- The connection for one call. A call that waits looks again behind the last wake-up. -/
def acquireConnection (pool : DatabasePool Handle) (write : Bool) (answers : CallAnswers Handle) :
    DatabasePool Handle × Option (Sqlite3 Handle) :=
  let pool := answers.before.foldl (otherCall sqlite) pool
  match dbGetConnection sqlite answers.seed pool write with
  | some result => result
  | none =>
      let pool := answers.waiting.foldl (otherCall sqlite) pool
      (dbAwaitConnection pool write true).getD (pool, none)

/-- The pool behind a call that got this connection. -/
def giveBack (pool : DatabasePool Handle) (conn : Option (Sqlite3 Handle)) (answers : CallAnswers Handle) :
    DatabasePool Handle :=
  match conn with
  | none => pool
  | some conn => dbReleaseConnection (answers.holding.foldl (otherCall sqlite) pool) (some conn)

/-- The pool, the database, the number of calls so far, and the statements that they have executed. -/
structure MigrationWorld (Handle : Type) where
  pool : DatabasePool Handle
  db : SqliteDatabase Handle
  calls : Nat
  executed : List Statement

variable (answers : Nat → CallAnswers Handle)

/-- The update compiles the first statement of its text and executes it once. -/
def databaseExecuteUpdate (world : MigrationWorld Handle) (text : List Statement) :
    MigrationWorld Handle × Bool :=
  let answer := answers world.calls
  let (pool, conn) := acquireConnection sqlite world.pool true answer
  let result := conn.bind fun conn => text.head?.bind fun statement =>
    if answer.prepares ∧ answer.steps then (sqlite3Step world.db conn statement).map (·, statement) else none
  let world := { world with pool := giveBack sqlite pool conn answer, calls := world.calls + 1 }
  match result with
  | none => (world, false)
  | some (db, statement) => ({ world with db := db, executed := world.executed ++ [statement] }, true)

/-- The version is one when the query fails or finds no row. -/
def getCurrentVersion (world : MigrationWorld Handle) : Int × MigrationWorld Handle :=
  let answer := answers world.calls
  let (pool, conn) := acquireConnection sqlite world.pool false answer
  let version := conn.bind fun conn =>
    if answer.prepares ∧ answer.steps then (world.db.view conn).version else none
  (version.getD 1, { world with pool := giveBack sqlite pool conn answer, calls := world.calls + 1 })

def setCurrentVersion (world : MigrationWorld Handle) (version : Int) : MigrationWorld Handle × Bool :=
  databaseExecuteUpdate sqlite answers world [.setVersion version]

def targetVersion : Int := 4

/-- The loop over the scripts. -/
def runScripts (currentVersion : Int) (world : MigrationWorld Handle) :
    List MigrationScript → MigrationWorld Handle × Bool
  | [] => (world, true)
  | script :: rest =>
      if currentVersion < script.versionTo ∧ script.versionTo ≤ targetVersion then
        match databaseExecuteUpdate sqlite answers world script.sql with
        | (world, false) => (world, false)
        | (world, true) =>
            match setCurrentVersion sqlite answers world script.versionTo with
            | (world, false) => (world, false)
            | (world, true) => runScripts currentVersion world rest
      else runScripts currentVersion world rest

/-- The result of the COMMIT or the ROLLBACK is ignored. -/
def databaseMigrate (world : MigrationWorld Handle) : MigrationWorld Handle × Bool :=
  let (currentVersion, world) := getCurrentVersion sqlite answers world
  if targetVersion ≤ currentVersion then (world, true) else
  match databaseExecuteUpdate sqlite answers world [.begin] with
  | (world, false) => (world, false)
  | (world, true) =>
      let (world, success) := runScripts sqlite answers currentVersion world migrations
      let (world, _) := databaseExecuteUpdate sqlite answers world [if success then .commit else .rollback]
      (world, success)

/-- The migration starts without open transactions. -/
def migrationWorld (pool : DatabasePool Handle) (store : Store) : MigrationWorld Handle :=
  ⟨pool, ⟨store, fun _ => none⟩, 0, []⟩

end SecureChat.Database1
