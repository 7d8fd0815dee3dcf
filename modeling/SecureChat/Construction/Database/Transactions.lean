/-
This file runs the batch operations and the migrations of the database module on pooled connections,
and it keeps the table of the migrations.
-/

import SecureChat.Construction.Database.Pool
import Mathlib.Logic.Function.Basic
import Mathlib.Data.List.Sort

namespace SecureChat.Database
open Library

/-- How a COMMIT or a ROLLBACK ends. SQLite rolls the transaction back by itself on some errors. -/
inductive EndAnswer where
  | ok | failed | rolledBack
  deriving DecidableEq, Repr

/-- What executing a statement answers, and whether a transaction is open afterwards.
The statement comes from the caller, so it may open or end a transaction by itself. -/
structure StepAnswer where
  done : Bool
  inTransaction : Bool
  deriving DecidableEq, Repr

variable {Handle : Type} [DecidableEq Handle]

/-- The connections that have an open transaction. BEGIN fails inside a transaction. -/
def dbBeginTransaction (inTransaction : Handle → Bool) (conn : Handle) (ok : Bool) :
    (Handle → Bool) × DbErrorCode :=
  if ok ∧ inTransaction conn = false then (Function.update inTransaction conn true, .success)
  else (inTransaction, .transaction)

/-- COMMIT and ROLLBACK fail outside a transaction, and both end it when they succeed. -/
def endTransaction (inTransaction : Handle → Bool) (conn : Handle) (answer : EndAnswer) :
    (Handle → Bool) × DbErrorCode :=
  match inTransaction conn, answer with
  | false, _ => (inTransaction, .transaction)
  | true, .ok => (Function.update inTransaction conn false, .success)
  | true, .failed => (inTransaction, .transaction)
  | true, .rolledBack => (Function.update inTransaction conn false, .transaction)

def dbCommitTransaction (inTransaction : Handle → Bool) (conn : Handle) (answer : EndAnswer) :
    (Handle → Bool) × DbErrorCode :=
  endTransaction inTransaction conn answer

def dbRollbackTransaction (inTransaction : Handle → Bool) (conn : Handle) (answer : EndAnswer) :
    (Handle → Bool) × DbErrorCode :=
  endTransaction inTransaction conn answer

/-- The version and the text of a migration. -/
structure MigrationRow where
  version : Int
  sql : String
  deriving DecidableEq, Repr

/-- A connection goes back to the pool with or without an open transaction,
and the text of a migration has been executed. -/
inductive DbEvent (Handle : Type) where
  | released (conn : Handle) (inTransaction : Bool)
  | executed (row : MigrationRow)
  deriving DecidableEq, Repr

/-- The transactions behind a call, its events and its result. -/
abbrev DbOutcome (Handle : Type) := (Handle → Bool) × List (DbEvent Handle) × DbErrorCode

/-- The connection goes back to the pool, and the call returns. -/
def releaseAndReturn (inTransaction : Handle → Bool) (conn : Handle) (code : DbErrorCode) :
    DbOutcome Handle :=
  (inTransaction, [.released conn (inTransaction conn)], code)

/-- The executions of one statement for the values of a batch, up to the first failure. -/
def runSteps (inTransaction : Handle → Bool) (conn : Handle) :
    List StepAnswer → (Handle → Bool) × Bool
  | [] => (inTransaction, true)
  | answer :: rest =>
      let inTransaction := Function.update inTransaction conn answer.inTransaction
      if answer.done then runSteps inTransaction conn rest else (inTransaction, false)

/-- What the calls of one batch operation answer. -/
structure BatchAnswers (Handle : Type) where
  conn : Except DbErrorCode Handle
  begins : Bool
  prepares : Bool
  step : Nat → StepAnswer
  rollback : EndAnswer
  commit : EndAnswer

/-- The answers of the executions for so many values. -/
def BatchAnswers.steps (answers : BatchAnswers Handle) (count : Int) : List StepAnswer :=
  (List.range count.toNat).map answers.step

/-- The part that both batch operations share. -/
def executeBatch (inTransaction : Handle → Bool) (count : Int) (answers : BatchAnswers Handle) :
    DbOutcome Handle :=
  match answers.conn with
  | .error code => (inTransaction, [], code)
  | .ok conn =>
      let (inTransaction, begun) := dbBeginTransaction inTransaction conn answers.begins
      if begun ≠ .success then releaseAndReturn inTransaction conn begun
      else if answers.prepares = false then
        let (inTransaction, _) := dbRollbackTransaction inTransaction conn answers.rollback
        releaseAndReturn inTransaction conn .prepare
      else
        let (inTransaction, done) := runSteps inTransaction conn (answers.steps count)
        if done then
          let (inTransaction, code) := dbCommitTransaction inTransaction conn answers.commit
          releaseAndReturn inTransaction conn code
        else
          let (inTransaction, _) := dbRollbackTransaction inTransaction conn answers.rollback
          releaseAndReturn inTransaction conn .execute

/-- The pointers may be null. -/
def dbExecuteBatch (inTransaction : Handle → Bool) (sql values : Option Nat) (count : Int)
    (answers : BatchAnswers Handle) : DbOutcome Handle :=
  if sql = none ∨ values = none ∨ count ≤ 0 then (inTransaction, [], .query)
  else executeBatch inTransaction count answers

/-- The pointers may be null. -/
def dbInsertBatch (inTransaction : Handle → Bool) (table columns rows : Option Nat)
    (rowCount columnCount : Int) (answers : BatchAnswers Handle) : DbOutcome Handle :=
  if table = none ∨ columns = none ∨ rows = none ∨ rowCount ≤ 0 ∨ columnCount ≤ 0 then
    (inTransaction, [], .query)
  else executeBatch inTransaction rowCount answers

/-- What the calls for one migration answer. -/
structure RowAnswers (Handle : Type) where
  conn : Except DbErrorCode Handle
  begins : Bool
  exec : StepAnswer
  update : StepAnswer
  rollback : EndAnswer
  commit : EndAnswer

/-- One round of the loop in `db_migrate_apply`. It ignores the results of BEGIN and COMMIT.
The code is absent when the loop goes on. -/
def applyRow (inTransaction : Handle → Bool) (row : MigrationRow) (answers : RowAnswers Handle) :
    (Handle → Bool) × List (DbEvent Handle) × Option DbErrorCode :=
  match answers.conn with
  | .error code => (inTransaction, [], some code)
  | .ok conn =>
      let (inTransaction, _) := dbBeginTransaction inTransaction conn answers.begins
      let inTransaction := Function.update inTransaction conn answers.exec.inTransaction
      if answers.exec.done = false then
        let (inTransaction, _) := dbRollbackTransaction inTransaction conn answers.rollback
        (inTransaction, [.released conn (inTransaction conn)], some .query)
      else
        let inTransaction := Function.update inTransaction conn answers.update.inTransaction
        if answers.update.done = false then
          let (inTransaction, _) := dbRollbackTransaction inTransaction conn answers.rollback
          (inTransaction, [.executed row, .released conn (inTransaction conn)], some .query)
        else
          let (inTransaction, _) := dbCommitTransaction inTransaction conn answers.commit
          (inTransaction, [.executed row, .released conn (inTransaction conn)], none)

/-- The loop of `db_migrate_apply`. It stops at the first migration that fails. -/
def applyRows (inTransaction : Handle → Bool) :
    List (MigrationRow × RowAnswers Handle) → DbOutcome Handle
  | [] => (inTransaction, [], .success)
  | (row, answers) :: rest =>
      match applyRow inTransaction row answers with
      | (inTransaction, events, some code) => (inTransaction, events, code)
      | (inTransaction, events, none) =>
          let (inTransaction, later, code) := applyRows inTransaction rest
          (inTransaction, events ++ later, code)

/-- What the calls of `db_migrate_apply` answer.
The first query is absent when it fails or has no row, and a null cell reads as zero.
The second query depends on the two versions in its text. -/
structure ApplyAnswers (Handle : Type) where
  versionConn : Except DbErrorCode Handle
  maxVersion : Option Int
  selectConn : Except DbErrorCode Handle
  select : Int → Int → Option (List MigrationRow)
  rows : Nat → RowAnswers Handle

/-- A query runs on a connection of its own, and leaves the transactions alone. -/
def queryEvents (inTransaction : Handle → Bool) : Except DbErrorCode Handle → List (DbEvent Handle)
  | .error _ => []
  | .ok conn => [.released conn (inTransaction conn)]

def dbMigrateGetCurrentVersion (answers : ApplyAnswers Handle) : Int :=
  match answers.versionConn with
  | .error _ => 0
  | .ok _ => answers.maxVersion.getD 0

def dbMigrateApply (inTransaction : Handle → Bool) (targetVersion : Int) (answers : ApplyAnswers Handle) :
    DbOutcome Handle :=
  let queried := queryEvents inTransaction answers.versionConn ++ queryEvents inTransaction answers.selectConn
  match answers.selectConn, answers.select (dbMigrateGetCurrentVersion answers) targetVersion with
  | .error code, _ => (inTransaction, queried, code)
  | .ok _, none => (inTransaction, queried, .execute)
  | .ok _, some rows =>
      let (inTransaction, events, code) :=
        applyRows inTransaction (rows.zipIdx.map fun (row, i) => (row, answers.rows i))
      (inTransaction, queried ++ events, code)

/-- A call of one of the operations with all its answers. -/
inductive DbCall (Handle : Type) where
  | executeBatch (sql values : Option Nat) (count : Int) (answers : BatchAnswers Handle)
  | insertBatch (table columns rows : Option Nat) (rowCount columnCount : Int)
      (answers : BatchAnswers Handle)
  | migrateApply (targetVersion : Int) (answers : ApplyAnswers Handle)

def dbCall (inTransaction : Handle → Bool) : DbCall Handle → DbOutcome Handle
  | .executeBatch sql values count answers => dbExecuteBatch inTransaction sql values count answers
  | .insertBatch table columns rows rowCount columnCount answers =>
      dbInsertBatch inTransaction table columns rows rowCount columnCount answers
  | .migrateApply targetVersion answers => dbMigrateApply inTransaction targetVersion answers

/-- Calls that run at the same time have different connections, so a run takes them one after another. -/
def transactionMachine : Machine (Handle → Bool) (DbCall Handle) (DbEvent Handle) where
  step inTransaction call := ((dbCall inTransaction call).1, (dbCall inTransaction call).2.1)

end SecureChat.Database

namespace SecureChat.Database
open Library

/-- The answer of `SELECT MAX(version) FROM migrations`. The maximum of no row is a null cell,
which the result keeps as an empty text and which `atoi` reads as zero. -/
def selectMaxVersion (table : List MigrationRow) : Int := (table.map MigrationRow.version).max?.getD 0

/-- The answer of the query for the migrations to apply, in ascending order. -/
def selectMigrations (table : List MigrationRow) (currentVersion targetVersion : Int) : List MigrationRow :=
  (table.filter fun row => currentVersion < row.version ∧
    (targetVersion = -1 ∨ row.version ≤ targetVersion)).insertionSort fun first second =>
      first.version ≤ second.version

/-- Every SQL call succeeds, and one connection serves all of them. -/
def succeedingAnswers (table : List MigrationRow) : ApplyAnswers Unit where
  versionConn := .ok ()
  maxVersion := some (selectMaxVersion table)
  selectConn := .ok ()
  select currentVersion targetVersion := some (selectMigrations table currentVersion targetVersion)
  rows _ := ⟨.ok (), true, ⟨true, true⟩, ⟨true, true⟩, .ok, .ok⟩

/-- A migration with a version that the table has already is not inserted again. -/
def dbMigrateAdd (table : List MigrationRow) (migration : Option MigrationRow) :
    List MigrationRow × DbErrorCode :=
  match migration with
  | none => (table, .query)
  | some row =>
      if 0 < table.countP (fun other => other.version = row.version) then (table, .success)
      else (table ++ [row], .success)

/-- The table without the descriptions and the times, which no query reads,
and the migrations that have been executed so far. -/
structure MigrationState where
  table : List MigrationRow
  executed : List MigrationRow
  deriving DecidableEq, Repr

inductive MigrationInput where
  | add (migration : Option MigrationRow)
  | apply
  deriving DecidableEq, Repr

/-- The texts that an application executes. -/
def executedRows (events : List (DbEvent Unit)) : List MigrationRow :=
  events.filterMap fun
    | .executed row => some row
    | .released _ _ => none

/-- The application of all migrations has the target -1. Their texts leave the table alone. -/
def migrationStep (state : MigrationState) : MigrationInput → MigrationState × List MigrationRow
  | .add migration => ({ state with table := (dbMigrateAdd state.table migration).1 }, [])
  | .apply =>
      let (_, events, _) := dbMigrateApply (fun _ => false) (-1) (succeedingAnswers state.table)
      ({ state with executed := state.executed ++ executedRows events }, executedRows events)

def migrationMachine : Machine MigrationState MigrationInput MigrationRow := ⟨migrationStep⟩

/-- The table of a new database. -/
def migrationStart : MigrationState := ⟨[], []⟩

end SecureChat.Database
