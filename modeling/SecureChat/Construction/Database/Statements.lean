/-
This file follows a prepared statement of the database module through a query and the release of its result.
-/

import SecureChat.Construction.Database.Pool

namespace SecureChat.Database

/-- The calls that use a statement. -/
inductive StmtCall where
  | columnCount | columnName | columnText | step | reset | clearBindings | bind
  deriving DecidableEq, Repr

/-- What happens to statements. A null pointer is finalized without effect. -/
inductive StmtEvent (Stmt : Type) where
  | prepared (stmt : Stmt)
  | used (call : StmtCall) (stmt : Stmt)
  | finalized (stmt : Stmt)
  deriving DecidableEq, Repr

variable {Stmt : Type}

/-- The fields of a result that decide what happens to its statement. -/
structure DbResult (Stmt : Type) where
  stmt : Option Stmt
  rowCount : Nat
  deriving DecidableEq, Repr

def sqlite3Finalize (stmt : Option Stmt) : List (StmtEvent Stmt) := stmt.toList.map .finalized

/-- The memory of the names and the cells is released with the statement. -/
def dbFreeResult (result : DbResult Stmt) : List (StmtEvent Stmt) × DbResult Stmt :=
  (sqlite3Finalize result.stmt, ⟨none, 0⟩)

/-- Whether a cell has a text, and whether the copy of the text succeeds. -/
structure CellAnswer where
  text : Bool
  copied : Bool
  deriving DecidableEq, Repr

/-- The allocations for one row and its cells. -/
structure RowAllocations where
  grown : Bool
  allocated : Bool
  cell : Nat → CellAnswer

/-- The answers while a statement is executed: the rows that it returns before it is done or fails. -/
structure ExecutionAnswers where
  columnCount : Nat
  namesAllocated : Bool
  nameCopied : Nat → Bool
  rowsAllocated : Bool
  rows : List RowAllocations
  done : Bool

/-- The events of a call of a function, the result object behind it, and what it returns. -/
abbrev StmtOutcome (Stmt : Type) := List (StmtEvent Stmt) × DbResult Stmt × DbErrorCode

/-- An error exit of the loop releases the result. -/
def freeAndReturn (events : List (StmtEvent Stmt)) (result : DbResult Stmt) (code : DbErrorCode) :
    StmtOutcome Stmt :=
  (events ++ (dbFreeResult result).1, (dbFreeResult result).2, code)

/-- The reads of the columns up to the first copy that fails. A missing text is not checked. -/
def copyCells (stmt : Stmt) : List CellAnswer → List (StmtEvent Stmt) × Bool
  | [] => ([], true)
  | cell :: rest =>
      if cell.text ∧ cell.copied = false then ([.used .columnText stmt], false)
      else (.used .columnText stmt :: (copyCells stmt rest).1, (copyCells stmt rest).2)

/-- The loop over the rows of a result that has room for so many rows. -/
def fetchRows (stmt : Stmt) (columnCount : Nat) (done : Bool) :
    List RowAllocations → Nat → DbResult Stmt → StmtOutcome Stmt
  | [], _, result =>
      if done then ([.used .step stmt, .used .reset stmt], result, .success)
      else freeAndReturn [.used .step stmt] result .execute
  | row :: rest, rowCapacity, result =>
      if rowCapacity ≤ result.rowCount ∧ row.grown = false then
        freeAndReturn [.used .step stmt] result .memory
      else if row.allocated = false then freeAndReturn [.used .step stmt] result .memory
      else
        let (read, copied) := copyCells stmt ((List.range columnCount).map row.cell)
        if copied = false then freeAndReturn (.used .step stmt :: read) result .memory
        else
          let capacity := if rowCapacity ≤ result.rowCount then rowCapacity * 2 else rowCapacity
          let (events, result, code) :=
            fetchRows stmt columnCount done rest capacity { result with rowCount := result.rowCount + 1 }
          (.used .step stmt :: read ++ events, result, code)

/-- The reads of the column names up to the first copy that fails. -/
def copyNames (stmt : Stmt) : List Bool → List (StmtEvent Stmt) × Bool
  | [] => ([], true)
  | copied :: rest =>
      if copied then (.used .columnName stmt :: (copyNames stmt rest).1, (copyNames stmt rest).2)
      else ([.used .columnName stmt], false)

/-- The part of `db_execute_prepared_internal` that fills a result. It keeps the statement in the result. -/
def fillResult (stmt : Stmt) (answers : ExecutionAnswers) : StmtOutcome Stmt :=
  let result : DbResult Stmt := ⟨some stmt, 0⟩
  if answers.namesAllocated = false then ([], result, .memory) else
  let (names, copied) := copyNames stmt ((List.range answers.columnCount).map answers.nameCopied)
  if copied = false then (names, result, .memory)
  else if answers.rowsAllocated = false then (names, result, .memory)
  else
    let (events, result, code) := fetchRows stmt answers.columnCount answers.done answers.rows 100 result
    (names ++ events, result, code)

/-- A statement that is executed without a result is stepped once. The result may be a null pointer. -/
def dbExecutePreparedInternal (stmt : Option Stmt) (result : Option (DbResult Stmt))
    (answers : ExecutionAnswers) : List (StmtEvent Stmt) × Option (DbResult Stmt) × DbErrorCode :=
  match stmt, result with
  | none, result => ([], result, .connection)
  | some stmt, some _ =>
      let (events, result, code) := fillResult stmt answers
      (.used .columnCount stmt :: events, some result, code)
  | some stmt, none =>
      if answers.rows = [] ∧ answers.done then
        ([.used .columnCount stmt, .used .step stmt, .used .reset stmt], none, .success)
      else ([.used .columnCount stmt, .used .step stmt], none, .execute)

/-- What the pool and `sqlite3_prepare_v2` answer, and the answers of the execution.
A text without a statement compiles to a null pointer. -/
structure QueryAnswers (Stmt : Type) where
  conn : Except DbErrorCode Unit
  prepare : Option (Option Stmt)
  execution : ExecutionAnswers

/-- The statement that the compilation creates. -/
def preparedEvents (stmt : Option Stmt) : List (StmtEvent Stmt) := stmt.toList.map .prepared

def dbExecuteInternal (result : Option (DbResult Stmt)) (answers : QueryAnswers Stmt) :
    List (StmtEvent Stmt) × Option (DbResult Stmt) × DbErrorCode :=
  match answers.prepare with
  | none => ([], result, .prepare)
  | some stmt =>
      let (events, result, code) := dbExecutePreparedInternal stmt result answers.execution
      (preparedEvents stmt ++ events ++ sqlite3Finalize stmt, result, code)

/-- The text may be a null pointer. -/
def dbExecute (sql : Option String) (result : Option (DbResult Stmt)) (answers : QueryAnswers Stmt) :
    List (StmtEvent Stmt) × Option (DbResult Stmt) × DbErrorCode :=
  match sql, answers.conn with
  | none, _ => ([], result, .query)
  | some _, .error code => ([], result, code)
  | some _, .ok () => dbExecuteInternal result answers

inductive DbParamType where
  | null | int | int64 | double | text | blob | bool | other
  deriving DecidableEq, Repr

/-- A parameter with what its binding depends on: whether its pointer is set, and whether its copy is allocated. -/
structure DbParam where
  type : DbParamType
  given : Bool
  blobSize : Int
  copyText : Bool
  allocated : Bool
  deriving DecidableEq, Repr

/-- The error of binding one parameter. -/
def bindError (param : DbParam) : Option DbErrorCode :=
  match param.type with
  | .other => some .bind
  | .blob =>
      if param.given ∧ 0 < param.blobSize ∧ param.copyText ∧ param.allocated = false then some .memory else none
  | _ => none

/-- The bindings up to the first one that fails. -/
def bindAll (stmt : Stmt) : List DbParam → List (StmtEvent Stmt) × DbErrorCode
  | [] => ([], .success)
  | param :: rest =>
      match bindError param with
      | some code => ([], code)
      | none => (.used .bind stmt :: (bindAll stmt rest).1, (bindAll stmt rest).2)

/-- The list of the parameters may be a null pointer. -/
def dbBindParameters (stmt : Option Stmt) (params : Option (List DbParam)) :
    List (StmtEvent Stmt) × DbErrorCode :=
  match stmt, params with
  | some stmt, some (param :: rest) =>
      (.used .reset stmt :: .used .clearBindings stmt :: (bindAll stmt (param :: rest)).1,
        (bindAll stmt (param :: rest)).2)
  | _, _ => ([], .success)

def dbExecuteParams (sql : Option String) (params : Option (List DbParam))
    (result : Option (DbResult Stmt)) (answers : QueryAnswers Stmt) :
    List (StmtEvent Stmt) × Option (DbResult Stmt) × DbErrorCode :=
  match sql, answers.conn with
  | none, _ => ([], result, .query)
  | some _, .error code => ([], result, code)
  | some _, .ok () =>
      match answers.prepare with
      | none => ([], result, .prepare)
      | some stmt =>
          let (bound, code) := dbBindParameters stmt params
          if code ≠ .success then (preparedEvents stmt ++ bound ++ sqlite3Finalize stmt, result, code)
          else
            let (events, result, code) := dbExecutePreparedInternal stmt result answers.execution
            (preparedEvents stmt ++ bound ++ events ++ sqlite3Finalize stmt, result, code)

/-- The two functions that execute a text. -/
inductive QueryCall where
  | execute
  | executeParams (params : Option (List DbParam))
  deriving DecidableEq, Repr

/-- The query with a result of the caller, and the release of this result. -/
def queryAndFree (call : QueryCall) (sql : Option String) (result : DbResult Stmt)
    (answers : QueryAnswers Stmt) : List (StmtEvent Stmt) :=
  let (events, behind, _) := match call with
    | .execute => dbExecute sql (some result) answers
    | .executeParams params => dbExecuteParams sql params (some result) answers
  events ++ (behind.elim [] fun result => (dbFreeResult result).1)

end SecureChat.Database
