import SecureChat.Construction.Database.Transactions

namespace SecureChat.Database
open Library

variable {Handle : Type} [DecidableEq Handle]

/-- No connection has an open transaction, except perhaps one. -/
def onlyAt (conn : Handle) (inTransaction : Bool) : Handle → Bool :=
  Function.update (fun _ => false) conn inTransaction

@[simp] theorem onlyAt_self (conn : Handle) (inTransaction : Bool) :
    onlyAt conn inTransaction conn = inTransaction := Function.update_self ..

@[simp] theorem onlyAt_false (conn : Handle) : onlyAt conn false = fun _ => false :=
  Function.update_eq_self conn _

@[simp] theorem onlyAt_update (conn : Handle) (before after : Bool) :
    Function.update (onlyAt conn before) conn after = onlyAt conn after := Function.update_idem ..

/-- What is left of a transaction when a COMMIT or a ROLLBACK has been tried. -/
def leftOpen (inTransaction : Bool) (answer : EndAnswer) : Bool := inTransaction && answer = .failed

theorem leftOpen_eq_false (inTransaction : Bool) (answer : EndAnswer) :
    leftOpen inTransaction answer = false ↔ (inTransaction = true → answer ≠ .failed) := by
  cases inTransaction <;> simp [leftOpen]

@[simp] theorem endTransaction_onlyAt (conn : Handle) (inTransaction : Bool) (answer : EndAnswer) :
    (endTransaction (onlyAt conn inTransaction) conn answer).1 =
      onlyAt conn (leftOpen inTransaction answer) := by
  cases inTransaction <;> cases answer <;> simp [endTransaction, leftOpen]

theorem dbBeginTransaction_none (conn : Handle) (ok : Bool) :
    dbBeginTransaction (fun _ => false) conn ok =
      (onlyAt conn ok, if ok then .success else .transaction) := by
  cases ok
  · simp [dbBeginTransaction]
  · simp [dbBeginTransaction, onlyAt]

/-- Whether a transaction is open behind the last of some successful executions. -/
def openAfter (inTransaction : Bool) (steps : List StepAnswer) : Bool :=
  (steps.getLast?.map StepAnswer.inTransaction).getD inTransaction

theorem runSteps_onlyAt (conn : Handle) (inTransaction : Bool) (steps : List StepAnswer) :
    runSteps (onlyAt conn inTransaction) conn steps =
      match steps.find? fun step => !step.done with
      | some step => (onlyAt conn step.inTransaction, false)
      | none => (onlyAt conn (openAfter inTransaction steps), true) := by
  induction steps generalizing inTransaction with
  | nil => rfl
  | cons step steps ih =>
      rw [runSteps, onlyAt_update]
      cases done : step.done with
      | true =>
          rw [if_pos rfl, ih, List.find?_cons_of_neg (by simp [done])]
          have last : openAfter step.inTransaction steps = openAfter inTransaction (step :: steps) := by
            cases steps with
            | nil => rfl
            | cons next steps => simp [openAfter, List.getLast?_cons]
          rw [last]
      | false => rw [if_neg (by simp), List.find?_cons_of_pos (by simp [done])]

/-- The ROLLBACK behind the first failed execution ends the transaction if one is open then,
and the COMMIT behind successful executions does. -/
def StepsEnd (inTransaction : Bool) (steps : List StepAnswer) (rollback commit : EndAnswer) : Prop :=
  match steps.find? fun step => !step.done with
  | some step => step.inTransaction = true → rollback ≠ .failed
  | none => openAfter inTransaction steps = true → commit ≠ .failed

/-- A batch that begins a transaction ends it: the ROLLBACK behind a failed preparation or execution succeeds,
and so does the COMMIT. -/
def BatchEnds (count : Int) (answers : BatchAnswers Handle) : Prop :=
  answers.conn.isOk = true → answers.begins = true →
    if answers.prepares then StepsEnd true (answers.steps count) answers.rollback answers.commit
    else answers.rollback ≠ .failed

/-- A migration ends the transaction that is open behind its two executions. -/
def RowEnds (answers : RowAnswers Handle) : Prop :=
  answers.conn.isOk = true →
    StepsEnd answers.begins [answers.exec, answers.update] answers.rollback answers.commit

/-- The loop goes on behind a migration whose two executions succeed. -/
def RowAnswers.succeeds (answers : RowAnswers Handle) : Bool :=
  answers.conn.isOk && answers.exec.done && answers.update.done

/-- Every migration that the loop reaches ends its transaction. -/
def RowsEnd : List (RowAnswers Handle) → Prop
  | [] => True
  | answers :: rest => RowEnds answers ∧ (answers.succeeds = true → RowsEnd rest)

/-- The call ends the transactions that are open when it comes to its COMMIT or to a ROLLBACK. -/
def CallEnds : DbCall Handle → Prop
  | .executeBatch sql values count answers =>
      sql ≠ none → values ≠ none → 0 < count → BatchEnds count answers
  | .insertBatch table columns rows rowCount columnCount answers =>
      table ≠ none → columns ≠ none → rows ≠ none → 0 < rowCount → 0 < columnCount →
        BatchEnds rowCount answers
  | .migrateApply targetVersion answers =>
      answers.selectConn.isOk = true →
        ∀ rows, answers.select (dbMigrateGetCurrentVersion answers) targetVersion = some rows →
          RowsEnd (rows.zipIdx.map fun (_, i) => answers.rows i)

/-- No connection with an open transaction goes back to the pool. -/
def NoLeak : DbEvent Handle → Prop
  | .released _ inTransaction => inTransaction = false
  | .executed _ => True

/-- A part of a call leaks nothing exactly when it meets the condition, and then it leaves no transaction open. -/
structure Settles (inTransaction : Handle → Bool) (events : List (DbEvent Handle)) (ends : Prop) : Prop where
  leaks : (∀ event ∈ events, NoLeak event) ↔ ends
  clean : ends → inTransaction = fun _ => false

omit [DecidableEq Handle] in
theorem Settles.silent (ends : Prop) (holds : ends) :
    Settles (fun _ : Handle => false) [] ends where
  leaks := iff_of_true (by simp) holds
  clean _ := rfl

/-- A release settles with the flag of its connection. -/
theorem Settles.released (conn : Handle) (inTransaction : Bool) (ends : Prop)
    (flag : inTransaction = false ↔ ends) :
    Settles (onlyAt conn inTransaction) [.released conn inTransaction] ends where
  leaks := by
    rw [← flag, List.forall_mem_singleton]
    rfl
  clean holds := by
    rw [flag.mpr holds]
    exact onlyAt_false conn

omit [DecidableEq Handle] in
theorem Settles.executed {inTransaction : Handle → Bool} {events : List (DbEvent Handle)} {ends : Prop}
    (settles : Settles inTransaction events ends) (row : MigrationRow) :
    Settles inTransaction (.executed row :: events) ends where
  leaks := by
    rw [List.forall_mem_cons, ← settles.leaks]
    exact and_iff_right trivial
  clean := settles.clean

theorem executeBatch_settles (count : Int) (answers : BatchAnswers Handle) :
    Settles (executeBatch (fun _ => false) count answers).1 (executeBatch (fun _ => false) count answers).2.1
      (BatchEnds count answers) := by
  rw [executeBatch]
  cases got : answers.conn with
  | error code => exact Settles.silent _ fun ok => by simp [got, Except.isOk, Except.toBool] at ok
  | ok conn =>
      have isOk : answers.conn.isOk = true := by rw [got]; rfl
      simp only [dbBeginTransaction_none]
      cases begins : answers.begins with
      | false =>
          have ends : BatchEnds count answers := fun _ began => by simp [begins] at began
          have settles := Settles.released conn false _ (iff_of_true rfl ends)
          simpa [releaseAndReturn] using settles
      | true =>
          have same : BatchEnds count answers ↔
              if answers.prepares then StepsEnd true (answers.steps count) answers.rollback answers.commit
              else answers.rollback ≠ .failed := by
            rw [BatchEnds, isOk, begins]
            simp
          rw [same]
          cases answers.prepares with
          | false =>
              have settles := Settles.released conn (leftOpen true answers.rollback) _
                (leftOpen_eq_false true answers.rollback)
              simpa [releaseAndReturn, dbRollbackTransaction] using settles
          | true =>
              simp only [runSteps_onlyAt, StepsEnd]
              cases (answers.steps count).find? fun step => !step.done with
              | some step =>
                  have settles := Settles.released conn (leftOpen step.inTransaction answers.rollback) _
                    (leftOpen_eq_false step.inTransaction answers.rollback)
                  simpa [releaseAndReturn, dbRollbackTransaction] using settles
              | none =>
                  have settles := Settles.released conn
                    (leftOpen (openAfter true (answers.steps count)) answers.commit) _
                    (leftOpen_eq_false (openAfter true (answers.steps count)) answers.commit)
                  simpa [releaseAndReturn, dbCommitTransaction] using settles

/-- One migration settles with the condition on its own transaction. -/
theorem applyRow_settles (row : MigrationRow) (answers : RowAnswers Handle) :
    Settles (applyRow (fun _ => false) row answers).1 (applyRow (fun _ => false) row answers).2.1
        (RowEnds answers) ∧
      ((applyRow (fun _ => false) row answers).2.2 = none ↔ answers.succeeds = true) := by
  rw [applyRow]
  cases got : answers.conn with
  | error code =>
      have fails : answers.conn.isOk = false := by rw [got]; rfl
      refine ⟨Settles.silent _ fun ok => by simp [fails] at ok, ?_⟩
      simp [RowAnswers.succeeds, fails]
  | ok conn =>
      have isOk : answers.conn.isOk = true := by rw [got]; rfl
      have same : RowEnds answers ↔
          StepsEnd answers.begins [answers.exec, answers.update] answers.rollback answers.commit := by
        rw [RowEnds, isOk]
        simp
      simp only [dbBeginTransaction_none, onlyAt_update]
      rw [same, StepsEnd]
      cases exec : answers.exec.done with
      | false =>
          have settles := Settles.released conn (leftOpen answers.exec.inTransaction answers.rollback) _
            (leftOpen_eq_false answers.exec.inTransaction answers.rollback)
          constructor
          · simpa [exec, dbRollbackTransaction] using settles
          · simp [RowAnswers.succeeds, exec]
      | true =>
          cases update : answers.update.done with
          | false =>
              have settles := (Settles.released conn (leftOpen answers.update.inTransaction answers.rollback) _
                (leftOpen_eq_false answers.update.inTransaction answers.rollback)).executed row
              constructor
              · simpa [exec, update, dbRollbackTransaction] using settles
              · simp [RowAnswers.succeeds, exec, update]
          | true =>
              have settles := (Settles.released conn (leftOpen answers.update.inTransaction answers.commit) _
                (leftOpen_eq_false answers.update.inTransaction answers.commit)).executed row
              constructor
              · simpa [exec, update, openAfter, dbCommitTransaction] using settles
              · simp [RowAnswers.succeeds, isOk, exec, update]

/-- The loop settles when every migration that it reaches does. -/
theorem applyRows_settles (rows : List (MigrationRow × RowAnswers Handle)) :
    Settles (applyRows (fun _ => false) rows).1 (applyRows (fun _ => false) rows).2.1
      (RowsEnd (rows.map Prod.snd)) := by
  induction rows with
  | nil => exact Settles.silent _ trivial
  | cons first rest ih =>
      obtain ⟨row, answers⟩ := first
      obtain ⟨settles, goes⟩ := applyRow_settles row answers
      rw [applyRows, List.map_cons, RowsEnd]
      generalize applyRow (fun _ => false) row answers = outcome at settles goes
      obtain ⟨inTransaction, events, code⟩ := outcome
      cases code with
      | some code =>
          have stops : ¬ answers.succeeds = true := fun succeeds => by simpa using goes.mpr succeeds
          have same : RowEnds answers ∧ (answers.succeeds = true → RowsEnd (rest.map Prod.snd)) ↔
              RowEnds answers := and_iff_left fun succeeds => absurd succeeds stops
          rw [same]
          exact settles
      | none =>
          have succeeds := goes.mp rfl
          constructor
          · rw [List.forall_mem_append, settles.leaks]
            apply and_congr_right
            intro ends
            obtain rfl : inTransaction = fun _ => false := settles.clean ends
            rw [ih.leaks]
            exact ⟨fun later _ => later, fun later => later succeeds⟩
          · rintro ⟨ends, later⟩
            obtain rfl : inTransaction = fun _ => false := settles.clean ends
            exact ih.clean (later succeeds)

omit [DecidableEq Handle] in
/-- A query on a connection without a transaction gives it back without one. -/
theorem queryEvents_quiet (conn : Except DbErrorCode Handle) :
    ∀ event ∈ queryEvents (fun _ => false) conn, NoLeak event := by
  cases conn with
  | error code => simp [queryEvents]
  | ok conn => simp [queryEvents, NoLeak]

theorem dbMigrateApply_settles (targetVersion : Int) (answers : ApplyAnswers Handle) :
    Settles (dbMigrateApply (fun _ => false) targetVersion answers).1
      (dbMigrateApply (fun _ => false) targetVersion answers).2.1
      (CallEnds (.migrateApply targetVersion answers)) := by
  have quiet : ∀ event ∈ queryEvents (fun _ => false) answers.versionConn ++
      queryEvents (fun _ => false) answers.selectConn, NoLeak event := by
    rw [List.forall_mem_append]
    exact ⟨queryEvents_quiet _, queryEvents_quiet _⟩
  rw [dbMigrateApply, CallEnds]
  split
  · rename_i refused
    refine ⟨iff_of_true quiet fun ok => ?_, fun _ => rfl⟩
    simp [refused, Except.isOk, Except.toBool] at ok
  · rename_i none
    refine ⟨iff_of_true quiet fun _ rows selected => ?_, fun _ => rfl⟩
    rw [none] at selected
    cases selected
  · rename_i rows got selected
    have isOk : answers.selectConn.isOk = true := by rw [got]; rfl
    have settles := applyRows_settles (rows.zipIdx.map fun (row, i) => (row, answers.rows i))
    have same : (answers.selectConn.isOk = true → ∀ found,
        answers.select (dbMigrateGetCurrentVersion answers) targetVersion = some found →
          RowsEnd (found.zipIdx.map fun (_, i) => answers.rows i)) ↔
        RowsEnd ((rows.zipIdx.map fun (row, i) => (row, answers.rows i)).map Prod.snd) := by
      rw [List.map_map, selected]
      simp only [isOk, Option.some.injEq, forall_const, forall_eq']
      rfl
    rw [same]
    refine ⟨?_, settles.clean⟩
    rw [List.forall_mem_append, ← settles.leaks]
    exact and_iff_right quiet

/-- Every call without open transactions settles with the condition. -/
theorem dbCall_settles (call : DbCall Handle) :
    Settles (dbCall (fun _ => false) call).1 (dbCall (fun _ => false) call).2.1 (CallEnds call) := by
  cases call with
  | executeBatch sql values count answers =>
      rw [dbCall, dbExecuteBatch, CallEnds]
      split
      · rename_i refused
        apply Settles.silent
        intro given present positive
        rcases refused with null | null | few
        · exact absurd null given
        · exact absurd null present
        · omega
      · rename_i accepted
        obtain ⟨given, present, positive⟩ : sql ≠ none ∧ values ≠ none ∧ 0 < count := by
          simpa only [not_or, Int.not_le] using accepted
        have same : (sql ≠ none → values ≠ none → 0 < count → BatchEnds count answers) ↔
            BatchEnds count answers :=
          ⟨fun ends => ends given present positive, fun ends _ _ _ => ends⟩
        rw [same]
        exact executeBatch_settles count answers
  | insertBatch table columns rows rowCount columnCount answers =>
      rw [dbCall, dbInsertBatch, CallEnds]
      split
      · rename_i refused
        apply Settles.silent
        intro first second third many wide
        rcases refused with null | null | null | few | few
        · exact absurd null first
        · exact absurd null second
        · exact absurd null third
        · omega
        · omega
      · rename_i accepted
        obtain ⟨first, second, third, many, wide⟩ :
            table ≠ none ∧ columns ≠ none ∧ rows ≠ none ∧ 0 < rowCount ∧ 0 < columnCount := by
          simpa only [not_or, Int.not_le] using accepted
        have same : (table ≠ none → columns ≠ none → rows ≠ none → 0 < rowCount → 0 < columnCount →
            BatchEnds rowCount answers) ↔ BatchEnds rowCount answers :=
          ⟨fun ends => ends first second third many wide, fun ends _ _ _ _ _ => ends⟩
        rw [same]
        exact executeBatch_settles rowCount answers
  | migrateApply targetVersion answers => exact dbMigrateApply_settles targetVersion answers

/-- No connection goes back to the pool with an open transaction exactly as long as
each call ends the transactions that are open when it comes to its COMMIT or to a ROLLBACK. -/
theorem transactionMachine_noLeak (calls : List (DbCall Handle)) :
    (∀ conn inTransaction, .released conn inTransaction ∈
      (transactionMachine.run (fun _ => false) calls).2 → inTransaction = false) ↔
      transactionMachine.Along (fun _ call => CallEnds call) (fun _ => false) calls := by
  have events : (∀ conn inTransaction, .released conn inTransaction ∈
      (transactionMachine.run (fun _ : Handle => false) calls).2 → inTransaction = false) ↔
      ∀ event ∈ (transactionMachine.run (fun _ : Handle => false) calls).2, NoLeak event := by
    constructor
    · intro clean event member
      cases event with
      | released conn inTransaction => exact clean conn inTransaction member
      | executed row => trivial
    · exact fun quiet conn inTransaction member => quiet _ member
  rw [events]
  apply transactionMachine.outputs_iff_along _ (fun inTransaction => inTransaction = fun _ => false)
  · rintro _ call rfl ends
    exact (dbCall_settles call).clean ends
  · rintro _ call rfl
    exact (dbCall_settles call).leaks
  · rfl

/-- A batch of one value whose COMMIT fails. -/
def failingCommit : DbCall Nat :=
  .executeBatch (some 1) (some 2) 1 ⟨.ok 7, true, true, fun _ => ⟨true, true⟩, .ok, .failed⟩

/-- A failed COMMIT gives the connection back with its transaction. -/
theorem transactionMachine_commit_leaks :
    ¬ ∀ conn inTransaction, .released conn inTransaction ∈
      (transactionMachine.run (fun _ => false) [failingCommit]).2 → inTransaction = false := by
  intro clean
  have leaked := clean 7 true (by decide)
  cases leaked

end SecureChat.Database

namespace SecureChat.Database
open Library

/-- The current version is at least the version of every registered migration. -/
theorem version_le_selectMaxVersion (table : List MigrationRow) (row : MigrationRow) (member : row ∈ table) :
    row.version ≤ selectMaxVersion table := by
  rw [selectMaxVersion]
  cases greatest : (table.map MigrationRow.version).max? with
  | none =>
      rw [List.max?_eq_none_iff, List.map_eq_nil_iff] at greatest
      rw [greatest] at member
      cases member
  | some version =>
      obtain ⟨-, above⟩ := List.max?_eq_some_iff.mp greatest
      exact above row.version (List.mem_map_of_mem member)

/-- No migration is above the current version. -/
theorem selectMigrations_current (table : List MigrationRow) (targetVersion : Int) :
    selectMigrations table (selectMaxVersion table) targetVersion = [] := by
  have none : (table.filter fun row => selectMaxVersion table < row.version ∧
      (targetVersion = -1 ∨ row.version ≤ targetVersion)) = [] := by
    rw [List.filter_eq_nil_iff]
    intro row member
    have below := version_le_selectMaxVersion table row member
    rw [decide_eq_true_eq]
    omega
  rw [selectMigrations, none]
  rfl

/-- An application executes nothing, whatever has been registered. -/
theorem dbMigrateApply_executes_nothing (table : List MigrationRow) (targetVersion : Int) :
    executedRows (dbMigrateApply (fun _ => false) targetVersion (succeedingAnswers table)).2.1 = [] := by
  have selected : (succeedingAnswers table).select
      (dbMigrateGetCurrentVersion (succeedingAnswers table)) targetVersion = some [] :=
    congrArg some (selectMigrations_current table targetVersion)
  simp only [dbMigrateApply, selected]
  rfl

/-- An application executes every registered migration above those that have been run before,
in ascending order, and no migration has been executed twice. -/
structure MigratesOnce (state : MigrationState) (input : MigrationInput) : Prop where
  complete : input = .apply → ∀ row ∈ state.table,
    (∀ run ∈ state.executed, run.version < row.version) →
      (migrationStep state input).1.executed.count row = 1
  ordered : (migrationStep state input).2.Pairwise fun first second => first.version < second.version
  once : (migrationStep state input).1.executed.Nodup

/-- No application happens while a migration is registered. -/
def AppliesNothing (state : MigrationState) (input : MigrationInput) : Prop :=
  input = .apply → state.table = []

theorem migrationStep_executed (state : MigrationState) (input : MigrationInput) :
    (migrationStep state input).1.executed = state.executed ∧ (migrationStep state input).2 = [] := by
  cases input with
  | add migration => exact ⟨rfl, rfl⟩
  | apply =>
      have nothing := dbMigrateApply_executes_nothing state.table (-1)
      refine ⟨?_, nothing⟩
      exact (congrArg (state.executed ++ ·) nothing).trans (List.append_nil _)

/-- A step does what it should exactly when it applies nothing. -/
theorem migratesOnce_iff (state : MigrationState) (input : MigrationInput) (new : state.executed = []) :
    MigratesOnce state input ↔ AppliesNothing state input := by
  obtain ⟨same, silent⟩ := migrationStep_executed state input
  constructor
  · intro once applies
    rw [List.eq_nil_iff_forall_not_mem]
    intro row member
    have counted := once.complete applies row member (by simp [new])
    simp [same, new] at counted
  · intro nothing
    apply MigratesOnce.mk
    · intro applies row member
      rw [nothing applies] at member
      cases member
    · rw [silent]
      exact List.Pairwise.nil
    · rw [same, new]
      exact List.nodup_nil

/-- The migrations run once and in order exactly as long as
no application happens after a migration has been registered. -/
theorem migrationMachine_migratesOnce (inputs : List MigrationInput) :
    migrationMachine.Along MigratesOnce migrationStart inputs ↔
      migrationMachine.Along AppliesNothing migrationStart inputs := by
  apply migrationMachine.along_iff_along _ _ fun state => state.executed = []
  · exact migratesOnce_iff
  · intro state input new _
    exact (migrationStep_executed state input).1.trans new
  · rfl

/-- The first migration is registered and never executed. -/
theorem migrationMachine_skips_first :
    ¬ migrationMachine.Along MigratesOnce migrationStart
      [.add (some ⟨1, "CREATE TABLE notes (id INTEGER);"⟩), .apply] := by
  rintro ⟨-, once, -⟩
  have counted := once.complete rfl ⟨1, "CREATE TABLE notes (id INTEGER);"⟩ (by decide) (by decide)
  revert counted
  decide

end SecureChat.Database
