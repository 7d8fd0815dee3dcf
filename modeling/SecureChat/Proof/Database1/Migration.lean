import SecureChat.Construction.Database1.Migration
import SecureChat.Proof.Database1.Pool

namespace SecureChat.Database1
open Library

variable {Handle : Type} [DecidableEq Handle] (sqlite : Sqlite3OpenV2 Handle)
  (pool : DatabasePool Handle) (answers : Nat → CallAnswers Handle)

/-- The pool in front of a call of the migration. The first call reads the version, and the others write. -/
def poolBefore : Nat → DatabasePool Handle
  | 0 => pool
  | calls + 1 =>
      let (next, conn) := acquireConnection sqlite (poolBefore calls) (decide (0 < calls)) (answers calls)
      giveBack sqlite next conn (answers calls)

/-- The connection of a call whose statement SQLite compiles and executes. -/
def served (calls : Nat) : Option (Sqlite3 Handle) :=
  if (answers calls).prepares ∧ (answers calls).steps then
    (acquireConnection sqlite (poolBefore sqlite pool answers calls) (decide (0 < calls)) (answers calls)).2
  else none

/-- The world of the migration in front of a call. -/
def worldAt (calls : Nat) (db : SqliteDatabase Handle) (executed : List Statement) : MigrationWorld Handle :=
  ⟨poolBefore sqlite pool answers calls, db, calls, executed⟩

/-- An update executes the first statement of its text on the connection that serves it. -/
theorem databaseExecuteUpdate_eq (calls : Nat) (later : 0 < calls) (db : SqliteDatabase Handle)
    (executed : List Statement) (statement : Statement) (rest : List Statement) :
    databaseExecuteUpdate sqlite answers (worldAt sqlite pool answers calls db executed) (statement :: rest) =
      match (served sqlite pool answers calls).bind fun conn => sqlite3Step db conn statement with
      | none => (worldAt sqlite pool answers (calls + 1) db executed, false)
      | some next => (worldAt sqlite pool answers (calls + 1) next (executed ++ [statement]), true) := by
  rw [databaseExecuteUpdate, served, worldAt]
  simp only [worldAt, poolBefore, later, decide_true, List.head?_cons, Option.bind_some]
  generalize acquireConnection sqlite (poolBefore sqlite pool answers calls) true (answers calls) = acquired
  obtain ⟨next, conn⟩ := acquired
  by_cases ok : (answers calls).prepares = true ∧ (answers calls).steps = true
  · cases conn with
    | none => simp
    | some conn =>
        simp only [if_pos ok, Option.bind_some]
        cases sqlite3Step db conn statement <;> rfl
  · simp only [if_neg ok]
    cases conn <;> rfl

/-- A change of the schema or of the version, not a bracket of a transaction. -/
def Statement.isChange : Statement → Bool
  | .script _ => true
  | .setVersion _ => true
  | _ => false

/-- Only one connection has an open transaction. -/
def transactionOn (conn : Sqlite3 Handle) (store : Store) (changes : List Statement) :
    SqliteDatabase Handle :=
  ⟨store, Function.update (fun _ => none) conn (some changes)⟩

theorem transactionOn_view (conn other : Sqlite3 Handle) (store : Store) (changes : List Statement) :
    (transactionOn conn store changes).view other =
      if other = conn then changes.foldl Store.change store else store := by
  by_cases same : other = conn
  · subst same
    simp [transactionOn, SqliteDatabase.view]
  · simp [transactionOn, SqliteDatabase.view, same]

/-- A change goes into the transaction of its connection, or it is stored at once. -/
theorem sqlite3Step_change (conn other : Sqlite3 Handle) (store : Store) (changes : List Statement)
    (change : Statement) (changing : change.isChange = true) :
    sqlite3Step (transactionOn conn store changes) other change =
      some (if other = conn then transactionOn conn store (changes ++ [change])
        else transactionOn conn (store.change change) changes) := by
  by_cases same : other = conn
  · subst same
    cases change <;> simp [sqlite3Step, transactionOn, Statement.isChange] at changing ⊢
  · cases change <;> simp [sqlite3Step, transactionOn, Statement.isChange, same] at changing ⊢

/-- A ROLLBACK ends the transaction of its own connection only. -/
theorem sqlite3Step_rollback (conn other : Sqlite3 Handle) (store : Store) (changes : List Statement) :
    sqlite3Step (transactionOn conn store changes) other .rollback =
      if other = conn then some ⟨store, fun _ => none⟩ else none := by
  by_cases same : other = conn
  · subst same
    simp only [sqlite3Step, transactionOn, Function.update_self, Function.update_idem, if_true]
    rw [Function.update_eq_self]
  · simp [sqlite3Step, transactionOn, same]

/-- The updates that succeed up to the first one that fails, with their connections. -/
def succeeded : List Statement → Nat → List (Sqlite3 Handle × Statement)
  | [], _ => []
  | change :: rest, calls =>
      match served sqlite pool answers calls with
      | none => []
      | some conn => (conn, change) :: succeeded rest (calls + 1)

/-- The changes in the transaction of a connection. -/
def inside (conn : Sqlite3 Handle) (done : List (Sqlite3 Handle × Statement)) : List Statement :=
  (done.filter fun update => update.1 = conn).map Prod.snd

/-- The changes on other connections than the one with the transaction. -/
def outside (conn : Sqlite3 Handle) (done : List (Sqlite3 Handle × Statement)) : List Statement :=
  (done.filter fun update => update.1 ≠ conn).map Prod.snd

theorem inside_cons (conn other : Sqlite3 Handle) (change : Statement)
    (done : List (Sqlite3 Handle × Statement)) :
    inside conn ((other, change) :: done) =
      if other = conn then change :: inside conn done else inside conn done := by
  by_cases same : other = conn <;> simp [inside, same]

theorem outside_cons (conn other : Sqlite3 Handle) (change : Statement)
    (done : List (Sqlite3 Handle × Statement)) :
    outside conn ((other, change) :: done) =
      if other = conn then outside conn done else change :: outside conn done := by
  by_cases same : other = conn <;> simp [outside, same]

/-- The updates of the loop, one statement after another. -/
def runUpdates (world : MigrationWorld Handle) : List Statement → MigrationWorld Handle × Bool
  | [] => (world, true)
  | change :: rest =>
      match databaseExecuteUpdate sqlite answers world [change] with
      | (world, false) => (world, false)
      | (world, true) => runUpdates world rest

/-- The statements that the loop executes for a list of scripts. -/
def updates (currentVersion : Int) (scripts : List MigrationScript) : List Statement :=
  (scripts.filter fun script => currentVersion < script.versionTo ∧ script.versionTo ≤ targetVersion).flatMap
    fun script => script.sql.head?.toList ++ [.setVersion script.versionTo]

/-- Only the first statement of a text counts. -/
theorem databaseExecuteUpdate_head (world : MigrationWorld Handle) (statement : Statement)
    (rest : List Statement) :
    databaseExecuteUpdate sqlite answers world (statement :: rest) =
      databaseExecuteUpdate sqlite answers world [statement] := rfl

theorem runScripts_eq (currentVersion : Int) (world : MigrationWorld Handle) (scripts : List MigrationScript)
    (filled : ∀ script ∈ scripts, script.sql ≠ []) :
    runScripts sqlite answers currentVersion world scripts =
      runUpdates sqlite answers world (updates currentVersion scripts) := by
  induction scripts generalizing world with
  | nil => rfl
  | cons script scripts ih =>
      have later := fun world => ih world fun other member => filled other (List.mem_cons_of_mem _ member)
      rw [runScripts]
      split
      · rename_i selected
        obtain ⟨first, rest, text⟩ := List.exists_cons_of_ne_nil (filled script List.mem_cons_self)
        have split : updates currentVersion (script :: scripts) =
            first :: .setVersion script.versionTo :: updates currentVersion scripts := by
          rw [updates, List.filter_cons_of_pos (by simpa using selected), List.flatMap_cons, text]
          rfl
        rw [split, runUpdates, text, databaseExecuteUpdate_head]
        generalize databaseExecuteUpdate sqlite answers world [first] = outcome
        obtain ⟨next, ok⟩ := outcome
        cases ok with
        | false => rfl
        | true =>
            simp only [runUpdates, setCurrentVersion]
            generalize databaseExecuteUpdate sqlite answers next [.setVersion script.versionTo] = outcome
            obtain ⟨last, ok⟩ := outcome
            cases ok with
            | false => rfl
            | true => exact later last
      · rename_i passed
        rw [later, updates, updates, List.filter_cons_of_neg (by simpa using passed)]

/-- The number of calls that the loop makes, with the one that fails. -/
def callsMade (done : List (Sqlite3 Handle × Statement)) (all : List Statement) : Nat :=
  if done.length = all.length then done.length else done.length + 1

/-- The loop stores what runs outside the transaction and collects what runs inside. -/
theorem runUpdates_eq (conn : Sqlite3 Handle) (list : List Statement)
    (changing : ∀ change ∈ list, change.isChange = true) (calls : Nat) (later : 0 < calls) (store : Store)
    (pending executed : List Statement) :
    runUpdates sqlite answers
        (worldAt sqlite pool answers calls (transactionOn conn store pending) executed) list =
      (worldAt sqlite pool answers (calls + callsMade (succeeded sqlite pool answers list calls) list)
        (transactionOn conn ((outside conn (succeeded sqlite pool answers list calls)).foldl Store.change store)
          (pending ++ inside conn (succeeded sqlite pool answers list calls)))
        (executed ++ (succeeded sqlite pool answers list calls).map Prod.snd),
        decide ((succeeded sqlite pool answers list calls).length = list.length)) := by
  induction list generalizing calls store pending executed with
  | nil => simp [runUpdates, succeeded, outside, inside, callsMade]
  | cons change rest ih =>
      have ih := ih (fun other member => changing other (List.mem_cons_of_mem _ member)) (calls + 1)
        (Nat.succ_pos _)
      rw [runUpdates, databaseExecuteUpdate_eq sqlite pool answers calls later, succeeded]
      cases served sqlite pool answers calls with
      | none => simp [outside, inside, callsMade]
      | some other =>
          rw [Option.bind_some, sqlite3Step_change _ _ _ _ _ (changing change List.mem_cons_self)]
          have count : calls + 1 + callsMade (succeeded sqlite pool answers rest (calls + 1)) rest =
              calls + callsMade ((other, change) :: succeeded sqlite pool answers rest (calls + 1))
                (change :: rest) := by
            simp only [callsMade, List.length_cons, Nat.add_right_cancel_iff]
            split <;> omega
          by_cases same : other = conn
          · simp only [if_pos same, ih, inside_cons, outside_cons, count, List.append_assoc, List.map_cons,
              List.singleton_append, List.length_cons, Nat.add_right_cancel_iff]
          · simp only [if_neg same, ih, inside_cons, outside_cons, count, List.append_assoc, List.map_cons,
              List.singleton_append, List.foldl_cons, List.length_cons, Nat.add_right_cancel_iff]

/-- The schema change of a statement. -/
def Statement.sql? : Statement → Option String
  | .script sql => some sql
  | _ => none

/-- The version that a statement writes. -/
def Statement.version? : Statement → Option Int
  | .setVersion version => some version
  | _ => none

/-- Changes add to the schema, and the last version counts. -/
theorem foldl_change (changes : List Statement) (store : Store) :
    changes.foldl Store.change store =
      ⟨store.schema ++ changes.filterMap Statement.sql?,
        (changes.filterMap Statement.version?).getLast?.or store.version⟩ := by
  induction changes generalizing store with
  | nil => simp
  | cons change changes ih =>
      rw [List.foldl_cons, ih, List.filterMap_cons, List.filterMap_cons]
      cases change with
      | begin => rfl
      | commit => rfl
      | rollback => rfl
      | script sql => simp [Store.change, Statement.sql?, Statement.version?]
      | setVersion version =>
          simp only [Store.change, Statement.sql?, Statement.version?, List.getLast?_cons]
          cases (changes.filterMap Statement.version?).getLast? <;> rfl

/-- Changes that leave the store as it is do not touch the schema, and their last version is the stored one. -/
theorem foldl_change_eq_self (changes : List Statement) (store : Store) :
    changes.foldl Store.change store = store ↔
      changes.filterMap Statement.sql? = [] ∧
        ((changes.filterMap Statement.version?).getLast? = none ∨
          (changes.filterMap Statement.version?).getLast? = store.version) := by
  rw [foldl_change]
  obtain ⟨schema, version⟩ := store
  rw [Store.mk.injEq, List.append_right_eq_self]
  cases (changes.filterMap Statement.version?).getLast? <;> simp

theorem migrations_texts : ∀ script ∈ migrations, script.sql ≠ [] ∧
    (script.sql.head?.bind Statement.sql?).isSome = true := by
  decide

theorem updates_changing (currentVersion : Int) :
    ∀ change ∈ updates currentVersion migrations, change.isChange = true := by
  intro change member
  obtain ⟨script, selected, there⟩ := List.mem_flatMap.mp member
  have text := (migrations_texts script (List.mem_of_mem_filter selected)).2
  rcases List.mem_append.mp there with first | last
  · rw [Option.mem_toList] at first
    rw [first] at text
    cases change <;> simp [Statement.sql?, Statement.isChange] at text ⊢
  · rw [List.mem_singleton.mp last]
    rfl

/-- The loop starts with a change of the schema if the version is below the target. -/
theorem updates_first (currentVersion : Int) (below : currentVersion < targetVersion) :
    ∃ sql rest, updates currentVersion migrations = .script sql :: rest := by
  have selected : (migrations.filter fun script =>
      currentVersion < script.versionTo ∧ script.versionTo ≤ targetVersion) ≠ [] := by
    apply List.ne_nil_of_mem
    exact List.mem_filter.mpr ⟨List.mem_of_getLast? rfl, by simpa [targetVersion] using below⟩
  obtain ⟨script, scripts, split⟩ := List.exists_cons_of_ne_nil selected
  have member : script ∈ migrations := List.mem_of_mem_filter (split ▸ List.mem_cons_self)
  have text := (migrations_texts script member).2
  cases head : script.sql.head? with
  | none =>
      rw [head] at text
      cases text
  | some first =>
      rw [head, Option.bind_some] at text
      cases first with
      | script sql =>
          refine ⟨sql, .setVersion script.versionTo :: scripts.flatMap
            fun script => script.sql.head?.toList ++ [.setVersion script.versionTo], ?_⟩
          rw [updates, split, List.flatMap_cons, head]
          rfl
      | begin => cases text
      | commit => cases text
      | rollback => cases text
      | setVersion version => cases text

/-- The updates that succeed are updates of the loop. -/
theorem succeeded_mem (list : List Statement) (calls : Nat) (change : Statement)
    (member : change ∈ (succeeded sqlite pool answers list calls).map Prod.snd) : change ∈ list := by
  induction list generalizing calls with
  | nil => cases member
  | cons first rest ih =>
      rw [succeeded] at member
      split at member
      · cases member
      · rcases List.mem_cons.mp member with same | later
        · exact List.mem_cons.mpr (.inl same)
        · exact List.mem_cons_of_mem _ (ih _ later)

/-- A statement of the last script that no update executes. -/
def skippedStatement : Statement := .script "ALTER TABLE messages ADD COLUMN encryption_key_id TEXT;"

theorem skippedStatement_skipped (currentVersion : Int) :
    skippedStatement ∉ updates currentVersion migrations := by
  intro member
  obtain ⟨script, selected, there⟩ := List.mem_flatMap.mp member
  have skipped : ∀ script ∈ migrations,
      skippedStatement ∉ script.sql.head?.toList ++ [.setVersion script.versionTo] := by decide
  exact skipped script (List.mem_of_mem_filter selected) there

/-- The version that the migration starts from, as it reads it. -/
def startingVersion (store : Store) : Int := (getCurrentVersion sqlite answers (migrationWorld pool store)).1

theorem getCurrentVersion_eq (store : Store) :
    getCurrentVersion sqlite answers (migrationWorld pool store) =
      (((served sqlite pool answers 0).bind fun _ => store.version).getD 1,
        worldAt sqlite pool answers 1 ⟨store, fun _ => none⟩ []) := by
  rw [getCurrentVersion, served, worldAt, migrationWorld]
  simp only [poolBefore, Nat.lt_irrefl, decide_false]
  generalize acquireConnection sqlite pool false (answers 0) = acquired
  obtain ⟨next, conn⟩ := acquired
  by_cases ok : (answers 0).prepares = true ∧ (answers 0).steps = true
  · simp only [if_pos ok]
    rfl
  · simp only [if_neg ok]
    cases conn <;> rfl

/-- A version that has reached the target is the stored one. -/
theorem startingVersion_stored (store : Store)
    (reached : targetVersion ≤ startingVersion sqlite pool answers store) :
    store.version = some (startingVersion sqlite pool answers store) := by
  rw [startingVersion, getCurrentVersion_eq] at reached ⊢
  cases stored : (served sqlite pool answers 0).bind fun _ => store.version with
  | none =>
      rw [stored, targetVersion] at reached
      exact absurd reached (by simp)
  | some version =>
      obtain ⟨conn, -, same⟩ := Option.bind_eq_some_iff.mp stored
      exact same

/-- A migration that returns true has executed every statement of every script above the starting version
and has stored the target version, and one that returns false has changed nothing. -/
structure MigratesWhole (store : Store) : Prop where
  complete : (databaseMigrate sqlite answers (migrationWorld pool store)).2 = true →
    (∀ script ∈ migrations, startingVersion sqlite pool answers store < script.versionTo →
      ∀ statement ∈ script.sql,
        statement ∈ (databaseMigrate sqlite answers (migrationWorld pool store)).1.executed) ∧
      (databaseMigrate sqlite answers (migrationWorld pool store)).1.db.stored.version = some targetVersion
  atomic : (databaseMigrate sqlite answers (migrationWorld pool store)).2 = false →
    (databaseMigrate sqlite answers (migrationWorld pool store)).1.db.stored = store ∧
      ∀ conn, (databaseMigrate sqlite answers (migrationWorld pool store)).1.db.view conn = store

/-- The updates of the loop that succeed. -/
def loopUpdates (store : Store) : List (Sqlite3 Handle × Statement) :=
  succeeded sqlite pool answers (updates (startingVersion sqlite pool answers store) migrations) 2

/-- An update of the loop fails, and what was changed before it is taken back:
the ROLLBACK succeeds on the connection of the BEGIN, every schema change was made there,
and so was every change of the version, unless the last one elsewhere wrote the stored version. -/
structure RollsBack (store : Store) (conn : Sqlite3 Handle) : Prop where
  rollback : served sqlite pool answers (3 + (loopUpdates sqlite pool answers store).length) = some conn
  schema : (outside conn (loopUpdates sqlite pool answers store)).filterMap Statement.sql? = []
  version : ((outside conn (loopUpdates sqlite pool answers store)).filterMap Statement.version?).getLast? = none ∨
    ((outside conn (loopUpdates sqlite pool answers store)).filterMap Statement.version?).getLast? = store.version

/-- The BEGIN fails, or an update of the loop fails: the first one, or one whose changes are taken back. -/
def FailsCleanly (store : Store) : Prop :=
  ∀ conn, served sqlite pool answers 1 = some conn →
    (loopUpdates sqlite pool answers store).length <
        (updates (startingVersion sqlite pool answers store) migrations).length ∧
      (loopUpdates sqlite pool answers store = [] ∨ RollsBack sqlite pool answers store conn)

/-- The database behind a loop that has made some changes. -/
def loopDatabase (store : Store) (conn : Sqlite3 Handle) : SqliteDatabase Handle :=
  transactionOn conn ((outside conn (loopUpdates sqlite pool answers store)).foldl Store.change store)
    (inside conn (loopUpdates sqlite pool answers store))

/-- A migration below the target whose BEGIN fails does nothing else. -/
theorem databaseMigrate_refused (store : Store)
    (below : startingVersion sqlite pool answers store < targetVersion)
    (refused : served sqlite pool answers 1 = none) :
    databaseMigrate sqlite answers (migrationWorld pool store) =
      (worldAt sqlite pool answers 2 ⟨store, fun _ => none⟩ [], false) := by
  rw [startingVersion, getCurrentVersion_eq] at below
  rw [databaseMigrate, getCurrentVersion_eq]
  simp only [if_neg (Int.not_le.mpr below)]
  rw [databaseExecuteUpdate_eq sqlite pool answers 1 (by omega), refused]
  rfl

/-- A migration below the target runs its loop on the database that the BEGIN has left. -/
theorem databaseMigrate_begun (store : Store) (conn : Sqlite3 Handle)
    (below : startingVersion sqlite pool answers store < targetVersion)
    (begun : served sqlite pool answers 1 = some conn) :
    databaseMigrate sqlite answers (migrationWorld pool store) =
      ((databaseExecuteUpdate sqlite answers
        (worldAt sqlite pool answers (2 + callsMade (loopUpdates sqlite pool answers store)
          (updates (startingVersion sqlite pool answers store) migrations))
          (loopDatabase sqlite pool answers store conn)
          (.begin :: (loopUpdates sqlite pool answers store).map Prod.snd))
        [if (loopUpdates sqlite pool answers store).length =
          (updates (startingVersion sqlite pool answers store) migrations).length then .commit else .rollback]).1,
        decide ((loopUpdates sqlite pool answers store).length =
          (updates (startingVersion sqlite pool answers store) migrations).length)) := by
  have version : startingVersion sqlite pool answers store =
      ((served sqlite pool answers 0).bind fun _ => store.version).getD 1 := by
    rw [startingVersion, getCurrentVersion_eq]
  have started : sqlite3Step (⟨store, fun _ => none⟩ : SqliteDatabase Handle) conn .begin =
      some (transactionOn conn store []) := rfl
  rw [databaseMigrate, getCurrentVersion_eq]
  rw [version] at below
  simp only [if_neg (Int.not_le.mpr below), databaseExecuteUpdate_eq sqlite pool answers 1 Nat.one_pos, begun,
    Option.bind_some, started]
  rw [runScripts_eq sqlite answers _ _ _ fun script member => (migrations_texts script member).1,
    runUpdates_eq sqlite pool answers conn _ (updates_changing _) 2 (by omega)]
  simp only [loopUpdates, loopDatabase, version, List.nil_append, List.singleton_append, decide_eq_true_eq]

/-- A migration below the target that returns true has skipped statements. -/
theorem databaseMigrate_incomplete (store : Store)
    (below : startingVersion sqlite pool answers store < targetVersion)
    (returned : (databaseMigrate sqlite answers (migrationWorld pool store)).2 = true) :
    skippedStatement ∉ (databaseMigrate sqlite answers (migrationWorld pool store)).1.executed := by
  cases begun : served sqlite pool answers 1 with
  | none =>
      rw [databaseMigrate_refused sqlite pool answers store below begun] at returned
      cases returned
  | some conn =>
      rw [databaseMigrate_begun sqlite pool answers store conn below begun,
        databaseExecuteUpdate_eq sqlite pool answers _ (by omega)]
      have loop : skippedStatement ∉ (Statement.begin :: (loopUpdates sqlite pool answers store).map Prod.snd) := by
        intro member
        rcases List.mem_cons.mp member with same | later
        · cases same
        · exact skippedStatement_skipped _ (succeeded_mem sqlite pool answers _ _ _ later)
      split
      · exact loop
      · intro member
        rcases List.mem_append.mp member with earlier | last
        · exact loop earlier
        · rw [List.mem_singleton] at last
          split at last <;> cases last

theorem succeeded_length_le (list : List Statement) (calls : Nat) :
    (succeeded sqlite pool answers list calls).length ≤ list.length := by
  induction list generalizing calls with
  | nil => exact Nat.le_refl _
  | cons change rest ih =>
      rw [succeeded]
      split
      · exact Nat.zero_le _
      · exact Nat.succ_le_succ (ih _)

/-- A loop that has made changes has changed the schema, inside the transaction or outside. -/
theorem loopUpdates_change (store : Store) (conn : Sqlite3 Handle)
    (below : startingVersion sqlite pool answers store < targetVersion)
    (changed : loopUpdates sqlite pool answers store ≠ [])
    (inner : (inside conn (loopUpdates sqlite pool answers store)).filterMap Statement.sql? = []) :
    (outside conn (loopUpdates sqlite pool answers store)).filterMap Statement.sql? ≠ [] := by
  obtain ⟨sql, rest, first⟩ := updates_first _ below
  rw [loopUpdates, first, succeeded] at changed inner ⊢
  cases handed : served sqlite pool answers 2 with
  | none =>
      rw [handed] at changed
      exact absurd rfl changed
  | some other =>
      rw [handed] at inner
      simp only [inside_cons, outside_cons] at inner ⊢
      by_cases same : other = conn
      · rw [if_pos same, List.filterMap_cons] at inner
        cases inner
      · rw [if_neg same, List.filterMap_cons]
        exact List.cons_ne_nil _ _

/-- What is left behind the ROLLBACK of a failed loop is the store exactly when the loop has made no change
or its changes are taken back. -/
theorem loopDatabase_rollback (store : Store) (conn : Sqlite3 Handle)
    (below : startingVersion sqlite pool answers store < targetVersion)
    (final : SqliteDatabase Handle)
    (rolled : final = ((served sqlite pool answers (3 + (loopUpdates sqlite pool answers store).length)).bind
      fun other => sqlite3Step (loopDatabase sqlite pool answers store conn) other .rollback).getD
        (loopDatabase sqlite pool answers store conn)) :
    (final.stored = store ∧ ∀ other, final.view other = store) ↔
      (loopUpdates sqlite pool answers store = [] ∨ RollsBack sqlite pool answers store conn) := by
  have kept : final = loopDatabase sqlite pool answers store conn →
      ((final.stored = store ∧ ∀ other, final.view other = store) ↔
        loopUpdates sqlite pool answers store = []) := by
    rintro rfl
    constructor
    · rintro ⟨stored, views⟩
      by_contra changed
      have view := views conn
      rw [loopDatabase, transactionOn_view, if_pos rfl] at view
      have stored : (outside conn (loopUpdates sqlite pool answers store)).foldl Store.change store = store :=
        stored
      rw [stored, foldl_change_eq_self] at view
      rw [foldl_change_eq_self] at stored
      exact loopUpdates_change sqlite pool answers store conn below changed view.1 stored.1
    · intro none
      rw [loopDatabase, none]
      refine ⟨rfl, fun other => ?_⟩
      rw [transactionOn_view]
      split <;> rfl
  by_cases rollback : served sqlite pool answers (3 + (loopUpdates sqlite pool answers store).length) = some conn
  · rw [rollback, Option.bind_some, loopDatabase, sqlite3Step_rollback, if_pos rfl] at rolled
    obtain rfl : final = _ := rolled
    have same : ((outside conn (loopUpdates sqlite pool answers store)).foldl Store.change store = store) ↔
        (loopUpdates sqlite pool answers store = [] ∨ RollsBack sqlite pool answers store conn) := by
      rw [foldl_change_eq_self]
      constructor
      · exact fun outer => .inr ⟨rollback, outer.1, outer.2⟩
      · rintro (none | back)
        · rw [none]
          exact ⟨rfl, .inl rfl⟩
        · exact ⟨back.schema, back.version⟩
    rw [← same]
    exact ⟨fun unchanged => unchanged.1, fun unchanged => ⟨unchanged, fun _ => unchanged⟩⟩
  · have unrolled : final = loopDatabase sqlite pool answers store conn := by
      cases handed : served sqlite pool answers (3 + (loopUpdates sqlite pool answers store).length) with
      | none =>
          rw [handed] at rolled
          exact rolled
      | some other =>
          have apart : other ≠ conn := fun same => rollback (handed.trans (congrArg some same))
          rw [handed, Option.bind_some, loopDatabase, sqlite3Step_rollback, if_neg apart] at rolled
          exact rolled
    rw [kept unrolled]
    exact ⟨.inl, fun either => either.resolve_right fun back => rollback back.rollback⟩

/-- A store that is not below the target is left alone. -/
theorem migratesWhole_reached (store : Store)
    (reached : targetVersion ≤ startingVersion sqlite pool answers store) :
    MigratesWhole sqlite pool answers store ↔ startingVersion sqlite pool answers store = targetVersion := by
  have stored := startingVersion_stored sqlite pool answers store reached
  have outcome : databaseMigrate sqlite answers (migrationWorld pool store) =
      (worldAt sqlite pool answers 1 ⟨store, fun _ => none⟩ [], true) := by
    rw [startingVersion, getCurrentVersion_eq] at reached
    rw [databaseMigrate, getCurrentVersion_eq]
    simp only [if_pos reached]
  have beyond : ∀ script ∈ migrations, script.versionTo ≤ targetVersion := by decide
  constructor
  · intro whole
    have version := (whole.complete (by rw [outcome])).2
    rw [outcome] at version
    exact Option.some.inj (stored.symm.trans version)
  · intro same
    refine ⟨fun _ => ⟨fun script member above => ?_, ?_⟩, fun returned => ?_⟩
    · exact absurd (beyond script member) (Int.not_le.mpr (same ▸ above))
    · rw [outcome]
      exact stored.trans (congrArg some same)
    · rw [outcome] at returned
      cases returned

/-- A migration that runs to its end has left out a statement of the last script. -/
theorem not_migratesWhole_of_returned (store : Store)
    (below : startingVersion sqlite pool answers store < targetVersion)
    (returned : (databaseMigrate sqlite answers (migrationWorld pool store)).2 = true) :
    ¬ MigratesWhole sqlite pool answers store := by
  intro whole
  apply databaseMigrate_incomplete sqlite pool answers store below returned
  have last : ∃ script ∈ migrations, script.versionTo = targetVersion ∧ skippedStatement ∈ script.sql := by
    decide
  obtain ⟨script, member, version, text⟩ := last
  exact (whole.complete returned).1 script member (version ▸ below) _ text

/-- A migration that cannot begin changes nothing. -/
theorem migratesWhole_refused (store : Store)
    (below : startingVersion sqlite pool answers store < targetVersion)
    (begun : served sqlite pool answers 1 = none) : MigratesWhole sqlite pool answers store := by
  have outcome := databaseMigrate_refused sqlite pool answers store below begun
  refine ⟨fun returned => ?_, fun _ => ?_⟩
  · rw [outcome] at returned
    cases returned
  · rw [outcome]
    exact ⟨rfl, fun _ => rfl⟩

/-- A migration that has begun is whole exactly if an update fails and nothing of it stays. -/
theorem migratesWhole_begun (store : Store) (conn : Sqlite3 Handle)
    (below : startingVersion sqlite pool answers store < targetVersion)
    (begun : served sqlite pool answers 1 = some conn) :
    MigratesWhole sqlite pool answers store ↔
      (loopUpdates sqlite pool answers store).length <
        (updates (startingVersion sqlite pool answers store) migrations).length ∧
      (loopUpdates sqlite pool answers store = [] ∨ RollsBack sqlite pool answers store conn) := by
  have outcome := databaseMigrate_begun sqlite pool answers store conn below begun
  by_cases whole : (loopUpdates sqlite pool answers store).length =
      (updates (startingVersion sqlite pool answers store) migrations).length
  · have returned : (databaseMigrate sqlite answers (migrationWorld pool store)).2 = true := by
      rw [outcome, decide_eq_true whole]
    apply iff_of_false
    · exact not_migratesWhole_of_returned sqlite pool answers store below returned
    · omega
  · have short : (loopUpdates sqlite pool answers store).length <
        (updates (startingVersion sqlite pool answers store) migrations).length :=
      Nat.lt_of_le_of_ne (succeeded_length_le sqlite pool answers _ _) whole
    have returned : (databaseMigrate sqlite answers (migrationWorld pool store)).2 = false := by
      rw [outcome, decide_eq_false whole]
    have index : 2 + callsMade (loopUpdates sqlite pool answers store)
        (updates (startingVersion sqlite pool answers store) migrations) =
        3 + (loopUpdates sqlite pool answers store).length := by
      rw [callsMade, if_neg whole]
      omega
    have final : (databaseMigrate sqlite answers (migrationWorld pool store)).1.db =
        ((served sqlite pool answers (3 + (loopUpdates sqlite pool answers store).length)).bind
          fun other => sqlite3Step (loopDatabase sqlite pool answers store conn) other .rollback).getD
            (loopDatabase sqlite pool answers store conn) := by
      rw [outcome, index, if_neg whole, databaseExecuteUpdate_eq sqlite pool answers _ (by omega)]
      cases (served sqlite pool answers (3 + (loopUpdates sqlite pool answers store).length)).bind
        fun other => sqlite3Step (loopDatabase sqlite pool answers store conn) other .rollback <;> rfl
    have atomic := loopDatabase_rollback sqlite pool answers store conn below _ final
    constructor
    · exact fun migrates => ⟨short, atomic.mp (migrates.atomic returned)⟩
    · rintro ⟨-, back⟩
      refine ⟨fun contrary => ?_, fun _ => atomic.mpr back⟩
      rw [returned] at contrary
      cases contrary

/-- The migration is complete and atomic exactly when the starting version is the target,
or it is below the target and the migration fails cleanly. -/
theorem databaseMigrate_whole_iff (store : Store) :
    MigratesWhole sqlite pool answers store ↔
      startingVersion sqlite pool answers store = targetVersion ∨
        (startingVersion sqlite pool answers store < targetVersion ∧ FailsCleanly sqlite pool answers store) := by
  by_cases reached : targetVersion ≤ startingVersion sqlite pool answers store
  · rw [migratesWhole_reached sqlite pool answers store reached]
    constructor
    · exact .inl
    · rintro (same | ⟨below, -⟩)
      · exact same
      · exact absurd reached (Int.not_le.mpr below)
  · have below : startingVersion sqlite pool answers store < targetVersion := Int.not_le.mp reached
    rw [or_iff_right (Int.ne_of_lt below), and_iff_right below]
    cases begun : served sqlite pool answers 1 with
    | none =>
        apply iff_of_true
        · exact migratesWhole_refused sqlite pool answers store below begun
        · intro conn other
          rw [begun] at other
          cases other
    | some conn =>
        rw [migratesWhole_begun sqlite pool answers store conn below begun, FailsCleanly, begun]
        simp only [Option.some.injEq, forall_eq']

/-- Nobody else uses the pool, and every call succeeds. -/
def quietAnswers : Nat → CallAnswers Nat := fun _ => ⟨[], 0, [], [], true, true⟩

/-- A migration from version one on one connection returns true and skips statements. -/
theorem databaseMigrate_skips :
    ¬ MigratesWhole sampleOpenV2 (databaseInit sampleOpenV2 1 0) quietAnswers ⟨[], some 1⟩ := by
  intro whole
  have returned : (databaseMigrate sampleOpenV2 quietAnswers
      (migrationWorld (databaseInit sampleOpenV2 1 0) ⟨[], some 1⟩)).2 = true := by decide +kernel
  have text := (whole.complete returned).1 _ (List.mem_of_getLast? rfl) (by decide +kernel) skippedStatement
    (by decide)
  revert text
  decide +kernel

end SecureChat.Database1
