import Mathlib.Data.List.TakeWhile
import SecureChat.Construction.Database1.Migration

namespace SecureChat.Database1
open Library SqlSession

/-- What the loop hands to SQLite: the statements of the lines, up to the first incomplete line. -/
def fedScript : List (List UInt8) → Script (List UInt8)
  | [] => ([], true)
  | sqlBuffer :: rest =>
      if isSkipped sqlBuffer then fedScript rest
      else if (sqlScript sqlBuffer).2 then
        ((sqlScript sqlBuffer).1 ++ (fedScript rest).1, (fedScript rest).2)
      else ((sqlScript sqlBuffer).1, false)

section Calls

variable {Db : Type} (engine : SqlEngine (List UInt8) Db) (accepts : Bool)

/-- This is the execution of the whole text as one script inside a transaction. -/
def executeFile (conn : SqlSession Db) (text : List UInt8) : SqlSession Db × Bool :=
  match sqlite3Exec engine accepts conn beginTransaction with
  | (conn, false) => (conn, false)
  | (conn, true) =>
      match sqlite3Exec engine accepts conn text with
      | (conn, true) => sqlite3Exec engine accepts conn commitTransaction
      | (conn, false) => ((sqlite3Exec engine accepts conn rollbackTransaction).1, false)

/-- The call does what the whole file does, and a call that fails leaves nothing behind. -/
structure CreatesSchema (db : Db) (text : List UInt8) : Prop where
  succeeds : (dbCreateSchema engine accepts ⟨db, none⟩ (some text)).2 = true ↔
    (executeFile engine accepts ⟨db, none⟩ text).2 = true
  same : (dbCreateSchema engine accepts ⟨db, none⟩ (some text)).2 = true →
    dbCreateSchema engine accepts ⟨db, none⟩ (some text) = executeFile engine accepts ⟨db, none⟩ text
  clean : (dbCreateSchema engine accepts ⟨db, none⟩ (some text)).2 = false →
    (dbCreateSchema engine accepts ⟨db, none⟩ (some text)).1 = ⟨db, none⟩

theorem sqlScript_begin : sqlScript beginTransaction = ([.begin], true) := by decide +kernel

theorem sqlScript_commit : sqlScript commitTransaction = ([.commit], true) := by decide +kernel

theorem sqlScript_rollback : sqlScript rollbackTransaction = ([.rollback], true) := by decide +kernel

variable {engine accepts}

theorem exec_begin (db : Db) : sqlite3Exec engine accepts ⟨db, none⟩ beginTransaction = (begun db, true) := by
  unfold sqlite3Exec
  rw [sqlScript_begin]
  rfl

theorem exec_rollback (conn : SqlSession Db) :
    (sqlite3Exec engine accepts conn rollbackTransaction).1 = conn.abandon := by
  unfold sqlite3Exec
  rw [sqlScript_rollback]
  obtain ⟨saved, pending⟩ := conn
  cases pending <;> rfl

theorem exec_commit (conn : SqlSession Db) :
    sqlite3Exec engine accepts conn commitTransaction = finish engine accepts true conn := by
  unfold sqlite3Exec finish
  rw [sqlScript_commit, if_pos rfl]
  cases outcome : conn.step engine accepts .commit with
  | none => rw [run_cons_of_none outcome]; rfl
  | some committed => rw [run_cons_of_some outcome]; rfl

/-- Both calls end in the same way. -/
theorem finish_eq (result : SqlSession Db × Bool) :
    (match result with
      | (conn, true) => sqlite3Exec engine accepts conn commitTransaction
      | (conn, false) => ((sqlite3Exec engine accepts conn rollbackTransaction).1, false)) =
      finish engine accepts result.2 result.1 := by
  obtain ⟨conn, success⟩ := result
  cases success with
  | false =>
      dsimp only
      rw [exec_rollback]
      rfl
  | true => exact exec_commit conn

/-- The loop is one run over what it hands on. -/
theorem executeLines_eq (conn : SqlSession Db) (lines : List (List UInt8)) :
    executeLines engine accepts conn lines =
      ((conn.run engine accepts (fedScript lines).1).1,
        (conn.run engine accepts (fedScript lines).1).2 && (fedScript lines).2) := by
  induction lines generalizing conn with
  | nil => rfl
  | cons sqlBuffer rest ih =>
      rw [executeLines, fedScript]
      split
      · exact ih conn
      · cases ran : conn.run engine accepts (sqlScript sqlBuffer).1 with | mk next success =>
        have executed : sqlite3Exec engine accepts conn sqlBuffer = (next, success && (sqlScript sqlBuffer).2) := by
          unfold sqlite3Exec
          rw [ran]
        rw [executed]
        cases (sqlScript sqlBuffer).2 with
        | false =>
            rw [Bool.and_false, if_neg Bool.false_ne_true, ran, Bool.and_false]
        | true =>
            rw [Bool.and_true, if_pos rfl, run_append, ran]
            cases success with
            | false => rfl
            | true => exact ih next

/-- The call is one attempt in a transaction at what the loop hands on. -/
theorem dbCreateSchema_eq (db : Db) (text : List UInt8) :
    dbCreateSchema engine accepts ⟨db, none⟩ (some text) =
      (begun db).attempt engine accepts (fedScript (sqlLines text)).1 (fedScript (sqlLines text)).2 := by
  unfold dbCreateSchema attempt
  rw [exec_begin]
  dsimp only
  rw [executeLines_eq]
  exact finish_eq _

theorem executeFile_eq (db : Db) (text : List UInt8) :
    executeFile engine accepts ⟨db, none⟩ text =
      (begun db).attempt engine accepts (sqlScript text).1 (sqlScript text).2 := by
  unfold executeFile attempt
  rw [exec_begin]
  exact finish_eq _

/-- Without a file, the call fails and leaves the database alone. -/
theorem dbCreateSchema_of_none (db : Db) :
    dbCreateSchema engine accepts ⟨db, none⟩ none = (⟨db, none⟩, false) := by
  unfold dbCreateSchema
  rw [exec_begin]
  dsimp only
  rw [exec_rollback]
  rfl

theorem createsSchema_iff_carries (db : Db) (text : List UInt8) :
    CreatesSchema engine accepts db text ↔
      Carries engine accepts db (fedScript (sqlLines text)) (sqlScript text) := by
  constructor
  · rintro ⟨succeeds, same, clean⟩
    rw [dbCreateSchema_eq] at succeeds same clean
    rw [executeFile_eq] at succeeds same
    exact ⟨succeeds, same, clean⟩
  · rintro ⟨succeeds, same, clean⟩
    refine ⟨?_, ?_, ?_⟩
    · rw [dbCreateSchema_eq, executeFile_eq]
      exact succeeds
    · rw [dbCreateSchema_eq, executeFile_eq]
      exact same
    · rw [dbCreateSchema_eq]
      exact clean

end Calls

theorem createsSchema_iff_scripts (accepts : Bool) (text : List UInt8) :
    (∀ (Db : Type) (engine : SqlEngine (List UInt8) Db) (db : Db), CreatesSchema engine accepts db text) ↔
      ∀ (Db : Type) (engine : SqlEngine (List UInt8) Db) (db : Db),
        Carries engine accepts db (fedScript (sqlLines text)) (sqlScript text) :=
  forall_congr' fun _ => forall_congr' fun _ => forall_congr' fun db => createsSchema_iff_carries db text

example :
    let text := sqlBytes "CREATE TABLE t(id);\n  -- rows; none yet\nCREATE TRIGGER r BEGIN DELETE FROM t; END;\n"
    Agrees true (fedScript (sqlLines text)) (sqlScript text) ∧
      Safe true (fedScript (sqlLines text)).2 [] (begun []) (fedScript (sqlLines text)).1 := by
  decide +kernel

theorem fedScript_incomplete {lines : List (List UInt8)} {line : List UInt8} (member : line ∈ lines)
    (fed : isSkipped line = false) (incomplete : (sqlScript line).2 = false) : (fedScript lines).2 = false := by
  induction lines with
  | nil => exact absurd member List.not_mem_nil
  | cons first rest ih =>
      rw [fedScript]
      rcases List.mem_cons.mp member with rfl | later
      · rw [fed, incomplete]
        rfl
      · split
        · exact ih later
        · split
          · exact ih later
          · rfl

/-- One statement over several lines makes every call fail, whatever SQLite does. -/
theorem dbCreateSchema_incomplete {Db : Type} (engine : SqlEngine (List UInt8) Db) (accepts : Bool) (db : Db)
    {text line : List UInt8} (member : line ∈ sqlLines text) (fed : isSkipped line = false)
    (incomplete : (sqlScript line).2 = false) :
    (dbCreateSchema engine accepts ⟨db, none⟩ (some text)).2 = false := by
  rw [dbCreateSchema_eq, fedScript_incomplete member fed incomplete, attempt, Bool.and_false]
  rfl

/-- Without commands for transactions, the lines and the whole text must hold the same statements, or both
must end within a statement. -/
theorem schema_changes_iff {accepts : Bool} {text : List UInt8} {changes changes' : List (List UInt8)}
    (fed : (fedScript (sqlLines text)).1 = changes.map .change)
    (whole : (sqlScript text).1 = changes'.map .change) :
    (∀ (Db : Type) (engine : SqlEngine (List UInt8) Db) (db : Db), CreatesSchema engine accepts db text) ↔
      if accepts then
        (fedScript (sqlLines text)).2 = (sqlScript text).2 ∧
          ((fedScript (sqlLines text)).2 = true → changes = changes')
      else (fedScript (sqlLines text)).2 = false := by
  rw [createsSchema_iff_scripts, carries_iff, ← changes_carry_iff, ← fed, ← whole]

/-- The reads of a file lose nothing. -/
theorem fgets_flatten (size : Nat) (buffer text : List UInt8) : (fgets size buffer text).flatten = buffer ++ text := by
  induction text generalizing buffer with
  | nil => cases buffer <;> simp [fgets]
  | cons byte rest ih =>
      rw [fgets]
      split
      · rw [List.flatten_cons, ih, List.nil_append, List.append_assoc, List.singleton_append]
      · rw [ih, List.append_assoc, List.singleton_append]

theorem sqlScript_of_noZero {text : List UInt8} (noZero : 0 ∉ text) :
    sqlScript text = ((splitScript text).1.map SqlStatement.command, (splitScript text).2) := by
  have whole : text.takeWhile (· ≠ 0) = text :=
    List.takeWhile_eq_self_iff.mpr fun byte member => decide_eq_true fun zero => noZero (zero ▸ member)
  unfold sqlScript
  rw [whole]

/-- Lines that end between statements hand on the statements of the file, if skipped lines hold none. -/
theorem fedScript_of_settled {lines : List (List UInt8)} (noZero : ∀ line ∈ lines, 0 ∉ line)
    (settled : ∀ line ∈ lines, SqlScanner.Settled line)
    (blank : ∀ line ∈ lines, isSkipped line = true → (splitScript line).1 = []) :
    fedScript lines = ((lines.flatMap fun line => (splitScript line).1).map SqlStatement.command, true) := by
  induction lines with
  | nil => rfl
  | cons line rest ih =>
      have later := ih (fun other member => noZero other (List.mem_cons_of_mem line member))
        (fun other member => settled other (List.mem_cons_of_mem line member))
        (fun other member => blank other (List.mem_cons_of_mem line member))
      rw [fedScript, sqlScript_of_noZero (noZero line List.mem_cons_self),
        (settled line List.mem_cons_self).complete, later, if_pos rfl, List.flatMap_cons, List.map_append]
      split
      · rename_i skipped
        rw [blank line List.mem_cons_self skipped, List.map_nil, List.nil_append]
      · rfl

/-- A file whose lines all end between statements is executed as one script. -/
theorem fedScript_eq_sqlScript {text : List UInt8} (noZero : 0 ∉ text)
    (settled : ∀ line ∈ sqlLines text, SqlScanner.Settled line)
    (blank : ∀ line ∈ sqlLines text, isSkipped line = true → (splitScript line).1 = []) :
    fedScript (sqlLines text) = sqlScript text := by
  have joined : (sqlLines text).flatten = text := fgets_flatten sqlBufferSize [] text
  have noZeros : ∀ line ∈ sqlLines text, 0 ∉ line := by
    intro line member zero
    exact noZero (joined ▸ List.mem_flatten_of_mem member zero)
  have split := SqlScanner.splitScript_flatten settled
  rw [joined] at split
  rw [fedScript_of_settled noZeros settled blank, sqlScript_of_noZero noZero, split]

/-- Such a file creates its schema if it leaves the transaction alone and SQLite commits. -/
theorem lineScript_createsSchema {Db : Type} (engine : SqlEngine (List UInt8) Db) (db : Db)
    {text : List UInt8} {changes : List (List UInt8)} (noZero : 0 ∉ text)
    (settled : ∀ line ∈ sqlLines text, SqlScanner.Settled line)
    (blank : ∀ line ∈ sqlLines text, isSkipped line = true → (splitScript line).1 = [])
    (plain : (sqlScript text).1 = changes.map .change) : CreatesSchema engine true db text := by
  have same := fedScript_eq_sqlScript noZero settled blank
  refine (schema_changes_iff ((congrArg Prod.fst same).trans plain) plain).mpr ?_ Db engine db
  rw [if_pos rfl]
  exact ⟨congrArg Prod.snd same, fun _ => rfl⟩

end SecureChat.Database1
