import SecureChat.Construction.Database.Statements

namespace SecureChat.Database

variable {Stmt : Type}

/-- Events that only use statements. -/
def OnlyUses (events : List (StmtEvent Stmt)) : Prop := ∀ event ∈ events, ∃ call stmt, event = .used call stmt

theorem OnlyUses.nil : OnlyUses ([] : List (StmtEvent Stmt)) := by
  intro event member
  cases member

theorem OnlyUses.cons {events : List (StmtEvent Stmt)} (only : OnlyUses events) (call : StmtCall) (stmt : Stmt) :
    OnlyUses (.used call stmt :: events) := by
  intro event member
  rcases List.mem_cons.mp member with rfl | later
  · exact ⟨call, stmt, rfl⟩
  · exact only event later

theorem OnlyUses.count [DecidableEq Stmt] {events : List (StmtEvent Stmt)} (only : OnlyUses events)
    (stmt : Stmt) : events.count (.finalized stmt) = 0 := by
  rw [List.count_eq_zero]
  intro member
  obtain ⟨call, other, same⟩ := only _ member
  cases same

theorem copyCells_uses (stmt : Stmt) (cells : List CellAnswer) : OnlyUses (copyCells stmt cells).1 := by
  induction cells with
  | nil => exact OnlyUses.nil
  | cons cell cells ih =>
      rw [copyCells]
      split
      · exact OnlyUses.nil.cons .columnText stmt
      · exact ih.cons .columnText stmt

theorem copyNames_uses (stmt : Stmt) (names : List Bool) : OnlyUses (copyNames stmt names).1 := by
  induction names with
  | nil => exact OnlyUses.nil
  | cons copied names ih =>
      rw [copyNames]
      split
      · exact ih.cons .columnName stmt
      · exact OnlyUses.nil.cons .columnName stmt

theorem bindAll_uses (stmt : Stmt) (params : List DbParam) : OnlyUses (bindAll stmt params).1 := by
  induction params with
  | nil => exact OnlyUses.nil
  | cons param params ih =>
      rw [bindAll]
      split
      · exact OnlyUses.nil
      · exact ih.cons .bind stmt

theorem dbBindParameters_uses (stmt : Option Stmt) (params : Option (List DbParam)) :
    OnlyUses (dbBindParameters stmt params).1 := by
  unfold dbBindParameters
  split
  · exact ((bindAll_uses _ _).cons .clearBindings _).cons .reset _
  · exact OnlyUses.nil

/-- Binding fails exactly when it cannot bind some parameter. -/
theorem bindAll_success (stmt : Stmt) (params : List DbParam) :
    (bindAll stmt params).2 = .success ↔ ∀ param ∈ params, bindError param = none := by
  induction params with
  | nil => simp [bindAll]
  | cons param params ih =>
      rw [bindAll, List.forall_mem_cons]
      cases failed : bindError param with
      | none => simpa using ih
      | some code =>
          have reported : code ≠ .success := by
            rintro rfl
            rw [bindError] at failed
            split at failed
            · cases failed
            · split at failed <;> cases failed
            · cases failed
          simp [reported]

theorem dbBindParameters_success (stmt : Stmt) (params : Option (List DbParam)) :
    (dbBindParameters (some stmt) params).2 = .success ↔
      ∀ list, params = some list → ∀ param ∈ list, bindError param = none := by
  cases params with
  | none => simp [dbBindParameters]
  | some list =>
      cases list with
      | nil => simp [dbBindParameters]
      | cons param rest =>
          rw [dbBindParameters, bindAll_success]
          simp

section Balance

variable [DecidableEq Stmt]

/-- How often the release of a result finalizes a statement. -/
def owed (stmt : Stmt) (result : DbResult Stmt) : Nat := (dbFreeResult result).1.count (.finalized stmt)

theorem owed_self (stmt : Stmt) (rows : Nat) : owed stmt ⟨some stmt, rows⟩ = 1 :=
  List.count_singleton_self

theorem owed_none (stmt : Stmt) (rows : Nat) : owed stmt ⟨none, rows⟩ = 0 := rfl

/-- Either the function finalizes the statement of its result, or it leaves it to the release of the result. -/
theorem freeAndReturn_balance (stmt : Stmt) (events : List (StmtEvent Stmt)) (only : OnlyUses events)
    (rows : Nat) (code : DbErrorCode) :
    (freeAndReturn events ⟨some stmt, rows⟩ code).1.count (.finalized stmt) +
      owed stmt (freeAndReturn events ⟨some stmt, rows⟩ code).2.1 = 1 := by
  rw [freeAndReturn, List.count_append, only.count stmt, Nat.zero_add]
  exact owed_self stmt rows

theorem fetchRows_balance (stmt : Stmt) (columnCount : Nat) (done : Bool) (list : List RowAllocations)
    (capacity rows : Nat) :
    (fetchRows stmt columnCount done list capacity ⟨some stmt, rows⟩).1.count (.finalized stmt) +
      owed stmt (fetchRows stmt columnCount done list capacity ⟨some stmt, rows⟩).2.1 = 1 := by
  have stepped : OnlyUses [StmtEvent.used .step stmt] := OnlyUses.nil.cons .step stmt
  induction list generalizing capacity rows with
  | nil =>
      rw [fetchRows]
      split
      · have only := (OnlyUses.nil.cons .reset stmt).cons .step stmt
        rw [only.count stmt, owed_self]
      · exact freeAndReturn_balance stmt _ stepped rows _
  | cons row list ih =>
      rw [fetchRows]
      split
      · exact freeAndReturn_balance stmt _ stepped rows _
      · split
        · exact freeAndReturn_balance stmt _ stepped rows _
        · have read := (copyCells_uses stmt ((List.range columnCount).map row.cell)).cons .step stmt
          generalize copyCells stmt ((List.range columnCount).map row.cell) = cells at read
          obtain ⟨cells, copied⟩ := cells
          simp only
          split
          · exact freeAndReturn_balance stmt _ read rows _
          · rw [List.count_append, read.count stmt, Nat.zero_add]
            exact ih _ _

theorem fillResult_balance (stmt : Stmt) (answers : ExecutionAnswers) :
    (fillResult stmt answers).1.count (.finalized stmt) + owed stmt (fillResult stmt answers).2.1 = 1 := by
  have names := copyNames_uses stmt ((List.range answers.columnCount).map answers.nameCopied)
  rw [fillResult]
  split
  · exact (Nat.zero_add _).trans (owed_self stmt 0)
  · generalize copyNames stmt ((List.range answers.columnCount).map answers.nameCopied) = copies at names
    obtain ⟨read, copied⟩ := copies
    simp only
    split
    · rw [names.count stmt, owed_self]
    · split
      · rw [names.count stmt, owed_self]
      · rw [List.count_append, names.count stmt, Nat.zero_add]
        exact fetchRows_balance stmt _ _ _ _ _

/-- A statement that is executed with a result is finalized twice:
by the function that executes it, and by the release of the result. -/
theorem execution_count (stmt : Stmt) (result : DbResult Stmt) (before : List (StmtEvent Stmt))
    (only : OnlyUses before) (answers : ExecutionAnswers) :
    (preparedEvents (some stmt) ++ before ++
        (dbExecutePreparedInternal (some stmt) (some result) answers).1 ++ sqlite3Finalize (some stmt) ++
      ((dbExecutePreparedInternal (some stmt) (some result) answers).2.1.elim [] fun result =>
        (dbFreeResult result).1)).count (.finalized stmt) = 2 := by
  have balance := fillResult_balance stmt answers
  rw [owed] at balance
  have prepared : (preparedEvents (some stmt)).count (.finalized stmt) = 0 := by
    rw [List.count_eq_zero]
    simp [preparedEvents]
  have finalized : (sqlite3Finalize (some stmt)).count (.finalized stmt) = 1 := List.count_singleton_self
  have started : (StmtEvent.used .columnCount stmt :: (fillResult stmt answers).1).count (.finalized stmt) =
      (fillResult stmt answers).1.count (.finalized stmt) := by
    rw [List.count_cons_of_ne]
    simp
  simp only [dbExecutePreparedInternal, List.count_append, prepared, only.count stmt, finalized,
    Option.elim_some]
  have sum : ∀ first second : Nat, first + second = 1 → 0 + 0 + first + 1 + second = 2 := by omega
  rw [started]
  exact sum _ _ balance

end Balance

/-- The statement is used in front of its finalization only. -/
def NeverUsedAfter (stmt : Stmt) (events : List (StmtEvent Stmt)) : Prop :=
  events.Pairwise fun first second => first = .finalized stmt → ∀ call, second ≠ .used call stmt

/-- Every statement that is created is finalized once and not used afterwards. -/
def FinalizedOnce [DecidableEq Stmt] (events : List (StmtEvent Stmt)) : Prop :=
  ∀ stmt, .prepared stmt ∈ events → events.count (.finalized stmt) = 1 ∧ NeverUsedAfter stmt events

/-- The call compiles its text to a statement. -/
def Creates (sql : Option String) (answers : QueryAnswers Stmt) (stmt : Stmt) : Prop :=
  sql ≠ none ∧ answers.conn = .ok () ∧ answers.prepare = some (some stmt)

/-- The call stops at a parameter that it cannot bind. -/
def BindingFails (call : QueryCall) : Prop :=
  ∃ params, call = .executeParams (some params) ∧ ∃ param ∈ params, bindError param ≠ none

/-- A statement whose parameters cannot be bound is finalized at once, and the result is not touched. -/
theorem FinalizedOnce.refused [DecidableEq Stmt] (stmt : Stmt) (result : DbResult Stmt)
    (bound : List (StmtEvent Stmt)) (only : OnlyUses bound) :
    FinalizedOnce (preparedEvents (some stmt) ++ bound ++ sqlite3Finalize (some stmt) ++ (dbFreeResult result).1) ↔
      result.stmt ≠ some stmt := by
  have early : ∀ event ∈ preparedEvents (some stmt) ++ bound, event ≠ .finalized stmt := by
    intro event member
    rcases List.mem_append.mp member with first | later
    · rw [List.mem_singleton.mp first]
      simp
    · obtain ⟨call, other, rfl⟩ := only event later
      simp
  have count : (preparedEvents (some stmt) ++ bound ++ sqlite3Finalize (some stmt) ++
      (dbFreeResult result).1).count (.finalized stmt) = 1 + owed stmt result := by
    have before : (preparedEvents (some stmt) ++ bound).count (.finalized stmt) = 0 :=
      List.count_eq_zero.mpr fun member => early _ member rfl
    have finalized : (sqlite3Finalize (some stmt)).count (.finalized stmt) = 1 := List.count_singleton_self
    rw [List.count_append, List.count_append, before, finalized, Nat.zero_add, owed]
  constructor
  · intro once same
    have counted := (once stmt (List.mem_append_left _ (List.mem_append_left _ (List.mem_append_left _
      (List.mem_singleton_self _))))).1
    obtain ⟨pointer, rows⟩ := result
    obtain rfl : pointer = some stmt := same
    rw [count, owed_self] at counted
    omega
  · intro apart other created
    have late : ∀ event ∈ sqlite3Finalize (some stmt) ++ (dbFreeResult result).1,
        ∃ stmt, event = .finalized stmt := by
      intro event member
      rcases List.mem_append.mp member with first | later
      · exact ⟨stmt, List.mem_singleton.mp first⟩
      · obtain ⟨old, -, rfl⟩ := List.mem_map.mp later
        exact ⟨old, rfl⟩
    obtain rfl : other = stmt := by
      rw [List.append_assoc, List.mem_append, List.mem_append] at created
      rcases created with (first | bindings) | finals
      · exact StmtEvent.prepared.inj (List.mem_singleton.mp first)
      · obtain ⟨call, old, same⟩ := only _ bindings
        cases same
      · obtain ⟨old, same⟩ := late _ finals
        cases same
    have nothing : owed other result = 0 := by
      obtain ⟨pointer, rows⟩ := result
      cases pointer with
      | none => exact owed_none other rows
      | some old =>
          apply List.count_eq_zero.mpr
          intro member
          apply apart
          rw [StmtEvent.finalized.inj (List.mem_singleton.mp member)]
    refine ⟨by rw [count, nothing], ?_⟩
    rw [NeverUsedAfter, List.append_assoc, List.pairwise_append]
    refine ⟨?_, ?_, ?_⟩
    · exact List.pairwise_of_forall_mem_list fun first member _ _ same => absurd same (early first member)
    · apply List.pairwise_of_forall_mem_list
      intro first _ second member _ call same
      obtain ⟨old, final⟩ := late second member
      rw [final] at same
      cases same
    · exact fun first member _ _ same => absurd same (early first member)

/-- A call that executes its statement with a result finalizes it twice. -/
theorem not_finalizedOnce [DecidableEq Stmt] (stmt : Stmt) (result : DbResult Stmt)
    (before : List (StmtEvent Stmt)) (only : OnlyUses before) (answers : ExecutionAnswers) :
    ¬ FinalizedOnce (preparedEvents (some stmt) ++ before ++
        (dbExecutePreparedInternal (some stmt) (some result) answers).1 ++ sqlite3Finalize (some stmt) ++
      ((dbExecutePreparedInternal (some stmt) (some result) answers).2.1.elim [] fun result =>
        (dbFreeResult result).1)) := by
  intro once
  have twice := execution_count stmt result before only answers
  have counted := (once stmt (List.mem_append_left _ (List.mem_append_left _ (List.mem_append_left _
    (List.mem_append_left _ (List.mem_singleton_self _)))))).1
  omega

/-- A query that creates no statement finalizes only what the result held before. -/
theorem FinalizedOnce.absent [DecidableEq Stmt] (result : DbResult Stmt) :
    FinalizedOnce (dbFreeResult result).1 := by
  intro stmt created
  obtain ⟨old, -, same⟩ := List.mem_map.mp created
  cases same

/-- A created statement is finalized exactly once if and only if its parameters cannot be bound
and the result did not point at it before the call. -/
theorem queryAndFree_finalizedOnce [DecidableEq Stmt] (call : QueryCall) (sql : Option String)
    (result : DbResult Stmt) (answers : QueryAnswers Stmt) :
    FinalizedOnce (queryAndFree call sql result answers) ↔
      ∀ stmt, Creates sql answers stmt → BindingFails call ∧ result.stmt ≠ some stmt := by
  by_cases created : ∃ stmt, Creates sql answers stmt
  · obtain ⟨stmt, given, connected, compiled⟩ := created
    obtain ⟨text, rfl⟩ := Option.ne_none_iff_exists'.mp given
    have only : (∀ other, Creates (some text) answers other → BindingFails call ∧ result.stmt ≠ some other) ↔
        BindingFails call ∧ result.stmt ≠ some stmt := by
      constructor
      · exact fun every => every stmt ⟨given, connected, compiled⟩
      · rintro holds other ⟨-, -, same⟩
        rw [compiled] at same
        rwa [← Option.some.inj (Option.some.inj same)]
    rw [only]
    cases call with
    | execute =>
        have never : ¬ BindingFails .execute := by
          rintro ⟨params, same, -⟩
          cases same
        have twice := not_finalizedOnce stmt result [] OnlyUses.nil answers.execution
        simp only [List.append_nil] at twice
        simp only [queryAndFree, dbExecute, connected, dbExecuteInternal, compiled]
        exact iff_of_false twice fun holds => never holds.1
    | executeParams params =>
        have uses := dbBindParameters_uses (some stmt) params
        have bound : BindingFails (.executeParams params) ↔
            (dbBindParameters (some stmt) params).2 ≠ .success := by
          rw [Ne, dbBindParameters_success]
          simp only [BindingFails, QueryCall.executeParams.injEq, not_forall, exists_prop]
        simp only [queryAndFree, dbExecuteParams, connected, compiled]
        rw [bound]
        generalize dbBindParameters (some stmt) params = binding at uses
        obtain ⟨events, code⟩ := binding
        by_cases failed : code ≠ .success
        · simp only [if_pos failed, Option.elim_some]
          rw [FinalizedOnce.refused stmt result events uses]
          exact (and_iff_right failed).symm
        · simp only [if_neg failed]
          exact iff_of_false (not_finalizedOnce stmt result events uses answers.execution)
            fun holds => failed holds.1
  · have silent : queryAndFree call sql result answers = (dbFreeResult result).1 := by
      have stopped : sql = none ∨ answers.conn ≠ .ok () ∨ answers.prepare.join = none := by
        by_contra reached
        simp only [not_or, Ne, not_not] at reached
        obtain ⟨given, connected, compiled⟩ := reached
        obtain ⟨stmt, same⟩ := Option.ne_none_iff_exists'.mp compiled
        exact created ⟨stmt, given, connected, Option.join_eq_some_iff.mp same⟩
      cases sql with
      | none => cases call <;> rfl
      | some text =>
          cases connected : answers.conn with
          | error code => cases call <;> simp [queryAndFree, dbExecute, dbExecuteParams, connected]
          | ok done =>
              have compiled := (stopped.resolve_left (Option.some_ne_none text)).resolve_left
                fun refused => refused connected
              cases compilation : answers.prepare with
              | none =>
                  cases call <;> simp [queryAndFree, dbExecute, dbExecuteParams, dbExecuteInternal, connected,
                    compilation]
              | some pointer =>
                  rw [compilation, Option.join_some] at compiled
                  subst compiled
                  cases call <;> simp [queryAndFree, dbExecute, dbExecuteParams, dbExecuteInternal, connected,
                    compilation, preparedEvents, dbExecutePreparedInternal, sqlite3Finalize, dbBindParameters]
    rw [silent]
    apply iff_of_true (FinalizedOnce.absent result)
    exact fun stmt creates => absurd ⟨stmt, creates⟩ created

/-- A query without rows finalizes its statement twice. -/
theorem queryAndFree_twice :
    ¬ FinalizedOnce (queryAndFree .execute (some "SELECT 1;") ⟨none, 0⟩
      ⟨.ok (), some (some 1), ⟨0, true, fun _ => true, true, [], true⟩⟩) := by
  intro once
  have counted := (once 1 (by decide)).1
  revert counted
  decide

end SecureChat.Database
