import SecureChat.Proof.ThreadPool.Destroy

namespace SecureChat.ThreadPool
open Library

/-- The steps that a worker thread takes at most before it has exited, one more of them for a task that it takes. -/
def WorkerPhase.work : WorkerPhase → Nat
  | .unstarted => 3
  | .ready => 2
  | .waiting => 3
  | .running _ => 3
  | .leaving => 1
  | .exited => 0

/-- A call adds one task or as many workers as it names. -/
def PoolCall.work : PoolCall → Nat
  | .submit _ => 4
  | .resize numThreads _ => 3 * numThreads.toNat + 1

/-- The steps of the caller of `threadpool_destroy`. -/
def DestroyPhase.work (threads : Nat) : DestroyPhase → Nat
  | .uncalled => 0
  | .draining => threads + 2
  | .joining index => threads - index + 1
  | .destroyed => 0

def queuedWork : Option Threadpool → Nat
  | none => 0
  | some pool => 3 * pool.stats.queueLength

/-- The steps that are left of a pool that is being destroyed. -/
def ClosingPool.remaining (closing : ClosingPool) : Nat :=
  (closing.state.workers.map WorkerPhase.work).sum + queuedWork closing.state.pool +
    (closing.calls.map PoolCall.work).sum + closing.state.waiters.length +
    closing.phase.work closing.state.threadCount.toNat + closing.signalled.toNat

section Measure

variable {closing : ClosingPool} (allocator : Allocator)

/-- A worker that changes its phase changes the sum by the difference. -/
theorem work_set (workers : List WorkerPhase) (index : Nat) (old new : WorkerPhase)
    (found : workers[index]? = some old) :
    old.work + ((workers.set index new).map WorkerPhase.work).sum = new.work + (workers.map WorkerPhase.work).sum := by
  have moved := ((set_perm workers index old new found).map WorkerPhase.work).sum_nat
  simpa using moved

/-- A call that leaves takes its work with it. -/
theorem work_erase (calls : List PoolCall) (index : Nat) (call : PoolCall) (found : calls[index]? = some call) :
    call.work + ((calls.eraseIdx index).map PoolCall.work).sum = (calls.map PoolCall.work).sum := by
  obtain ⟨inside, rfl⟩ := List.getElem?_eq_some_iff.mp found
  have moved := ((List.getElem_cons_eraseIdx_perm inside).map PoolCall.work).sum_nat
  simpa using moved

theorem announces_self (pool : Option Threadpool) : announces pool pool = false := by
  cases pool with
  | none => rfl
  | some pool => simp [announces]

/-- A worker in its loop has to leave it and to exit. -/
theorem WorkerPhase.atLoop_work (phase : WorkerPhase) (turn : phase.atLoop = true) : 2 ≤ phase.work := by
  cases phase with
  | ready => decide
  | waiting => decide
  | unstarted => cases turn
  | running task => cases turn
  | leaving => cases turn
  | exited => cases turn

/-- A worker that goes on while the pool stops has less work in front of it. -/
theorem Passes.work {pool : Threadpool} {old new : WorkerPhase} (passes : Passes pool true old new) :
    new.work < old.work := by
  cases passes with
  | start => decide
  | finish task => exact Nat.lt_succ_self 2
  | sleep turn calm => cases calm
  | leave turn idle => exact old.atLoop_work turn
  | exit => decide

section Steps

variable (settles : Settles closing) (called : closing.phase ≠ .uncalled) {pool : Threadpool}
  (present : closing.state.pool = some pool)

include settles called present

/-- A step of a worker or of a caller of `threadpool_wait` does nothing or lowers the measure. -/
theorem Settles.thread_lowers (step : WorkerStep) (changes : threadStep allocator closing step ≠ closing) :
    (threadStep allocator closing step).remaining < closing.remaining := by
  obtain ⟨requested, awake, stops⟩ := settles.stopping called
  obtain ⟨cells, queues, represents, -⟩ := settles.conserves.balanced pool present
  rw [threadStep] at changes ⊢
  split at changes
  · rename_i own
    have moves := ownStep allocator present represents step own
    generalize ((workerMachine allocator).step closing.state step).1 = next at moves changes
    generalize rechecks closing.state step = checked at moves changes
    have asleep := moves.awake requested
    rw [if_pos own]
    simp only [asleep, awake, List.filter_nil, List.append_nil] at changes ⊢
    cases moves with
    | stays =>
        apply absurd _ changes
        rw [announces_self, Bool.or_false, ← awake]
    | waits call runs => cases (stops pool present).symm.trans runs
    | returns index inside =>
        simp only [ClosingPool.remaining, announces_self, Bool.or_false, List.length_eraseIdx, if_pos inside]
        omega
    | passes index old new goes same how =>
        rw [requested] at how
        have less := how.work
        have moved := work_set closing.state.workers index old new goes.found
        simp only [ClosingPool.remaining, goes.workers, goes.waiters, goes.threadCount, same, present, announces_self,
          Bool.or_false]
        omega
    | takes index old task now taken goes turn result same =>
        obtain ⟨-, shorter, -, -⟩ := represents.taken now taken task result
        have moved := work_set closing.state.workers index old (.running task) goes.found
        have least := old.atLoop_work turn
        have most : (closing.signalled || announces (some pool) (some taken)).toNat ≤ 1 := Bool.toNat_le _
        have three : (WorkerPhase.running task).work = 3 := rfl
        simp only [ClosingPool.remaining, goes.workers, goes.waiters, goes.threadCount, same, present, queuedWork]
        omega
  · exact absurd rfl changes

omit called in
/-- A call that takes the mutex gives up more work than it adds. -/
theorem Settles.locked_lowers (index woken : Nat) (call : PoolCall) (found : closing.calls[index]? = some call) :
    (lockedCall allocator { closing with calls := closing.calls.eraseIdx index } pool woken call).remaining <
      closing.remaining := by
  have given := work_erase closing.calls index call found
  cases call with
  | submit submission =>
      have four : (PoolCall.submit submission).work = 4 := rfl
      obtain ⟨cells, queues, represents, -⟩ := settles.conserves.balanced pool present
      dsimp only [lockedCall]
      rcases submitLocked_cases allocator represents submission with
        crashed | ⟨next, event, moved, after, added, kept, queued⟩
      · simp only [crashed, ClosingPool.remaining, present, queuedWork]
        omega
      · have longer := congrArg Multiset.card queued.grown
        rw [Multiset.card_add, kept.card, represents.card] at longer
        have single : (submittedTask event).length ≤ 1 := by
          cases event <;> simp [submittedTask]
        simp only [added, ClosingPool.remaining, present, queuedWork]
        rw [Multiset.coe_card] at longer
        omega
  | resize numThreads created =>
      have cost : (PoolCall.resize numThreads created).work = 3 * numThreads.toNat + 1 := rfl
      dsimp only [lockedCall, resizeLocked]
      split
      · simp only [ClosingPool.remaining]
        omega
      · split
        · rename_i grows
          have bound := numThreads.toNat_lt
          have room : (numThreads - closing.state.threadCount).toNat =
              numThreads.toNat - closing.state.threadCount.toNat := UInt32.toNat_sub_of_le _ _ (UInt32.le_of_lt grows)
          rw [UInt32.lt_iff_toNat_lt] at grows
          generalize started : min created (numThreads - closing.state.threadCount).toNat = count
          have counted : (closing.state.threadCount + UInt32.ofNat count).toNat =
              closing.state.threadCount.toNat + count := by
            rw [UInt32.toNat_add, UInt32.toNat_ofNat']
            omega
          have more : closing.phase.work (closing.state.threadCount.toNat + count) ≤
              closing.phase.work closing.state.threadCount.toNat + count := by
            cases closing.phase <;> simp only [DestroyPhase.work] <;> omega
          have ready : ((List.replicate count WorkerPhase.ready).map WorkerPhase.work).sum = 2 * count := by
            rw [List.map_replicate, List.sum_replicate_nat, Nat.mul_comm]
            rfl
          simp only [ClosingPool.remaining, counted, List.map_append, List.sum_append, ready]
          omega
        · simp only [ClosingPool.remaining]
          omega

omit called in
/-- The caller of `threadpool_destroy` goes on or does nothing. -/
theorem Settles.join_lowers (index : Nat) (joining : closing.phase = .joining index)
    (changes : (joinNext closing pool index).1 ≠ closing) :
    (joinNext closing pool index).1.remaining < closing.remaining := by
  obtain ⟨cells, queues, represents, -⟩ := settles.conserves.balanced pool present
  obtain ⟨failed, thrown, -⟩ := represents.destroyQueues
  rw [joinNext] at changes ⊢
  split at changes
  · rename_i further
    rw [if_pos further]
    dsimp only at changes ⊢
    split at changes
    · rename_i exited
      rw [if_pos exited]
      simp only [ClosingPool.remaining, joining, DestroyPhase.work]
      omega
    · exact absurd rfl changes
  · rename_i last
    rw [if_neg last, thrown]
    simp only [ClosingPool.remaining, joining, DestroyPhase.work, queuedWork]
    omega

end Steps

/-- While the pool is being destroyed, every step that changes anything lowers the measure. -/
theorem Settles.lowers (settles : Settles closing) (called : closing.phase ≠ .uncalled) (step : ClosingStep)
    (changes : ((closingMachine allocator).step closing step).1 ≠ closing) :
    ((closingMachine allocator).step closing step).1.remaining < closing.remaining := by
  obtain ⟨requested, awake, stops⟩ := settles.stopping called
  simp only [closingMachine] at changes ⊢
  cases present : closing.state.pool with
  | none =>
      rw [present] at changes
      exact absurd rfl changes
  | some pool =>
      rw [present] at changes
      cases step with
      | thread step => exact settles.thread_lowers allocator called present step changes
      | enter call =>
          have refused : call.enters closing.state pool = false := by
            cases call <;> simp [PoolCall.enters, stops pool present]
          simp only [refused] at changes
          exact absurd rfl changes
      | locked index woken =>
          dsimp only at changes ⊢
          cases found : closing.calls[index]? with
          | none =>
              rw [found] at changes
              exact absurd rfl changes
          | some call => exact settles.locked_lowers allocator present index woken call found
      | destroy wait =>
          dsimp only at changes
          rw [if_neg called] at changes
          exact absurd rfl changes
      | drainWake =>
          dsimp only at changes ⊢
          split at changes
          · rename_i draining
            rw [if_pos draining]
            rw [drainWake] at changes ⊢
            split at changes
            · rename_i queued
              rw [if_pos queued]
              cases signalled : closing.signalled with
              | false =>
                  rw [← signalled] at changes
                  exact absurd rfl changes
              | true =>
                  simp only [ClosingPool.remaining, signalled]
                  exact Nat.lt_succ_self _
            · rename_i empty
              rw [if_neg empty]
              simp only [ClosingPool.remaining, draining, DestroyPhase.work]
              omega
          · exact absurd rfl changes
      | join =>
          dsimp only at changes ⊢
          cases joining : closing.phase with
          | joining index =>
              rw [joining] at changes
              exact settles.join_lowers present index joining changes
          | uncalled => exact absurd joining called
          | draining =>
              rw [joining] at changes
              exact absurd rfl changes
          | destroyed =>
              rw [joining] at changes
              exact absurd rfl changes

/-- A pool that is being destroyed stays one. -/
theorem called_step (called : closing.phase ≠ .uncalled) (step : ClosingStep) :
    ((closingMachine allocator).step closing step).1.phase ≠ .uncalled := by
  simp only [closingMachine]
  split
  · exact called
  · cases step with
    | thread step =>
        dsimp only [threadStep]
        split <;> exact called
    | enter call =>
        dsimp only
        split <;> exact called
    | locked index woken =>
        dsimp only
        split
        · exact called
        · rename_i call found
          cases call <;> exact called
    | destroy wait =>
        dsimp only
        rw [if_neg called]
        exact called
    | drainWake =>
        dsimp only [drainWake]
        split
        · split
          · exact called
          · rintro ⟨⟩
        · exact called
    | join =>
        dsimp only
        split
        · rw [joinNext]
          split
          · dsimp only
            split
            · rintro ⟨⟩
            · exact called
          · split
            · exact called
            · rintro ⟨⟩
        · exact called

end Measure

/-- The steps that a thread takes without a spurious wakeup. A sleeping worker, a caller of `threadpool_wait`
and a caller of `threadpool_destroy` that has not been signalled need not wake up. -/
def Due (closing : ClosingPool) : ClosingStep → Prop
  | .thread (.startWorker _) => True
  | .thread (.workerTurn _ _) => True
  | .thread (.workerWake index _) => index ∉ closing.asleep
  | .thread (.taskReturns _) => True
  | .thread (.workerExit _) => True
  | .locked _ _ => True
  | .drainWake => closing.signalled = true
  | .join => True
  | _ => False

/-- Some thread can go on. -/
def CanGoOn (allocator : Allocator) (closing : ClosingPool) : Prop :=
  ∃ step, Due closing step ∧ ((closingMachine allocator).step closing step).1 ≠ closing

/-- The caller of `threadpool_destroy` waits for tasks that no worker is left for.
They were all added when no worker was left in its loop. -/
def WaitsForever (closing : ClosingPool) : Prop :=
  closing.phase = .draining ∧ (∀ phase ∈ closing.state.workers, phase = .exited) ∧
    ∃ pool cells queues, closing.state.pool = some pool ∧ Represents pool cells queues ∧
      waiting queues ≠ 0 ∧ ∀ task ∈ waiting queues, task ∈ closing.late

section Rests

variable {closing : ClosingPool} (allocator : Allocator)

/-- A worker that has not exited can go on while the pool stops. -/
theorem Settles.worker_due (settles : Settles closing) (called : closing.phase ≠ .uncalled) {pool : Threadpool}
    (present : closing.state.pool = some pool) (index : Nat) (phase : WorkerPhase)
    (found : closing.state.workers[index]? = some phase) (busy : phase ≠ .exited) : CanGoOn allocator closing := by
  obtain ⟨requested, awake, -⟩ := settles.stopping called
  obtain ⟨cells, queues, represents, -⟩ := settles.conserves.balanced pool present
  have inside := (List.getElem?_eq_some_iff.mp found).1
  -- The state of this worker is another one after the step.
  have moves : ∀ step : WorkerStep, step.own = true → Due closing (.thread step) →
      ((workerMachine allocator).step closing.state step).1.workers[index]? ≠ some phase →
        CanGoOn allocator closing := by
    intro step own due differs
    refine ⟨.thread step, due, fun same => differs ?_⟩
    simp only [closingMachine, present, threadStep, own, if_true] at same
    rw [← congrArg (·.state.workers) same] at found
    exact found
  have alive : closing.state.pool.isNone = false := by
    rw [present]
    rfl
  have set : ∀ new, new ≠ phase → (closing.state.workers.set index new)[index]? ≠ some phase := by
    intro new differs
    rw [List.getElem?_set_self inside]
    exact fun same => differs (Option.some.inj same)
  have loops : ∀ begin : WorkerPool, begin.pool = some pool → begin.workers = closing.state.workers →
      begin.threadCount = closing.state.threadCount → begin.shutdownRequested = closing.state.shutdownRequested →
      begin.waiters = closing.state.waiters → phase.atLoop = true →
      (workerLoop begin index 0).workers[index]? ≠ some phase := by
    intro begin held workers threadCount calm waiters turn
    have step := ownStep_workerLoop represents index 0 phase found turn begin held workers threadCount calm waiters
    generalize workerLoop begin index 0 = next at step
    generalize listed : [index] = checked at step
    cases step with
    | stays => cases listed
    | waits call runs => cases listed
    | returns other inside => cases listed
    | passes other old new goes same how =>
        obtain rfl : index = other := by
          split at listed <;> cases listed
          rfl
        obtain rfl := Option.some.inj (found.symm.trans goes.found)
        rw [requested] at how
        rw [goes.workers]
        apply set
        rintro rfl
        exact Nat.lt_irrefl _ how.work
    | takes other old task now taken goes turn result same =>
        obtain rfl : index = other := by
          cases listed
          rfl
        obtain rfl := Option.some.inj (found.symm.trans goes.found)
        rw [goes.workers]
        apply set
        rintro rfl
        cases turn
  cases phase with
  | unstarted =>
      apply moves (.startWorker index) rfl trivial
      simp only [workerMachine, alive, found, Bool.false_eq_true, if_false, if_true]
      exact set _ (by rintro ⟨⟩)
  | ready =>
      apply moves (.workerTurn index 0) rfl trivial
      simp only [workerMachine, alive, found, Bool.false_eq_true, if_false, if_true]
      exact loops _ present rfl rfl rfl rfl rfl
  | waiting =>
      apply moves (.workerWake index 0) rfl (by rw [Due, awake]; exact List.not_mem_nil)
      simp only [workerMachine, alive, found, Bool.false_eq_true, if_false, if_true]
      exact loops { closing.state with activeThreads := closing.state.activeThreads + 1 } present rfl rfl rfl rfl rfl
  | running task =>
      apply moves (.taskReturns index) rfl trivial
      simp only [workerMachine, alive, found, Bool.false_eq_true, if_false]
      exact set _ (by rintro ⟨⟩)
  | leaving =>
      apply moves (.workerExit index) rfl trivial
      simp only [workerMachine, alive, found, Bool.false_eq_true, if_false, if_true]
      exact set _ (by rintro ⟨⟩)
  | exited => exact absurd rfl busy

/-- A pool at rest is freed, or the caller of `threadpool_destroy` waits forever. -/
theorem Settles.at_rest (settles : Settles closing) (called : closing.phase ≠ .uncalled)
    (rests : ¬ CanGoOn allocator closing) : closing.state.pool = none ∨ WaitsForever closing := by
  cases present : closing.state.pool with
  | none => exact .inl rfl
  | some pool =>
      right
      have still : ∀ step, Due closing step → ((closingMachine allocator).step closing step).1 = closing :=
        fun step due => by_contra fun changes => rests ⟨step, due, changes⟩
      have exited : ∀ phase ∈ closing.state.workers, phase = .exited := by
        intro phase member
        obtain ⟨index, inside, rfl⟩ := List.getElem_of_mem member
        by_contra busy
        exact rests (settles.worker_due allocator called present index _ (List.getElem?_eq_getElem inside) busy)
      obtain ⟨cells, queues, represents, -⟩ := settles.conserves.balanced pool present
      cases phase : closing.phase with
      | uncalled => exact absurd phase called
      | draining =>
          have silent : closing.signalled = false := by
            by_contra signalled
            rw [Bool.not_eq_false] at signalled
            have same := still .drainWake signalled
            simp only [closingMachine, present, phase, if_true, drainWake] at same
            split at same
            · cases (congrArg ClosingPool.signalled same).trans signalled
            · cases (congrArg ClosingPool.phase same).trans phase
          have queued := settles.drains phase silent pool present
          refine ⟨phase, exited, pool, cells, queues, present, represents, ?_, ?_⟩
          · rintro empty
            rw [← represents.card, empty] at queued
            exact Nat.lt_irrefl _ queued
          · exact settles.late (fun phase member => .inr (exited phase member)) pool present cells queues represents
      | joining index =>
          -- The next thread has exited, so the caller joins it or frees the pool.
          have same := still .join trivial
          simp only [closingMachine, present, phase] at same
          rw [joinNext] at same
          split at same
          · rename_i further
            rw [← settles.slots] at further
            have last := exited _ (List.getElem_mem further)
            rw [List.getElem?_eq_getElem further, last, if_pos rfl] at same
            have moved := (congrArg ClosingPool.phase same).trans phase
            exact absurd (DestroyPhase.joining.inj moved) (Nat.succ_ne_self index)
          · obtain ⟨failed, thrown, -⟩ := represents.destroyQueues
            rw [thrown] at same
            cases (congrArg ClosingPool.phase same).trans phase
      | destroyed => exact absurd phase (settles.alive present)

end Rests

section Ends

variable (allocator : Allocator) (config : WorkerConfig) (queues : ThreadpoolConfig) (inputs : Nat → ClosingStep)

/-- The pool after some steps of a run that never ends. -/
def closingAfter : Nat → ClosingPool := (closingMachine allocator).after (createClosing config queues) inputs

/-- As long as some thread can go on, one of the threads does, sooner or later. -/
def SomeThreadGoesOn : Prop :=
  ∀ count, CanGoOn allocator (closingAfter allocator config queues inputs count) → ∃ later ≥ count,
    closingAfter allocator config queues inputs (later + 1) ≠ closingAfter allocator config queues inputs later

theorem settles_after (count : Nat) : Settles (closingAfter allocator config queues inputs count) := by
  induction count with
  | zero => exact settles_create config queues
  | succ count ih => exact (ih.step allocator (inputs count)).1

/-- Once `threadpool_destroy` has been called, all threads come to rest. The pool has then been freed or a thread has
crashed, unless the caller waits for tasks that were added when no worker was left in its loop. -/
theorem threadpoolDestroy_ends (first : Nat)
    (called : (closingAfter allocator config queues inputs first).phase ≠ .uncalled)
    (schedule : SomeThreadGoesOn allocator config queues inputs) :
    ∃ last ≥ first, (∀ steps, closingAfter allocator config queues inputs (last + steps) =
        closingAfter allocator config queues inputs last) ∧
      ((closingAfter allocator config queues inputs last).state.pool = none ∨
        WaitsForever (closingAfter allocator config queues inputs last)) := by
  obtain ⟨last, behind, rests⟩ := (closingMachine allocator).after_rests (createClosing config queues) inputs
    ClosingPool.remaining (fun closing => Settles closing ∧ closing.phase ≠ .uncalled)
    (fun closing step holds => ⟨(holds.1.step allocator step).1, called_step allocator holds.2 step⟩)
    (fun closing step holds => holds.1.lowers allocator holds.2 step) first
    ⟨settles_after allocator config queues inputs first, called⟩
  refine ⟨last, behind, rests, ?_⟩
  have still : ¬ CanGoOn allocator (closingAfter allocator config queues inputs last) := by
    intro further
    obtain ⟨later, reached, changes⟩ := schedule last further
    obtain ⟨steps, rfl⟩ := Nat.exists_eq_add_of_le reached
    exact changes ((rests (steps + 1)).trans (rests steps).symm)
  have calling : (closingAfter allocator config queues inputs last).phase ≠ .uncalled := by
    obtain ⟨steps, rfl⟩ := Nat.exists_eq_add_of_le behind
    clear behind rests still
    induction steps with
    | zero => exact called
    | succ steps ih => exact called_step allocator ih (inputs (first + steps))
  exact (settles_after allocator config queues inputs last).at_rest allocator calling still

/-- One task is run while the caller waits for it, and then the pool is freed. -/
def sampleSchedule : List ClosingStep :=
  [.thread (.startWorker 0), .enter (.submit (.addUrgentTask ⟨some 1, none, none⟩ ⟨0, 5⟩)), .locked 0 0, .destroy true,
    .thread (.workerTurn 0 0), .drainWake, .thread (.taskReturns 0), .thread (.workerTurn 0 0),
    .thread (.workerExit 0), .join, .join]

def sampleInputs (count : Nat) : ClosingStep := sampleSchedule.getD count .join

/-- A submitter takes the mutex between the last task and the wakeup of the caller, who sleeps again. -/
example :
    let closing := ((closingMachine sampleAllocator).run (createClosing ⟨1, 1, 1⟩ ⟨0⟩)
      [.thread (.startWorker 0), .enter (.submit (.addUrgentTask ⟨some 1, none, none⟩ ⟨0, 5⟩)),
        .enter (.submit (.addUrgentTask ⟨some 1, none, none⟩ ⟨0, 6⟩)), .locked 0 0, .destroy true,
        .thread (.workerTurn 0 0), .thread (.taskReturns 0), .thread (.workerTurn 0 0), .locked 0 0, .drainWake,
        .thread (.workerExit 0)]).1
    closing.phase = .draining ∧ closing.signalled = false ∧ closing.state.workers = [.exited] ∧
      closing.state.pool.map (·.stats.queueLength) = some 1 := by
  decide +kernel

/-- Nothing happens after the pool is freed. -/
theorem sample_freed (count : Nat) (late : 11 ≤ count) :
    (closingAfter sampleAllocator ⟨1, 1, 1⟩ ⟨0⟩ sampleInputs count).state.pool = none := by
  obtain ⟨steps, rfl⟩ := Nat.exists_eq_add_of_le late
  induction steps with
  | zero =>
      have gone : (closingAfter sampleAllocator ⟨1, 1, 1⟩ ⟨0⟩ sampleInputs 11).state.pool.isNone = true := by
        decide +kernel
      exact Option.isNone_iff_eq_none.mp gone
  | succ steps ih =>
      have before := ih (Nat.le_add_right 11 steps)
      show ((closingMachine sampleAllocator).step (closingAfter sampleAllocator ⟨1, 1, 1⟩ ⟨0⟩ sampleInputs
        (11 + steps)) (sampleInputs (11 + steps))).1.state.pool = none
      simp only [closingMachine, before]

theorem sample_schedule : SomeThreadGoesOn sampleAllocator ⟨1, 1, 1⟩ ⟨0⟩ sampleInputs := by
  rintro count ⟨step, -, changes⟩
  by_cases early : count ≤ 10
  · refine ⟨10, early, fun same => ?_⟩
    have phases : (closingAfter sampleAllocator ⟨1, 1, 1⟩ ⟨0⟩ sampleInputs 11).phase ≠
        (closingAfter sampleAllocator ⟨1, 1, 1⟩ ⟨0⟩ sampleInputs 10).phase := by
      decide +kernel
    exact phases (congrArg ClosingPool.phase same)
  · have freed := sample_freed count (Nat.lt_of_not_le early)
    apply absurd _ changes
    simp only [closingMachine, freed]

theorem threadpoolDestroy_ends_sample :
    ∃ last ≥ 4, (∀ steps, closingAfter sampleAllocator ⟨1, 1, 1⟩ ⟨0⟩ sampleInputs (last + steps) =
        closingAfter sampleAllocator ⟨1, 1, 1⟩ ⟨0⟩ sampleInputs last) ∧
      ((closingAfter sampleAllocator ⟨1, 1, 1⟩ ⟨0⟩ sampleInputs last).state.pool = none ∨
        WaitsForever (closingAfter sampleAllocator ⟨1, 1, 1⟩ ⟨0⟩ sampleInputs last)) :=
  threadpoolDestroy_ends sampleAllocator ⟨1, 1, 1⟩ ⟨0⟩ sampleInputs 4 (by decide +kernel) sample_schedule

end Ends

end SecureChat.ThreadPool
