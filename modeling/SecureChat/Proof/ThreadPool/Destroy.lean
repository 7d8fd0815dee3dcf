import SecureChat.Construction.WorkerThreads
import SecureChat.Proof.ThreadPool.Barrier

namespace SecureChat.ThreadPool
open Library

section Queued

variable {pool : Threadpool} {cells : QueueClass → List Nat} {queues : QueueClass → List ThreadpoolTask}

/-- The length of the queue counts the waiting tasks. -/
theorem Represents.card (represents : Represents pool cells queues) :
    (waiting queues).card = pool.stats.queueLength := by
  have long (queue : QueueClass) : (queues queue).length = (cells queue).length := by
    rw [← represents.holds]
    exact (represents.linked.chain queue).contents_length
  rw [represents.length, waiting, total, ← long, ← long, ← long]
  simp only [Multiset.card_add, Multiset.coe_card, Nat.add_assoc]

/-- The heap and the heads tell which tasks wait. -/
theorem Represents.waiting_unique {others : QueueClass → List Nat} {again : QueueClass → List ThreadpoolTask}
    (represents : Represents pool cells queues) (other : Represents pool others again) :
    waiting again = waiting queues := by
  have same (queue : QueueClass) : cells queue = others queue :=
    (represents.linked.chain queue).unique (other.linked.chain queue)
  simp only [waiting, ← represents.holds, ← other.holds, same]

/-- Queues without a head hold no task. -/
theorem Represents.waiting_idle (represents : Represents pool cells queues) (idle : queuesEmpty pool = true) :
    waiting queues = 0 := by
  simp only [queuesEmpty, Bool.and_eq_true, Option.isNone_iff_eq_none] at idle
  have high := (represents.head_none .high idle.1.1).2
  have normal := (represents.head_none .normal idle.1.2).2
  have low := (represents.head_none .low idle.2).2
  simp [waiting, high, normal, low]

variable (allocator : Allocator)

/-- What a call of a submitter does behind the mutex, if no pointer is null. -/
structure Queued (pool next : Threadpool) (queues after : QueueClass → List ThreadpoolTask) (event : PoolEvent) :
    Prop where
  grown : waiting after = waiting queues + submittedTask event
  state : next.state = pool.state
  completed : next.stats.totalTasksCompleted = pool.stats.totalTasksCompleted
  numbers : Numbers pool (some next, event)

/-- Linking a task leaves the statistics alone. -/
theorem linkTask_stats (queue : QueueClass) (address : Nat) (next : Threadpool)
    (linked : linkTask pool queue address = some next) : next.stats = pool.stats := by
  rw [linkTask] at linked
  split at linked
  · cases linked
    exact setQueueHead_stats pool (some address) queue
  · split at linked
    · cases linked
    · obtain ⟨cell, -, rfl⟩ := Option.map_eq_some_iff.mp linked
      rfl

theorem Queued.refused (next : Threadpool) (error : ThreadpoolError) (stats : next.stats = pool.stats)
    (state : next.state = pool.state) (counter : pool.taskCounter ≤ next.taskCounter) :
    Queued pool next queues queues (.refused error) :=
  ⟨(add_zero _).symm, state, by rw [stats], Numbers.refused next error counter⟩

theorem addTaskLocked_cases (represents : Represents pool cells queues) (request : TaskRequest)
    (priority : TaskPriority) (timeoutMs : Nat) (context : CallContext) :
    addTaskLocked allocator pool request priority timeoutMs context = (none, .crashed) ∨
      ∃ next event moved after, addTaskLocked allocator pool request priority timeoutMs context = (some next, event) ∧
        Represents next moved after ∧ Queued pool next queues after event := by
  unfold addTaskLocked createTask
  split
  · exact .inr ⟨pool, _, cells, queues, rfl, represents, .refused pool _ rfl rfl le_rfl⟩
  · cases allocated : allocator.malloc context.seed pool.heap with
    | none => exact .inr ⟨_, _, cells, queues, rfl, represents.nextTaskId, .refused _ _ rfl rfl (Nat.le_succ _)⟩
    | some address =>
        obtain ⟨stored, cell⟩ := represents.store address (allocator.fresh _ _ _ allocated)
          (newTask request priority timeoutMs pool.taskCounter context.now) none
        dsimp only [Option.map_some]
        rcases linkTask_cases stored priority.queueClass address _ cell with
          ⟨crashed, -, -⟩ | ⟨next, target, moved, linked, after, -⟩
        · rw [crashed]
          exact .inl rfl
        · rw [linked]
          obtain ⟨counter, state⟩ := linkTask_frame _ _ next linked
          have stats := linkTask_stats _ _ next linked
          refine .inr ⟨countSubmitted next, _, moved, _, rfl, after, ?_, state, ?_, ?_⟩
          · exact waiting_insert queues target _ _ rfl
          · change next.stats.totalTasksCompleted = pool.stats.totalTasksCompleted
            rw [stats]
            rfl
          · exact Numbers.added _ _ _ rfl rfl counter

theorem addUrgentTaskLocked_cases (represents : Represents pool cells queues) (request : TaskRequest)
    (context : CallContext) :
    ∃ next event moved after, addUrgentTaskLocked allocator pool request context = (some next, event) ∧
      Represents next moved after ∧ Queued pool next queues after event := by
  unfold addUrgentTaskLocked createTask
  cases allocated : allocator.malloc context.seed pool.heap with
  | none => exact ⟨_, _, cells, queues, rfl, represents.nextTaskId, .refused _ _ rfl rfl (Nat.le_succ _)⟩
  | some address =>
      obtain ⟨stored, cell⟩ := represents.store address (allocator.fresh _ _ _ allocated)
        (newTask request .critical 0 pool.taskCounter context.now) pool.taskQueueHigh
      obtain ⟨moved, pushed⟩ := stored.push address _ cell
      refine ⟨_, _, moved, _, rfl, pushed, ?_, rfl, rfl, Numbers.added _ _ _ rfl rfl rfl⟩
      apply waiting_insert queues .high _ _
      rw [← Multiset.cons_coe, ← Multiset.singleton_add, add_comm]

/-- A submission that has the mutex uses a null pointer, or it adds its task to the waiting ones. -/
theorem submitLocked_cases (represents : Represents pool cells queues) (submission : Submission) :
    submitLocked allocator pool submission = (none, .crashed) ∨
      ∃ next event moved after, submitLocked allocator pool submission = (some next, event) ∧
        Represents next moved after ∧ Queued pool next queues after event := by
  cases submission with
  | addTask request priority timeoutMs context =>
      exact addTaskLocked_cases allocator represents request priority timeoutMs context
  | addUrgentTask request context => exact .inr (addUrgentTaskLocked_cases allocator represents request context)

end Queued

section Cleared

variable {pool : Threadpool} {cells : QueueClass → List Nat}

/-- The loop over one queue ends behind its last task. It has thrown away the tasks of this queue only. -/
theorem destroyQueue_spec (queue : QueueClass) (fuel : Nat)
    (table : ChainTable pool.heap pool.queueHead cells) (enough : (cells queue).length < fuel) :
    ∃ next, destroyQueue queue fuel pool = some (next, contents pool.heap (cells queue)) ∧
      ChainTable next.heap next.queueHead (Function.update cells queue []) ∧
      ∀ other, other ≠ queue → contents next.heap (cells other) = contents pool.heap (cells other) := by
  induction fuel generalizing pool cells with
  | zero => exact absurd enough (Nat.not_lt_zero _)
  | succ fuel ih =>
      have chain := table.chain queue
      cases front : pool.queueHead queue with
      | none =>
          rw [front] at chain
          refine ⟨pool, ?_, ?_, fun _ _ => rfl⟩
          · rw [destroyQueue, front, chain.eq_nil]
            rfl
          · rw [← chain.eq_nil, Function.update_eq_self]
            exact table
      | some address =>
          rw [front] at chain
          obtain ⟨cell, rest, split, stored, -⟩ := chain.uncons
          have apart := table.distinct queue
          rw [split, List.nodup_cons] at apart
          have removed := table.removeHead queue address cell rest split stored
          -- The round leaves a pool whose queue starts behind the task.
          have head : (destroyTask (pool.setQueueHead cell.next queue) address).queueHead =
              Function.update pool.queueHead queue cell.next := by
            funext other
            cases queue <;> cases other <;> rfl
          have heap : (destroyTask (pool.setQueueHead cell.next queue) address).heap =
              Function.update pool.heap address none := by
            cases queue <;> rfl
          rw [← head, ← heap] at removed
          obtain ⟨next, ended, after, kept⟩ := ih removed (by
            rw [Function.update_self]
            rw [split, List.length_cons] at enough
            exact Nat.lt_of_succ_lt_succ enough)
          rw [Function.update_self, heap, contents_update _ _ _ _ apart.1] at ended
          refine ⟨next, ?_, ?_, fun other different => ?_⟩
          · rw [destroyQueue, front]
            dsimp only
            rw [stored]
            dsimp only
            rw [ended, split, contents_cons _ _ _ _ stored]
            rfl
          · rwa [Function.update_idem] at after
          · have same := kept other different
            rw [Function.update_of_ne different, heap, contents_update] at same
            · exact same
            · apply table.elsewhere different
              rw [split]
              exact List.mem_cons_self

/-- The last loops throw away exactly the waiting tasks. -/
theorem Represents.destroyQueues {queues : QueueClass → List ThreadpoolTask}
    (represents : Represents pool cells queues) :
    ∃ failed, ThreadPool.destroyQueues pool = some failed ∧ (failed : Multiset ThreadpoolTask) = waiting queues := by
  have long : ∀ queue, (cells queue).length < pool.stats.queueLength + 1 := by
    intro queue
    have counted := represents.length
    rw [total] at counted
    cases queue <;> omega
  obtain ⟨first, high, table, kept⟩ := destroyQueue_spec .high _ represents.linked.table (long .high)
  obtain ⟨second, normal, further, same⟩ := destroyQueue_spec .normal _ table (long .normal)
  obtain ⟨third, low, -, -⟩ := destroyQueue_spec .low _ further (long .low)
  refine ⟨contents pool.heap (cells .high) ++ contents pool.heap (cells .normal) ++
    contents pool.heap (cells .low), ?_, ?_⟩
  · have last := same .low (by simp)
    simp only [Function.update_of_ne, ne_eq, reduceCtorEq, not_false_eq_true] at normal low last
    rw [kept .normal (by simp)] at normal
    rw [last, kept .low (by simp)] at low
    simp only [ThreadPool.destroyQueues, high, normal, low, Option.bind_eq_bind, Option.bind_some]
  · rw [← represents.holds, waiting, ← Multiset.coe_add, ← Multiset.coe_add]

end Cleared

section Threads

variable {state next : WorkerPool} {pool : Threadpool} {cells : QueueClass → List Nat}
  {queues : QueueClass → List ThreadpoolTask}

/-- The condition of the loop is tested by workers that are ready or have waited. -/
def WorkerPhase.atLoop : WorkerPhase → Bool
  | .ready => true
  | .waiting => true
  | _ => false

/-- A worker goes on without taking a task. -/
inductive Passes (pool : Threadpool) (requested : Bool) : WorkerPhase → WorkerPhase → Prop
  | start : Passes pool requested .unstarted .ready
  | finish (task : ThreadpoolTask) : Passes pool requested (.running task) .ready
  | sleep {old : WorkerPhase} (turn : old.atLoop = true) (calm : requested = false) : Passes pool requested old .waiting
  | leave {old : WorkerPhase} (turn : old.atLoop = true) (idle : queuesEmpty pool = true) :
      Passes pool requested old .leaving
  | exit : Passes pool requested .leaving .exited

/-- One worker changes its phase. -/
structure Goes (state next : WorkerPool) (index : Nat) (old new : WorkerPhase) : Prop where
  found : state.workers[index]? = some old
  workers : next.workers = state.workers.set index new
  threadCount : next.threadCount = state.threadCount
  requested : next.shutdownRequested = state.shutdownRequested
  waiters : next.waiters = state.waiters

/-- What one step of the workers and of the callers of `threadpool_wait` can do,
with the workers that come to the condition of their loop in this step. -/
inductive OwnStep (state : WorkerPool) (pool : Threadpool) : WorkerPool → List Nat → Prop
  | stays : OwnStep state pool state []
  | waits (call : WaitCall) (runs : pool.state = .running) :
      OwnStep state pool { state with waiters := state.waiters ++ [call] } []
  | returns (index : Nat) (inside : index < state.waiters.length) :
      OwnStep state pool { state with waiters := state.waiters.eraseIdx index } []
  | passes {next : WorkerPool} (index : Nat) (old new : WorkerPhase) (goes : Goes state next index old new)
      (same : next.pool = some pool) (how : Passes pool state.shutdownRequested old new) :
      OwnStep state pool next (if old.atLoop then [index] else [])
  | takes {next : WorkerPool} (index : Nat) (old : WorkerPhase) (task : ThreadpoolTask) (now : Nat)
      (taken : Threadpool) (goes : Goes state next index old (.running task)) (turn : old.atLoop = true)
      (result : getNextTask pool now = (some taken, .returned (some task))) (same : next.pool = some taken) :
      OwnStep state pool next [index]

/-- Queues with a head have a next task. -/
theorem Represents.takeNext_some (represents : Represents pool cells queues) (busy : queuesEmpty pool = false) :
    ∃ task, (takeNext queues).1 = some task := by
  cases first : (takeNext queues).1 with
  | some task => exact ⟨task, rfl⟩
  | none =>
      have empty (queue : QueueClass) : queues queue = [] := by
        unfold takeNext at first
        split at first <;> cases first
        rename_i high normal low
        cases queue <;> assumption
      have headless (queue : QueueClass) : pool.queueHead queue = none := by
        by_contra occupied
        obtain ⟨address, front⟩ := Option.ne_none_iff_exists'.mp occupied
        obtain ⟨cell, rest, -, -, -, starts⟩ := represents.head_some queue address front
        cases (empty queue).symm.trans starts
      have high := headless .high
      have normal := headless .normal
      have low := headless .low
      simp only [Threadpool.queueHead] at high normal low
      simp [queuesEmpty, high, normal, low] at busy

/-- A worker at the condition of its loop takes a task, falls asleep or leaves. -/
theorem ownStep_workerLoop (represents : Represents pool cells queues) (index now : Nat) (old : WorkerPhase)
    (found : state.workers[index]? = some old) (turn : old.atLoop = true) (begin : WorkerPool)
    (present : begin.pool = some pool) (workers : begin.workers = state.workers)
    (threadCount : begin.threadCount = state.threadCount)
    (requested : begin.shutdownRequested = state.shutdownRequested) (waiters : begin.waiters = state.waiters) :
    OwnStep state pool (workerLoop begin index now) [index] := by
  have goes (new : WorkerPhase) (next : WorkerPool) (set : next.workers = begin.workers.set index new)
      (count : next.threadCount = begin.threadCount) (calm : next.shutdownRequested = begin.shutdownRequested)
      (callers : next.waiters = begin.waiters) : Goes state next index old new :=
    ⟨found, by rw [set, workers], count.trans threadCount, calm.trans requested, callers.trans waiters⟩
  have passes (new : WorkerPhase) (next : WorkerPool) (goes : Goes state next index old new)
      (same : next.pool = some pool) (how : Passes pool state.shutdownRequested old new) :
      OwnStep state pool next [index] := by
    have step := OwnStep.passes index old new goes same how
    rwa [if_pos turn] at step
  simp only [workerLoop, present]
  cases empty : queuesEmpty pool with
  | true =>
      rw [if_pos rfl]
      cases calm : begin.shutdownRequested with
      | true =>
          rw [if_pos rfl]
          exact passes .leaving _ (goes .leaving _ rfl rfl rfl rfl) present (.leave turn empty)
      | false =>
          rw [if_neg (by simp)]
          exact passes .waiting _ (goes .waiting _ rfl rfl rfl rfl) present
            (.sleep turn (requested.symm.trans calm))
  | false =>
      rw [if_neg (by simp)]
      obtain ⟨task, first⟩ := represents.takeNext_some empty
      obtain ⟨taken, moved, result, -⟩ := getNextTask_cases represents now
      rw [first] at result
      rw [result]
      exact .takes index old task now taken (goes (.running task) _ rfl rfl rfl rfl) turn result rfl

theorem ownStep (allocator : Allocator) (present : state.pool = some pool)
    (represents : Represents pool cells queues) (step : WorkerStep) (own : step.own = true) :
    OwnStep state pool ((workerMachine allocator).step state step).1 (rechecks state step) := by
  have alive : state.pool.isNone = false := by
    rw [present]
    rfl
  simp only [workerMachine, alive, Bool.false_eq_true, if_false]
  cases step with
  | startWorker index =>
      dsimp only [rechecks]
      split
      · rename_i found
        exact .passes index .unstarted .ready ⟨found, rfl, rfl, rfl, rfl⟩ present .start
      · exact .stays
  | workerTurn index now =>
      dsimp only [rechecks]
      split
      · rename_i found
        exact ownStep_workerLoop represents index now .ready found rfl state present rfl rfl rfl rfl
      · exact .stays
  | workerWake index now =>
      dsimp only [rechecks]
      split
      · rename_i found
        exact ownStep_workerLoop represents index now .waiting found rfl
          { state with activeThreads := state.activeThreads + 1 } present rfl rfl rfl rfl
      · exact .stays
  | taskReturns index =>
      dsimp only [rechecks]
      split
      · rename_i task found
        exact .passes index (.running task) .ready ⟨found, rfl, rfl, rfl, rfl⟩ present (.finish task)
      · exact .stays
  | workerExit index =>
      dsimp only [rechecks]
      split
      · rename_i found
        exact .passes index .leaving .exited ⟨found, rfl, rfl, rfl, rfl⟩ present .exit
      · exact .stays
  | wait timeoutMs =>
      dsimp only [rechecks, threadpoolWait]
      split
      · exact .stays
      · rename_i found held
        split
        · exact .stays
        · rename_i runs
          split
          · obtain rfl := Option.some.inj (present.symm.trans held)
            exact .waits _ (Decidable.not_not.mp runs)
          · exact .stays
  | waitWake index =>
      dsimp only [rechecks, waitWake]
      split
      · rename_i found call held caller
        split
        · exact .stays
        · exact .returns index (List.getElem?_eq_some_iff.mp caller).1
      · exact .stays
  | waitTimeout index =>
      dsimp only [rechecks]
      simp only [waitTimeout]
      split
      · rename_i call found
        split
        · exact .stays
        · exact .returns index (List.getElem?_eq_some_iff.mp found).1
      · exact .stays
  | submit submission => cases own
  | requestShutdown => cases own
  | resize numThreads created => cases own

/-- Taking a task shortens the queues by this task. -/
theorem Represents.taken (represents : Represents pool cells queues) (now : Nat) (taken : Threadpool)
    (task : ThreadpoolTask) (result : getNextTask pool now = (some taken, .returned (some task))) :
    (∃ moved after, Represents taken moved after ∧ waiting queues = {task} + waiting after) ∧
      taken.stats.queueLength + 1 = pool.stats.queueLength ∧
      taken.stats.totalTasksCompleted = pool.stats.totalTasksCompleted + 1 ∧ taken.state = pool.state := by
  obtain ⟨other, moved, again, kept⟩ := getNextTask_cases represents now
  obtain ⟨sameNext, sameTask⟩ := Prod.mk.inj (result.symm.trans again)
  obtain rfl := Option.some.inj sameNext
  have split := waiting_takeNext queues
  rw [← PoolEvent.returned.inj sameTask] at split
  refine ⟨⟨moved, _, kept, split⟩, ?_, ?_, (getNextTask_frame now taken (congrArg Prod.fst result)).2⟩
  · have counted := congrArg Multiset.card split
    rw [Multiset.card_add, represents.card, kept.card] at counted
    rw [counted, Nat.add_comm]
    rfl
  · rw [getNextTask] at result
    split at result
    · cases result
    · rename_i queue address front
      split at result
      · cases result
      · cases result
        cases queue <;> rfl

end Threads

section Closing

variable {closing : ClosingPool} (allocator : Allocator)

/-- The tasks in the queues that no worker will take were added when no worker was left in its loop. -/
def OnlyLate (state : WorkerPool) (late : List ThreadpoolTask) : Prop :=
  state.Gone → ∀ pool, state.pool = some pool → ∀ cells queues, Represents pool cells queues →
    ∀ task ∈ waiting queues, task ∈ late

/-- What holds after every step, whatever order the threads take their steps in. -/
structure Settles (closing : ClosingPool) : Prop where
  conserves : Conserves closing.state
  slots : closing.state.workers.length = closing.state.threadCount.toNat
  late : OnlyLate closing.state closing.late
  joined : ∀ index, closing.phase = .joining index → ∀ earlier < index, closing.state.workers[earlier]? = some .exited
  running : closing.phase = .uncalled → ∀ pool, closing.state.pool = some pool → pool.state = .running
  stopping : closing.phase ≠ .uncalled → closing.state.shutdownRequested = true ∧ closing.asleep = [] ∧
    ∀ pool, closing.state.pool = some pool → pool.state = .stopping
  drains : closing.phase = .draining → closing.signalled = false →
    ∀ pool, closing.state.pool = some pool → 0 < pool.stats.queueLength
  freed : closing.phase = .destroyed → closing.state.pool = none

theorem settles_create (config : WorkerConfig) (queues : ThreadpoolConfig) : Settles (createClosing config queues) where
  conserves := conserves_create config queues
  slots := List.length_replicate
  late := by
    rintro - pool present cells held represents task member
    obtain rfl := Option.some.inj present
    rw [(represents_create queues).waiting_unique represents] at member
    cases member
  joined := by rintro index ⟨⟩
  running := by
    rintro - pool present
    obtain rfl := Option.some.inj present
    rfl
  stopping := fun called => absurd rfl called
  drains := by rintro ⟨⟩
  freed := by rintro ⟨⟩

/-- If no worker is left in its loop after one of them has changed its phase, this one has left it,
and there was none before if this one was already on its way out. -/
theorem Goes.gone {state next : WorkerPool} {index : Nat} {old new : WorkerPhase} (goes : Goes state next index old new)
    (gone : next.Gone) : (new = .leaving ∨ new = .exited) ∧ (old = .leaving → state.Gone) := by
  rw [WorkerPool.Gone, goes.workers] at gone
  obtain ⟨inside, found⟩ := List.getElem?_eq_some_iff.mp goes.found
  refine ⟨gone new (List.mem_set inside new), ?_⟩
  rintro rfl phase member
  have moved := (set_perm state.workers index .leaving new goes.found).mem_iff.mpr (List.mem_cons_of_mem _ member)
  rcases List.mem_cons.mp moved with rfl | after
  · exact .inl rfl
  · exact gone phase after

/-- No worker comes back after the queues were found empty. -/
theorem OnlyLate.ownStep {state next : WorkerPool} {pool : Threadpool} {checked : List Nat}
    {late : List ThreadpoolTask} (only : OnlyLate state late) (present : state.pool = some pool)
    (step : OwnStep state pool next checked) : OnlyLate next late := by
  cases step with
  | stays => exact only
  | waits call runs => exact only
  | returns index inside => exact only
  | passes index old new goes same how =>
      intro gone found held cells queues represents task member
      obtain rfl := Option.some.inj (same.symm.trans held)
      obtain ⟨out, before⟩ := goes.gone gone
      cases how with
      | start => simp at out
      | finish task => simp at out
      | sleep turn calm => simp at out
      | leave turn idle =>
          rw [represents.waiting_idle idle] at member
          exact absurd member (Multiset.notMem_zero task)
      | exit => exact only (before rfl) pool present cells queues represents task member
  | takes index old task now taken goes turn result same =>
      intro gone
      simpa using (goes.gone gone).1

/-- Exited workers stay exited. -/
theorem OwnStep.exited {state next : WorkerPool} {pool : Threadpool} {checked : List Nat}
    (step : OwnStep state pool next checked) (index : Nat) (exited : state.workers[index]? = some .exited) :
    next.workers[index]? = some .exited := by
  have other : ∀ changed old new, Goes state next changed old new → old ≠ .exited →
      next.workers[index]? = some .exited := by
    intro changed old new goes different
    rw [goes.workers, List.getElem?_set_ne]
    · exact exited
    · rintro rfl
      exact different (Option.some.inj (goes.found.symm.trans exited))
  cases step with
  | stays => exact exited
  | waits call runs => exact exited
  | returns index inside => exact exited
  | passes changed old new goes same how =>
      refine other _ _ _ goes ?_
      rintro rfl
      cases how with
      | sleep turn calm => cases turn
      | leave turn idle => cases turn
  | takes changed old task now taken goes turn result same =>
      refine other _ _ _ goes ?_
      rintro rfl
      cases turn

/-- A step keeps one slot for each thread. -/
theorem OwnStep.slots {state next : WorkerPool} {pool : Threadpool} {checked : List Nat}
    (step : OwnStep state pool next checked) (slots : state.workers.length = state.threadCount.toNat) :
    next.workers.length = next.threadCount.toNat := by
  cases step with
  | stays => exact slots
  | waits call runs => exact slots
  | returns index inside => exact slots
  | passes index old new goes same how => rw [goes.workers, List.length_set, goes.threadCount, slots]
  | takes index old task now taken goes turn result same =>
      rw [goes.workers, List.length_set, goes.threadCount, slots]

theorem OwnStep.requested {state next : WorkerPool} {pool : Threadpool} {checked : List Nat}
    (step : OwnStep state pool next checked) : next.shutdownRequested = state.shutdownRequested := by
  cases step with
  | stays => rfl
  | waits call runs => rfl
  | returns index inside => rfl
  | passes index old new goes same how => exact goes.requested
  | takes index old task now taken goes turn result same => exact goes.requested

/-- What a step does to the statistics. The last task that leaves a pool that stops is announced. -/
theorem OwnStep.statistics {state next : WorkerPool} {pool after : Threadpool} {checked : List Nat}
    {cells : QueueClass → List Nat} {queues : QueueClass → List ThreadpoolTask}
    (step : OwnStep state pool next checked) (present : state.pool = some pool)
    (represents : Represents pool cells queues) (held : next.pool = some after) :
    after.state = pool.state ∧ (pool.state = .stopping → 0 < pool.stats.queueLength →
      announces (some pool) (some after) = false → 0 < after.stats.queueLength) := by
  cases step with
  | stays =>
      obtain rfl := Option.some.inj (present.symm.trans held)
      exact ⟨rfl, fun _ some _ => some⟩
  | waits call runs =>
      obtain rfl := Option.some.inj (present.symm.trans held)
      exact ⟨rfl, fun _ some _ => some⟩
  | returns index inside =>
      obtain rfl := Option.some.inj (present.symm.trans held)
      exact ⟨rfl, fun _ some _ => some⟩
  | passes index old new goes same how =>
      obtain rfl := Option.some.inj (same.symm.trans held)
      exact ⟨rfl, fun _ some _ => some⟩
  | takes index old task now taken goes turn result same =>
      obtain rfl := Option.some.inj (same.symm.trans held)
      obtain ⟨-, -, completed, kept⟩ := represents.taken now taken task result
      refine ⟨kept, fun stops _ silent => Nat.pos_of_ne_zero fun last => ?_⟩
      simp [announces, completed, last, kept, stops] at silent

/-- No worker falls asleep after the shutdown. -/
theorem OwnStep.awake {state next : WorkerPool} {pool : Threadpool} {checked : List Nat}
    (step : OwnStep state pool next checked) (requested : state.shutdownRequested = true) :
    checked.filter (next.workers[·]? = some .waiting) = [] := by
  rw [List.filter_eq_nil_iff]
  cases step with
  | stays => exact fun _ member => absurd member List.not_mem_nil
  | waits call runs => exact fun _ member => absurd member List.not_mem_nil
  | returns index inside => exact fun _ member => absurd member List.not_mem_nil
  | passes index old new goes same how =>
      intro other member asleep
      have inside := (List.getElem?_eq_some_iff.mp goes.found).1
      cases turn : old.atLoop with
      | false => simp [turn] at member
      | true =>
          rw [turn, if_pos rfl, List.mem_singleton] at member
          subst member
          rw [goes.workers, List.getElem?_set_self inside, decide_eq_true_eq] at asleep
          obtain rfl := Option.some.inj asleep
          cases how with
          | sleep turn calm => cases calm.symm.trans requested
  | takes index old task now taken goes turn result same =>
      intro other member asleep
      have inside := (List.getElem?_eq_some_iff.mp goes.found).1
      obtain rfl := List.mem_singleton.mp member
      rw [goes.workers, List.getElem?_set_self inside, decide_eq_true_eq] at asleep
      cases asleep

/-- The account stays exact when a submitter adds its task behind the mutex. -/
theorem Conserves.queued {state : WorkerPool} (conserves : Conserves state) {pool next : Threadpool}
    (present : state.pool = some pool) {cells moved : QueueClass → List Nat}
    {queues after : QueueClass → List ThreadpoolTask} (represents : Represents pool cells queues)
    (kept : Represents next moved after) (event : PoolEvent) (queued : Queued pool next queues after event) :
    Conserves { state with pool := some next, submitted := state.submitted ++ submittedTask event } := by
  obtain ⟨others, again, other, balance⟩ := conserves.balanced pool present
  obtain ⟨advances, number⟩ := queued.numbers next rfl
  have older := conserves.numbered pool present
  constructor
  · intro found same
    obtain rfl := Option.some.inj same
    refine ⟨moved, after, kept, ?_⟩
    dsimp only
    rw [queued.grown, ← Multiset.coe_add, balance, represents.waiting_unique other, add_assoc]
  · intro found same task member
    obtain rfl := Option.some.inj same
    rcases List.mem_append.mp member with old | new
    · exact Nat.lt_of_lt_of_le (older task old) advances
    · rw [(number task new).1]
      exact (number task new).2
  · rw [List.nodup_append]
    refine ⟨conserves.distinct, ?_, ?_⟩
    · cases event <;> simp [submittedTask]
    · rintro first old second new rfl
      have lower := older first old
      rw [(number first new).1] at lower
      exact Nat.lt_irrefl _ lower
  · intro call member
    exact List.subset_append_of_subset_left _ (conserves.earlier call member)

section Steps

variable (settles : Settles closing) {pool : Threadpool} (present : closing.state.pool = some pool)

include settles present

theorem Settles.alive : closing.phase ≠ .destroyed := by
  intro destroyed
  cases present.symm.trans (settles.freed destroyed)

theorem Settles.thread (step : WorkerStep) : Settles (threadStep allocator closing step) := by
  rw [threadStep]
  split
  · rename_i own
    obtain ⟨cells, queues, represents, -⟩ := settles.conserves.balanced pool present
    have moves := ownStep allocator present represents step own
    refine ⟨settles.conserves.step allocator step, moves.slots settles.slots, settles.late.ownStep present moves,
      ?_, ?_, ?_, ?_, fun destroyed => absurd destroyed (settles.alive present)⟩
    · intro index joining earlier before
      exact moves.exited earlier (settles.joined index joining earlier before)
    · intro uncalled after held
      rw [(moves.statistics present represents held).1]
      exact settles.running uncalled pool present
    · intro called
      obtain ⟨requested, awake, stops⟩ := settles.stopping called
      refine ⟨moves.requested.trans requested, ?_, ?_⟩
      · dsimp only
        rw [awake, moves.awake requested]
        rfl
      · intro after held
        rw [(moves.statistics present represents held).1]
        exact stops pool present
    · intro draining silent after held
      obtain ⟨before, quiet⟩ := Bool.or_eq_false_iff.mp silent
      have stops := (settles.stopping (by rw [draining]; rintro ⟨⟩)).2.2 pool present
      rw [present, held] at quiet
      exact (moves.statistics present represents held).2 stops (settles.drains draining before pool present) quiet
  · exact settles

/-- A step that neither moves a worker nor a task. -/
theorem Settles.calls (calls : List PoolCall) : Settles { closing with calls := calls } :=
  ⟨settles.conserves, settles.slots, settles.late, settles.joined, settles.running, settles.stopping, settles.drains,
    settles.freed⟩

/-- A call of a submitter that has the mutex. -/
theorem Settles.submitted (woken : Nat) (submission : Submission) :
    Settles (lockedCall allocator closing pool woken (.submit submission)) := by
  obtain ⟨cells, queues, represents, -⟩ := settles.conserves.balanced pool present
  dsimp only [lockedCall]
  rcases submitLocked_cases allocator represents submission with
    crashed | ⟨next, event, moved, after, added, kept, queued⟩
  · rw [crashed]
    refine ⟨⟨by rintro _ ⟨⟩, by rintro _ ⟨⟩, ?_, ?_⟩, settles.slots, by rintro _ _ ⟨⟩, settles.joined, by rintro _ _ ⟨⟩,
      fun called => ?_, by rintro _ _ _ ⟨⟩, fun _ => rfl⟩
    · simpa [submittedTask] using settles.conserves.distinct
    · simpa [submittedTask] using settles.conserves.earlier
    · obtain ⟨requested, awake, -⟩ := settles.stopping called
      exact ⟨requested, awake, by rintro _ ⟨⟩⟩
  · rw [added]
    refine ⟨settles.conserves.queued present represents kept event queued, settles.slots, ?_, settles.joined, ?_, ?_,
      ?_, fun destroyed => absurd destroyed (settles.alive present)⟩
    · intro gone found held others again other task member
      obtain rfl := Option.some.inj held
      change closing.state.Gone at gone
      rw [kept.waiting_unique other, queued.grown, Multiset.mem_add] at member
      rw [if_pos gone]
      rcases member with old | new
      · exact List.mem_append_left _ (settles.late gone pool present cells queues represents task old)
      · exact List.mem_append_right _ new
    · rintro uncalled found held
      obtain rfl := Option.some.inj held
      rw [queued.state]
      exact settles.running uncalled pool present
    · intro called
      obtain ⟨requested, awake, stops⟩ := settles.stopping called
      refine ⟨requested, ?_, ?_⟩
      · dsimp only
        rw [awake]
        split <;> rfl
      · rintro found held
        obtain rfl := Option.some.inj held
        rw [queued.state]
        exact stops pool present
    · intro draining silent found held
      obtain rfl := Option.some.inj held
      have longer := congrArg Multiset.card queued.grown
      rw [Multiset.card_add, kept.card, represents.card] at longer
      exact longer ▸ Nat.lt_add_right _ (settles.drains draining silent pool present)

/-- A call of `threadpool_resize` that has the mutex. -/
theorem Settles.resized (woken : Nat) (numThreads : UInt32) (created : Nat) :
    Settles (lockedCall allocator closing pool woken (.resize numThreads created)) := by
  have stopping : closing.phase ≠ .uncalled → closing.state.shutdownRequested = true ∧
      (if numThreads < closing.state.threadCount then [] else closing.asleep) = [] ∧
      ∀ pool, closing.state.pool = some pool → pool.state = .stopping := by
    intro called
    obtain ⟨requested, awake, stops⟩ := settles.stopping called
    exact ⟨requested, by rw [awake, ite_self], stops⟩
  dsimp only [lockedCall, resizeLocked]
  split
  · exact ⟨settles.conserves, settles.slots, settles.late, settles.joined, settles.running, stopping, settles.drains,
      settles.freed⟩
  · split
    · rename_i grows
      generalize started : min created (numThreads - closing.state.threadCount).toNat = count
      refine ⟨?_, ?_, ?_, ?_, settles.running, stopping, settles.drains, settles.freed⟩
      · refine settles.conserves.moves pool present _ pool present rfl rfl settles.conserves.earlier ?_
        intro cells queues represents
        have none : (List.replicate count WorkerPhase.ready).filterMap runningTask = [] := by
          rw [List.filterMap_eq_nil_iff]
          exact fun phase member => List.eq_of_mem_replicate member ▸ rfl
        exact ⟨cells, queues, represents, by rw [List.filterMap_append, none, List.append_nil]⟩
      · have bound := numThreads.toNat_lt
        have room : (numThreads - closing.state.threadCount).toNat =
            numThreads.toNat - closing.state.threadCount.toNat := UInt32.toNat_sub_of_le _ _ (UInt32.le_of_lt grows)
        have slots := settles.slots
        rw [UInt32.lt_iff_toNat_lt] at grows
        simp only [List.length_append, List.length_replicate, UInt32.toNat_add, UInt32.toNat_ofNat']
        omega
      · exact fun gone => settles.late fun phase member => gone phase (List.mem_append_left _ member)
      · intro index joining earlier before
        exact (List.getElem?_append_left (List.getElem?_eq_some_iff.mp
          (settles.joined index joining earlier before)).1).trans (settles.joined index joining earlier before)
    · exact ⟨⟨settles.conserves.balanced, settles.conserves.numbered, settles.conserves.distinct,
        settles.conserves.earlier⟩, settles.slots, settles.late, settles.joined, settles.running, stopping,
        settles.drains, settles.freed⟩

/-- The begin of `threadpool_destroy` wakes up all workers. -/
theorem Settles.begin (wait : Bool) (uncalled : closing.phase = .uncalled) :
    Settles (beginDestroy closing pool wait) := by
  have runs := settles.running uncalled pool present
  have requested : requestShutdown closing.state =
      { closing.state with shutdownRequested := true, pool := some { pool with state := .stopping } } := by
    rw [requestShutdown, present]
    dsimp only
    rw [if_neg (by rw [runs]; rintro (⟨⟨⟩⟩ | ⟨⟨⟩⟩))]
  have conserves := settles.conserves.requestShutdown
  rw [beginDestroy, if_neg (by rw [runs]; rintro (⟨⟨⟩⟩ | ⟨⟨⟩⟩))]
  rw [requested] at conserves ⊢
  have phase :
      (if wait = true ∧ 0 < pool.stats.queueLength then DestroyPhase.draining else .joining 0) ≠ .uncalled := by
    split <;> rintro ⟨⟩
  refine ⟨conserves, settles.slots, ?_, ?_, fun uncalled => absurd uncalled phase, fun _ => ⟨rfl, rfl, ?_⟩, ?_, ?_⟩
  · intro gone found held cells queues represents task member
    obtain rfl := Option.some.inj held
    exact settles.late gone pool present cells queues
      ⟨represents.linked, represents.idle, represents.holds, represents.length⟩ task member
  · intro index joining earlier before
    dsimp only at joining
    split at joining
    · cases joining
    · cases joining
      exact absurd before (Nat.not_lt_zero _)
  · rintro found held
    obtain rfl := Option.some.inj held
    rfl
  · intro draining silent found held
    obtain rfl := Option.some.inj held
    dsimp only at draining
    split at draining
    · rename_i waits
      exact waits.2
    · cases draining
  · intro destroyed
    dsimp only at destroyed
    split at destroyed <;> cases destroyed

/-- The caller of `threadpool_destroy` goes on when the queues are empty. -/
theorem Settles.drained (draining : closing.phase = .draining) : Settles (drainWake closing pool) := by
  have stopping := settles.stopping (by rw [draining]; rintro ⟨⟩)
  rw [drainWake]
  split
  · rename_i queued
    refine ⟨settles.conserves, settles.slots, settles.late, settles.joined, settles.running, settles.stopping, ?_,
      settles.freed⟩
    intro _ _ found held
    obtain rfl := Option.some.inj (present.symm.trans held)
    exact queued
  · refine ⟨settles.conserves, settles.slots, settles.late, ?_, by rintro ⟨⟩, fun _ => stopping, by rintro ⟨⟩,
      by rintro ⟨⟩⟩
    rintro index ⟨⟩ earlier before
    exact absurd before (Nat.not_lt_zero _)

/-- When the last thread is joined all workers have exited. -/
theorem Settles.allExited (index : Nat) (joining : closing.phase = .joining index)
    (last : closing.state.threadCount.toNat ≤ index) : ∀ phase ∈ closing.state.workers, phase = .exited := by
  intro phase member
  obtain ⟨earlier, inside, rfl⟩ := List.getElem_of_mem member
  have before : earlier < index := Nat.lt_of_lt_of_le (settles.slots ▸ inside) last
  exact Option.some.inj ((List.getElem?_eq_getElem inside).symm.trans (settles.joined index joining earlier before))

/-- The report of a pool that is freed. -/
def Accounted (report : DestroyReport) : Prop :=
  (report.submitted : Multiset ThreadpoolTask) = report.finished + report.failed ∧ report.submitted.Nodup ∧
    report.failed ⊆ report.late

/-- A thread is joined, or the pool is freed and its account is closed. -/
theorem Settles.join (index : Nat) (joining : closing.phase = .joining index) :
    Settles (joinNext closing pool index).1 ∧ ∀ report ∈ (joinNext closing pool index).2, Accounted report := by
  rw [joinNext]
  split
  · refine ⟨?_, fun report member => absurd member List.not_mem_nil⟩
    split
    · rename_i exited
      refine ⟨settles.conserves, settles.slots, settles.late, ?_, by rintro ⟨⟩,
        fun _ => settles.stopping (by rw [joining]; rintro ⟨⟩), by rintro ⟨⟩, by rintro ⟨⟩⟩
      rintro _ ⟨⟩ earlier before
      rcases Nat.lt_succ_iff_lt_or_eq.mp before with before | rfl
      · exact settles.joined index joining earlier before
      · exact exited
    · exact settles
  · rename_i last
    have exited := settles.allExited present index joining (Nat.not_lt.mp last)
    obtain ⟨cells, queues, represents, balance⟩ := settles.conserves.balanced pool present
    obtain ⟨failed, thrown, same⟩ := represents.destroyQueues
    rw [thrown]
    have idle : closing.state.workers.filterMap runningTask = [] := by
      rw [List.filterMap_eq_nil_iff]
      exact fun phase member => exited phase member ▸ rfl
    refine ⟨⟨⟨by rintro _ ⟨⟩, by rintro _ ⟨⟩, settles.conserves.distinct, settles.conserves.earlier⟩, settles.slots,
      by rintro _ _ ⟨⟩, by rintro _ ⟨⟩, by rintro _ _ ⟨⟩, fun _ => ?_, by rintro _ _ _ ⟨⟩,
      fun _ => rfl⟩, ?_⟩
    · obtain ⟨requested, awake, -⟩ := settles.stopping (by rw [joining]; rintro ⟨⟩)
      exact ⟨requested, awake, by rintro _ ⟨⟩⟩
    · intro report member
      obtain rfl := List.mem_singleton.mp member
      refine ⟨?_, settles.conserves.distinct, fun task dropped => ?_⟩
      · show (closing.state.submitted : Multiset ThreadpoolTask) = closing.state.finished + failed
        rw [balance, idle, same]
        exact congrArg (· + _) (add_zero _)
      · apply settles.late (fun phase member => .inr (exited phase member)) pool present cells queues represents
        rw [← same]
        exact dropped

end Steps

/-- No step upsets the account, and every report of a freed pool is in order. -/
theorem Settles.step (settles : Settles closing) (step : ClosingStep) :
    Settles ((closingMachine allocator).step closing step).1 ∧
      ∀ report ∈ ((closingMachine allocator).step closing step).2, Accounted report := by
  have silent (next : ClosingPool) (kept : Settles next) :
      Settles (next, ([] : List DestroyReport)).1 ∧ ∀ report ∈ (next, ([] : List DestroyReport)).2, Accounted report :=
    ⟨kept, fun report member => absurd member List.not_mem_nil⟩
  simp only [closingMachine]
  split
  · exact silent _ settles
  · rename_i pool present
    cases step with
    | thread step => exact silent _ (settles.thread allocator present step)
    | enter call =>
        apply silent
        split
        · exact settles.calls present _
        · exact settles
    | locked index woken =>
        dsimp only
        split
        · exact silent _ settles
        · rename_i call found
          have entered := settles.calls present (closing.calls.eraseIdx index)
          cases call with
          | submit submission => exact silent _ (entered.submitted allocator present woken submission)
          | resize numThreads created => exact silent _ (entered.resized allocator present woken numThreads created)
    | destroy wait =>
        apply silent
        split
        · rename_i uncalled
          exact settles.begin present wait uncalled
        · exact settles
    | drainWake =>
        apply silent
        split
        · rename_i draining
          exact settles.drained present draining
        · exact settles
    | join =>
        dsimp only
        split
        · rename_i index joining
          exact settles.join present index joining
        · exact silent _ settles

end Closing

end SecureChat.ThreadPool
