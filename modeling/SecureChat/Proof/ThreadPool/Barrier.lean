import SecureChat.Construction.WorkerThreads
import SecureChat.Library.Slots
import SecureChat.Proof.ThreadPool.Accounting

namespace SecureChat.ThreadPool
open Library

/-- The task that a worker runs. -/
def runningTask : WorkerPhase → Option ThreadpoolTask
  | .running task => some task
  | _ => none

/-- A worker that changes its phase gives up its old task and takes its new one. -/
theorem runningTasks_set (workers : List WorkerPhase) (index : Nat) (old new : WorkerPhase)
    (found : workers[index]? = some old) :
    ((workers.set index new).filterMap runningTask : Multiset ThreadpoolTask) + (runningTask old).toList =
      workers.filterMap runningTask + (runningTask new).toList := by
  have split (phase : WorkerPhase) (rest : List WorkerPhase) :
      (phase :: rest).filterMap runningTask = (runningTask phase).toList ++ rest.filterMap runningTask := by
    cases phase <;> rfl
  have moved := Multiset.coe_eq_coe.mpr ((set_perm workers index old new found).filterMap runningTask)
  rw [split, split, ← Multiset.coe_add, ← Multiset.coe_add] at moved
  rw [add_comm, moved, add_comm]

theorem mem_runningTasks (workers : List WorkerPhase) (task : ThreadpoolTask) :
    task ∈ workers.filterMap runningTask ↔ .running task ∈ workers := by
  rw [List.mem_filterMap]
  constructor
  · rintro ⟨phase, member, running⟩
    cases phase <;> cases running
    exact member
  · exact fun member => ⟨_, member, rfl⟩

/-- Two sums that exchange the same parts stay equal. -/
theorem exchange_sum {finished after running later old new : Multiset ThreadpoolTask}
    (first : after + new = finished + old) (second : later + old = running + new) :
    after + later = finished + running := by
  apply add_right_cancel (b := new + old)
  calc after + later + (new + old) = (after + new) + (later + old) := by abel
    _ = (finished + old) + (running + new) := by rw [first, second]
    _ = finished + running + (new + old) := by abel

/-- Every submitted task has finished, is running or waits in a queue, and exactly one of these. -/
def Balanced (state : WorkerPool) (pool : Threadpool) : Prop :=
  ∃ cells queues, Represents pool cells queues ∧ (state.submitted : Multiset ThreadpoolTask) =
    state.finished + state.workers.filterMap runningTask + waiting queues

/-- What holds as long as no thread has crashed. -/
structure Conserves (state : WorkerPool) : Prop where
  balanced : ∀ pool, state.pool = some pool → Balanced state pool
  numbered : ∀ pool, state.pool = some pool → ∀ task ∈ state.submitted, task.taskId < pool.taskCounter
  distinct : state.submitted.Nodup
  earlier : ∀ call ∈ state.waiters, call.before ⊆ state.submitted

theorem conserves_create (config : WorkerConfig) (queues : ThreadpoolConfig) :
    Conserves (createWorkers config queues) where
  balanced := by
    intro pool same
    obtain rfl := Option.some.inj same
    refine ⟨_, _, represents_create queues, ?_⟩
    have none : (createWorkers config queues).workers.filterMap runningTask = [] := by
      simp [createWorkers, runningTask]
    rw [none]
    rfl
  numbered := fun pool same task member => absurd member List.not_mem_nil
  distinct := List.nodup_nil
  earlier := fun call member => absurd member List.not_mem_nil

/-- An empty queue holds no waiting task. -/
theorem Represents.waiting_none {pool : Threadpool} {cells : QueueClass → List Nat}
    {queues : QueueClass → List ThreadpoolTask} (represents : Represents pool cells queues)
    (empty : pool.stats.queueLength = 0) : waiting queues = 0 := by
  have counted := represents.length
  rw [empty, total] at counted
  have none (queue : QueueClass) : queues queue = [] := by
    have short : (cells queue).length = 0 := by
      cases queue <;> omega
    rw [← represents.holds]
    show contents pool.heap (cells queue) = []
    rw [List.eq_nil_of_length_eq_zero short]
    rfl
  simp [waiting, none]

/-- With empty queues the earlier tasks have finished exactly if none of them is running. -/
theorem Conserves.finished_iff {state : WorkerPool} (conserves : Conserves state) (pool : Threadpool)
    (present : state.pool = some pool) (empty : pool.stats.queueLength = 0) (before : List ThreadpoolTask)
    (earlier : before ⊆ state.submitted) :
    (∀ task ∈ before, task ∈ state.finished) ↔ ∀ task ∈ before, .running task ∉ state.workers := by
  obtain ⟨cells, queues, represents, balance⟩ := conserves.balanced pool present
  rw [represents.waiting_none empty, add_zero] at balance
  have distinct : (state.finished + state.workers.filterMap runningTask : Multiset ThreadpoolTask).Nodup := by
    rw [← balance]
    exact Multiset.coe_nodup.mpr conserves.distinct
  apply forall₂_congr
  intro task member
  rw [← mem_runningTasks]
  constructor
  · intro done running
    exact Multiset.disjoint_left.mp (Multiset.nodup_add.mp distinct).2.2 done running
  · intro idle
    have either : task ∈ (state.finished + state.workers.filterMap runningTask : Multiset ThreadpoolTask) := by
      rw [← balance]
      exact earlier member
    exact (Multiset.mem_add.mp either).resolve_right idle

section Numbers

variable {pool : Threadpool} (allocator : Allocator)

/-- A call takes at most one task number, and it is the number of the task that it adds. -/
def Numbers (pool : Threadpool) (outcome : Option Threadpool × PoolEvent) : Prop :=
  ∀ next, outcome.1 = some next → pool.taskCounter ≤ next.taskCounter ∧
    ∀ task ∈ submittedTask outcome.2, task.taskId = pool.taskCounter ∧ pool.taskCounter < next.taskCounter

/-- A refused call may take a number, but it adds no task. -/
theorem Numbers.refused (next : Threadpool) (error : ThreadpoolError)
    (kept : pool.taskCounter ≤ next.taskCounter) : Numbers pool (some next, .refused error) := by
  intro reached same
  cases same
  exact ⟨kept, fun task member => absurd member List.not_mem_nil⟩

/-- A call that adds a task gives it the number that it takes. -/
theorem Numbers.added (next : Threadpool) (event : PoolEvent) (task : ThreadpoolTask)
    (shown : submittedTask event = [task]) (number : task.taskId = pool.taskCounter)
    (advanced : next.taskCounter = pool.taskCounter + 1) : Numbers pool (some next, event) := by
  intro reached same
  cases same
  refine ⟨by omega, ?_⟩
  intro submitted member
  rw [shown, List.mem_singleton] at member
  rw [member]
  exact ⟨number, by omega⟩

/-- Linking a task leaves the task numbers and the state of the pool alone. -/
theorem linkTask_frame (queue : QueueClass) (address : Nat) (next : Threadpool)
    (linked : linkTask pool queue address = some next) :
    next.taskCounter = pool.taskCounter ∧ next.state = pool.state := by
  rw [linkTask] at linked
  split at linked
  · cases linked
    cases queue <;> exact ⟨rfl, rfl⟩
  · split at linked
    · cases linked
    · obtain ⟨cell, -, rfl⟩ := Option.map_eq_some_iff.mp linked
      exact ⟨rfl, rfl⟩

theorem threadpoolAddTask_numbers (request : TaskRequest) (priority : TaskPriority) (timeoutMs : Nat)
    (context : CallContext) :
    Numbers pool (threadpoolAddTask allocator pool request priority timeoutMs context) := by
  rw [threadpoolAddTask]
  split
  · exact Numbers.refused pool _ (Nat.le_refl _)
  · split
    · exact Numbers.refused _ _ (Nat.le_succ _)
    · rename_i address task created
      split
      · intro next same
        cases same
      · rename_i linked joined
        obtain ⟨found, -, same⟩ := Option.map_eq_some_iff.mp created
        cases same
        exact Numbers.added _ _ _ rfl rfl (linkTask_frame _ _ _ joined).1

theorem threadpoolAddUrgentTask_numbers (request : TaskRequest) (context : CallContext) :
    Numbers pool (threadpoolAddUrgentTask allocator pool request context) := by
  rw [threadpoolAddUrgentTask]
  split
  · exact Numbers.refused pool _ (Nat.le_refl _)
  · split
    · exact Numbers.refused _ _ (Nat.le_succ _)
    · rename_i address task created
      obtain ⟨found, -, same⟩ := Option.map_eq_some_iff.mp created
      cases same
      exact Numbers.added _ _ _ rfl rfl rfl

/-- Taking a task leaves them alone, too. -/
theorem getNextTask_frame (now : Nat) (next : Threadpool) (taken : (getNextTask pool now).1 = some next) :
    next.taskCounter = pool.taskCounter ∧ next.state = pool.state := by
  rw [getNextTask] at taken
  split at taken
  · cases taken
    exact ⟨rfl, rfl⟩
  · rename_i queue address front
    split at taken
    · cases taken
    · cases taken
      cases queue <;> exact ⟨rfl, rfl⟩

end Numbers

section Submissions

variable (allocator : Allocator)

/-- The call of a submitter on the pool. -/
def submissionOutcome (pool : Threadpool) : Submission → Option Threadpool × PoolEvent
  | .addTask request priority timeoutMs context =>
      threadpoolAddTask allocator pool request priority timeoutMs context
  | .addUrgentTask request context => threadpoolAddUrgentTask allocator pool request context

theorem submit_outcome (state : WorkerPool) (pool : Threadpool) (present : state.pool = some pool)
    (submission : Submission) :
    submit allocator state submission = { state with
      pool := (submissionOutcome allocator pool submission).1
      submitted := state.submitted ++ submittedTask (submissionOutcome allocator pool submission).2 } := by
  cases submission <;> simp only [submit, present, submissionOutcome]

theorem submission_numbers (pool : Threadpool) (submission : Submission) :
    Numbers pool (submissionOutcome allocator pool submission) := by
  cases submission with
  | addTask request priority timeoutMs context =>
      exact threadpoolAddTask_numbers allocator request priority timeoutMs context
  | addUrgentTask request context => exact threadpoolAddUrgentTask_numbers allocator request context

/-- A submission uses a null pointer, or its task is one more waiting task. -/
theorem submission_cases {pool : Threadpool} {cells : QueueClass → List Nat}
    {queues : QueueClass → List ThreadpoolTask} (represents : Represents pool cells queues)
    (submission : Submission) :
    submissionOutcome allocator pool submission = (none, .crashed) ∨
      ∃ next moved after, (submissionOutcome allocator pool submission).1 = some next ∧
        Represents next moved after ∧
        waiting after = waiting queues + submittedTask (submissionOutcome allocator pool submission).2 := by
  cases submission with
  | addTask request priority timeoutMs context =>
      rcases threadpoolAddTask_cases allocator represents request priority timeoutMs context with
        ⟨next, error, result, kept⟩ |
          ⟨-, ⟨crashed, -⟩ | ⟨next, target, moved, task, -, result, after, -⟩⟩
      · right
        rw [submissionOutcome, result]
        exact ⟨next, cells, queues, rfl, kept, (add_zero _).symm⟩
      · exact .inl crashed
      · right
        rw [submissionOutcome, result]
        exact ⟨next, moved, _, rfl, after, waiting_insert queues target _ task rfl⟩
  | addUrgentTask request context =>
      right
      rcases threadpoolAddUrgentTask_cases allocator represents request context with
        ⟨next, error, result, kept⟩ | ⟨next, moved, task, -, result, after⟩
      · rw [submissionOutcome, result]
        exact ⟨next, cells, queues, rfl, kept, (add_zero _).symm⟩
      · rw [submissionOutcome, result]
        refine ⟨next, moved, _, rfl, after, waiting_insert queues .high _ task ?_⟩
        rw [← Multiset.cons_coe, ← Multiset.singleton_add, add_comm]

end Submissions

section Steps

variable {state : WorkerPool} (conserves : Conserves state)

include conserves

theorem Conserves.submit (allocator : Allocator) (pool : Threadpool) (present : state.pool = some pool)
    (submission : Submission) : Conserves (ThreadPool.submit allocator state submission) := by
  obtain ⟨cells, queues, represents, balance⟩ := conserves.balanced pool present
  have numbers := submission_numbers allocator pool submission
  have cases := submission_cases allocator represents submission
  rw [submit_outcome allocator state pool present]
  generalize submissionOutcome allocator pool submission = outcome at numbers cases
  obtain ⟨next, event⟩ := outcome
  rcases cases with crashed | ⟨next, moved, after, same, kept, grown⟩
  · cases crashed
    refine ⟨fun _ missing => (nomatch missing), fun _ missing => (nomatch missing), ?_, ?_⟩
    · simpa [submittedTask] using conserves.distinct
    · simpa [submittedTask] using conserves.earlier
  · cases same
    obtain ⟨advances, number⟩ := numbers next rfl
    have older := conserves.numbered pool present
    dsimp only at grown number
    constructor
    · intro other same
      cases same
      refine ⟨moved, after, kept, ?_⟩
      show ((state.submitted ++ submittedTask event : List ThreadpoolTask) : Multiset ThreadpoolTask) = _
      rw [grown, ← Multiset.coe_add, balance, add_assoc]
    · intro other same task member
      cases same
      rcases List.mem_append.mp member with old | new
      · exact Nat.lt_of_lt_of_le (older task old) advances
      · rw [(number task new).1]
        exact (number task new).2
    · rw [List.nodup_append]
      refine ⟨conserves.distinct, ?_, ?_⟩
      · cases event <;> simp [submittedTask]
      · rintro first old second new rfl
        have lower := older first old
        rw [(number first new).1] at lower
        exact Nat.lt_irrefl _ lower
    · intro call member
      exact List.subset_append_of_subset_left _ (conserves.earlier call member)

/-- A step without a submission moves tasks between the queues, the workers and the finished ones. -/
theorem Conserves.moves (pool : Threadpool) (present : state.pool = some pool) (next : WorkerPool)
    (moved : Threadpool) (now : next.pool = some moved) (counter : moved.taskCounter = pool.taskCounter)
    (submitted : next.submitted = state.submitted)
    (earlier : ∀ call ∈ next.waiters, call.before ⊆ state.submitted)
    (balance : ∀ cells queues, Represents pool cells queues → ∃ cells after, Represents moved cells after ∧
      (next.finished + next.workers.filterMap runningTask + waiting after : Multiset ThreadpoolTask) =
        state.finished + state.workers.filterMap runningTask + waiting queues) :
    Conserves next := by
  constructor
  · intro other same
    obtain rfl := Option.some.inj (now.symm.trans same)
    obtain ⟨cells, queues, represents, total⟩ := conserves.balanced pool present
    obtain ⟨cells, after, kept, equal⟩ := balance cells queues represents
    exact ⟨cells, after, kept, by rw [submitted, total, equal]⟩
  · intro other same
    obtain rfl := Option.some.inj (now.symm.trans same)
    rw [submitted, counter]
    exact conserves.numbered pool present
  · rw [submitted]
    exact conserves.distinct
  · rw [submitted]
    exact earlier

/-- A worker that changes its phase without touching the queues. -/
theorem Conserves.setWorker (pool : Threadpool) (present : state.pool = some pool) (index : Nat)
    (old new : WorkerPhase) (found : state.workers[index]? = some old) (next : WorkerPool)
    (same : next.pool = state.pool) (submitted : next.submitted = state.submitted)
    (waiters : next.waiters = state.waiters) (workers : next.workers = state.workers.set index new)
    (finished : (next.finished : Multiset ThreadpoolTask) + (runningTask new).toList =
      state.finished + (runningTask old).toList) :
    Conserves next := by
  have exchanged := runningTasks_set state.workers index old new found
  apply conserves.moves pool present next pool (same.trans present) rfl submitted
  · rw [waiters]
    exact conserves.earlier
  · intro cells queues represents
    refine ⟨cells, queues, represents, ?_⟩
    rw [workers, exchange_sum finished exchanged]

/-- A worker that takes the next task out of the queues. -/
theorem Conserves.takeTask (pool : Threadpool) (present : state.pool = some pool) (index now : Nat)
    (old new : WorkerPhase) (found : state.workers[index]? = some old) (idle : runningTask old = none)
    (next : Threadpool) (queues : QueueClass → List ThreadpoolTask)
    (taken : getNextTask pool now = (some next, .returned (takeNext queues).1))
    (task : runningTask new = (takeNext queues).1) :
    Conserves { state.setWorker index new with pool := some next } := by
  have counter := (getNextTask_frame now next (congrArg Prod.fst taken)).1
  have exchanged := runningTasks_set state.workers index old new found
  apply conserves.moves pool present { state.setWorker index new with pool := some next } next rfl counter
    rfl conserves.earlier
  intro cells held represents
  obtain ⟨other, moved, again, kept⟩ := getNextTask_cases represents now
  obtain ⟨sameNext, sameTask⟩ := Prod.mk.inj (taken.symm.trans again)
  obtain rfl := Option.some.inj sameNext
  have first : runningTask new = (takeNext held).1 := task.trans (PoolEvent.returned.inj sameTask)
  refine ⟨moved, _, kept, ?_⟩
  rw [idle, first] at exchanged
  rw [waiting_takeNext held, ← add_assoc, add_assoc _ _ ((takeNext held).1.toList : Multiset ThreadpoolTask),
    ← exchanged]
  show _ = _ + (_ + (0 : Multiset ThreadpoolTask)) + _
  rw [add_zero]
  rfl

/-- The critical section of a worker takes at most one task out of the queues. -/
theorem Conserves.workerLoop (index now : Nat) (old : WorkerPhase)
    (found : state.workers[index]? = some old) (idle : runningTask old = none) :
    Conserves (ThreadPool.workerLoop state index now) := by
  rw [ThreadPool.workerLoop]
  split
  · exact conserves
  · rename_i pool held
    split
    · split
      · exact conserves.setWorker pool held index old .leaving found _ rfl rfl rfl rfl (by rw [idle]; rfl)
      · exact conserves.setWorker pool held index old .waiting found _ rfl rfl rfl rfl (by rw [idle]; rfl)
    · obtain ⟨cells, queues, represents, -⟩ := conserves.balanced pool held
      obtain ⟨next, -, taken, -⟩ := getNextTask_cases represents now
      have takes (new : WorkerPhase) (task : runningTask new = (takeNext queues).1) :
          Conserves { state.setWorker index new with pool := some next } :=
        conserves.takeTask pool held index now old new found idle next queues taken task
      rw [taken]
      cases first : (takeNext queues).1 with
      | none => exact takes .ready first.symm
      | some task => exact takes (.running task) first.symm

/-- A caller that starts or stops waiting. -/
theorem Conserves.setWaiters (waiters : List WaitCall)
    (earlier : ∀ call ∈ waiters, call.before ⊆ state.submitted) : Conserves { state with waiters := waiters } :=
  ⟨conserves.balanced, conserves.numbered, conserves.distinct, earlier⟩

theorem Conserves.eraseWaiter (index : Nat) :
    Conserves { state with waiters := state.waiters.eraseIdx index } :=
  conserves.setWaiters _ fun call member => conserves.earlier call (List.mem_of_mem_eraseIdx member)

theorem Conserves.resize (numThreads : UInt32) (created : Nat) :
    Conserves (threadpoolResize state numThreads created) := by
  rw [threadpoolResize]
  split
  · exact conserves
  · rename_i pool present
    split
    · exact conserves
    · split
      · exact conserves
      · split
        · refine conserves.moves pool present _ pool present rfl rfl conserves.earlier ?_
          intro cells queues represents
          have none (count : Nat) : (List.replicate count WorkerPhase.ready).filterMap runningTask = [] := by
            rw [List.filterMap_eq_nil_iff]
            exact fun phase member => List.eq_of_mem_replicate member ▸ rfl
          exact ⟨cells, queues, represents, by rw [List.filterMap_append, none, List.append_nil]⟩
        · split
          · exact conserves
          · exact ⟨conserves.balanced, conserves.numbered, conserves.distinct, conserves.earlier⟩

theorem Conserves.requestShutdown : Conserves (ThreadPool.requestShutdown state) := by
  rw [ThreadPool.requestShutdown]
  split
  · exact conserves
  · rename_i pool present
    split
    · exact conserves
    · refine conserves.moves pool present _ { pool with state := .stopping } rfl rfl rfl conserves.earlier ?_
      intro cells queues represents
      exact ⟨cells, queues, ⟨represents.linked, represents.idle, represents.holds, represents.length⟩, rfl⟩

/-- No step of any thread loses or doubles a task. -/
theorem Conserves.step (allocator : Allocator) (step : WorkerStep) :
    Conserves ((workerMachine allocator).step state step).1 := by
  simp only [workerMachine]
  split
  · exact conserves
  · rename_i alive
    obtain ⟨pool, present⟩ := Option.ne_none_iff_exists'.mp (by simpa using alive)
    cases step with
    | startWorker index =>
        dsimp only
        split
        · rename_i found
          exact conserves.setWorker pool present index _ .ready found _ rfl rfl rfl rfl rfl
        · exact conserves
    | workerTurn index now =>
        dsimp only
        split
        · rename_i found
          exact conserves.workerLoop index now _ found rfl
        · exact conserves
    | workerWake index now =>
        dsimp only
        split
        · rename_i found
          have awake : Conserves { state with activeThreads := state.activeThreads + 1 } :=
            ⟨conserves.balanced, conserves.numbered, conserves.distinct, conserves.earlier⟩
          exact awake.workerLoop index now _ found rfl
        · exact conserves
    | taskReturns index =>
        dsimp only
        split
        · rename_i task found
          exact conserves.setWorker pool present index _ .ready found _ rfl rfl rfl rfl (add_zero _)
        · exact conserves
    | workerExit index =>
        dsimp only
        split
        · rename_i found
          exact conserves.setWorker pool present index _ .exited found _ rfl rfl rfl rfl rfl
        · exact conserves
    | submit submission => exact conserves.submit allocator pool present submission
    | wait timeoutMs =>
        dsimp only [threadpoolWait]
        split
        · exact conserves
        · split
          · exact conserves
          · split
            · apply conserves.setWaiters
              rw [List.forall_mem_append, List.forall_mem_singleton]
              exact ⟨conserves.earlier, List.Subset.refl _⟩
            · exact conserves
    | waitWake index =>
        dsimp only [waitWake]
        split
        · split
          · exact conserves
          · exact conserves.eraseWaiter index
        · exact conserves
    | waitTimeout index =>
        dsimp only [waitTimeout]
        split
        · split
          · exact conserves
          · exact conserves.eraseWaiter index
        · exact conserves
    | requestShutdown => exact conserves.requestShutdown
    | resize numThreads created => exact conserves.resize numThreads created

end Steps

section Barrier

/-- A successful return finds all tasks finished that were submitted before the call. -/
def WaitReturn.Complete (back : WaitReturn) : Prop :=
  back.result = .success → ∀ task ∈ back.before, task ∈ back.finished

/-- The tasks that were submitted before the call of `threadpool_wait` that returns with success now. -/
def returnsSuccess (state : WorkerPool) (step : WorkerStep) : Option (List ThreadpoolTask) :=
  match state.pool, step with
  | some pool, .wait _ =>
      if pool.state = .running ∧ pool.stats.queueLength = 0 then some state.submitted else none
  | some pool, .waitWake index =>
      if pool.stats.queueLength = 0 then (state.waiters[index]?).map WaitCall.before else none
  | _, _ => none

/-- No worker runs a task that was submitted before a call that returns with success now. -/
def NoneInWork (state : WorkerPool) (step : WorkerStep) : Prop :=
  ∀ before, returnsSuccess state step = some before → ∀ task ∈ before, .running task ∉ state.workers

theorem complete_success (before finished : List ThreadpoolTask) :
    WaitReturn.Complete ⟨.success, before, finished⟩ ↔ ∀ task ∈ before, task ∈ finished :=
  forall_prop_of_true rfl

theorem noneInWork_some {state : WorkerPool} {step : WorkerStep} {before : List ThreadpoolTask}
    (returned : returnsSuccess state step = some before) :
    NoneInWork state step ↔ ∀ task ∈ before, .running task ∉ state.workers := by
  rw [NoneInWork, returned]
  constructor
  · exact fun none => none before rfl
  · rintro none other same
    exact Option.some.inj same ▸ none

/-- The returns of one step are complete exactly if none of the earlier tasks is running. -/
theorem Conserves.complete_iff {state : WorkerPool} (conserves : Conserves state) (allocator : Allocator)
    (step : WorkerStep) :
    (∀ back ∈ ((workerMachine allocator).step state step).2, back.Complete) ↔ NoneInWork state step := by
  have silent (nothing : returnsSuccess state step = none) : NoneInWork state step := by
    intro before now
    rw [nothing] at now
    cases now
  simp only [workerMachine]
  split
  · rename_i crashed
    apply iff_of_true (by simp)
    apply silent
    simp only [returnsSuccess, Option.isNone_iff_eq_none.mp crashed]
  · rename_i alive
    obtain ⟨pool, present⟩ := Option.ne_none_iff_exists'.mp (by simpa using alive)
    cases step with
    | wait timeoutMs =>
        simp only [threadpoolWait, present]
        by_cases running : pool.state = .running
        · rw [if_neg (not_not.mpr running)]
          by_cases queued : 0 < pool.stats.queueLength
          · rw [if_pos queued]
            exact iff_of_true (by simp) (silent (by simp [returnsSuccess, present, Nat.ne_of_gt queued]))
          · have empty : pool.stats.queueLength = 0 := Nat.eq_zero_of_not_pos queued
            have returned : returnsSuccess state (.wait timeoutMs) = some state.submitted := by
              simp only [returnsSuccess, present, running, empty, and_self, if_true]
            rw [if_neg queued, List.forall_mem_singleton, noneInWork_some returned]
            exact (complete_success _ _).trans
              (conserves.finished_iff pool present empty state.submitted (List.Subset.refl _))
        · rw [if_pos running, List.forall_mem_singleton]
          apply iff_of_true _ (silent (by simp [returnsSuccess, present, running]))
          exact fun success => nomatch success
    | waitWake index =>
        cases found : state.waiters[index]? with
        | none =>
            simp only [waitWake, present, found]
            exact iff_of_true (by simp) (silent (by simp [returnsSuccess, present, found]))
        | some call =>
            simp only [waitWake, present, found]
            by_cases queued : 0 < pool.stats.queueLength
            · rw [if_pos queued]
              exact iff_of_true (by simp) (silent (by simp [returnsSuccess, present, Nat.ne_of_gt queued]))
            · have empty : pool.stats.queueLength = 0 := Nat.eq_zero_of_not_pos queued
              have returned : returnsSuccess state (.waitWake index) = some call.before := by
                simp only [returnsSuccess, present, found, empty, if_true, Option.map_some]
              rw [if_neg queued, List.forall_mem_singleton, noneInWork_some returned]
              exact (complete_success _ _).trans (conserves.finished_iff pool present empty call.before
                (conserves.earlier call (List.mem_of_getElem? found)))
    | waitTimeout index =>
        apply iff_of_true _ (silent (by simp [returnsSuccess]))
        dsimp only [waitTimeout]
        split
        · split
          · simp
          · rw [List.forall_mem_singleton]
            exact fun success => nomatch success
        · simp
    | taskReturns index =>
        dsimp only
        split <;> exact iff_of_true (by simp) (silent (by simp [returnsSuccess]))
    | startWorker index => exact iff_of_true (by simp) (silent (by simp [returnsSuccess]))
    | workerTurn index now => exact iff_of_true (by simp) (silent (by simp [returnsSuccess]))
    | workerWake index now => exact iff_of_true (by simp) (silent (by simp [returnsSuccess]))
    | workerExit index => exact iff_of_true (by simp) (silent (by simp [returnsSuccess]))
    | submit submission => exact iff_of_true (by simp) (silent (by simp [returnsSuccess]))
    | requestShutdown => exact iff_of_true (by simp) (silent (by simp [returnsSuccess]))
    | resize numThreads created => exact iff_of_true (by simp) (silent (by simp [returnsSuccess]))

/-- In every interleaving of a new pool, `threadpool_wait` is a completion barrier exactly as long as
each successful return finds no worker in a task that was submitted before the call. -/
theorem threadpoolWait_barrier_iff (allocator : Allocator) (config : WorkerConfig) (queues : ThreadpoolConfig)
    (steps : List WorkerStep) :
    (∀ back ∈ ((workerMachine allocator).run (createWorkers config queues) steps).2, back.Complete) ↔
      (workerMachine allocator).Along NoneInWork (createWorkers config queues) steps :=
  (workerMachine allocator).outputs_iff_along NoneInWork Conserves WaitReturn.Complete
    (fun _ step conserves _ => conserves.step allocator step)
    (fun _ step conserves => conserves.complete_iff allocator step) _ steps (conserves_create config queues)

/-- The only worker has dequeued the only task when `threadpool_wait` returns. -/
theorem threadpoolWait_not_barrier :
    ¬ ∀ back ∈ ((workerMachine sampleAllocator).run (createWorkers ⟨1, 1, 1⟩ ⟨0⟩)
      [.startWorker 0, .submit (.addTask ⟨some 1, none, none⟩ .normal 0 ⟨0, 1⟩), .workerTurn 0 0,
        .wait 0]).2, back.Complete := by
  intro complete
  have back := complete _ (List.mem_singleton_self _) rfl _ (List.mem_singleton_self _)
  exact absurd back List.not_mem_nil

end Barrier

end SecureChat.ThreadPool
