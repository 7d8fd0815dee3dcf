/-
This file runs the worker threads of the thread pool, the callers that wait for them,
the calls of `threadpool_resize` and the end of the pool in `threadpool_destroy`.
-/

import SecureChat.Construction.ThreadPool

namespace SecureChat.ThreadPool
open Library

def minThreads : UInt32 := 1
def maxThreads : UInt32 := 128

structure WorkerConfig where
  minThreads : UInt32
  maxThreads : UInt32
  defaultThreads : UInt32
  deriving DecidableEq, Repr

/-- The tests at the start of `threadpool_create`, in their order. -/
def checkConfig (config : WorkerConfig) : WorkerConfig :=
  let config := if config.minThreads < ThreadPool.minThreads then
    { config with minThreads := ThreadPool.minThreads } else config
  let config := if ThreadPool.maxThreads < config.maxThreads then
    { config with maxThreads := ThreadPool.maxThreads } else config
  let config := if config.defaultThreads < config.minThreads then
    { config with defaultThreads := config.minThreads } else config
  if config.maxThreads < config.defaultThreads then
    { config with defaultThreads := config.maxThreads } else config

/-- Where a worker thread stands between two critical sections.
It waits inside the condition variable, runs a task that it has dequeued, or is on its way out. -/
inductive WorkerPhase where
  | unstarted
  | ready
  | waiting
  | running (task : ThreadpoolTask)
  | leaving
  | exited
  deriving DecidableEq, Repr

/-- A caller inside `threadpool_wait`, with the tasks that were submitted before its call. -/
structure WaitCall where
  before : List ThreadpoolTask
  timeoutMs : Nat
  deriving DecidableEq, Repr

/-- The pool with its threads. The pool is absent after a thread has used a null pointer.
`submitted` and `finished` keep the tasks that were added and those whose function has returned. -/
structure WorkerPool where
  pool : Option Threadpool
  config : WorkerConfig
  workers : List WorkerPhase
  threadCount : UInt32
  activeThreads : UInt32
  shutdownRequested : Bool
  waiters : List WaitCall
  submitted : List ThreadpoolTask
  finished : List ThreadpoolTask

/-- The pool before the first worker is started. All counters are zeroed. -/
def createWorkers (config : WorkerConfig) (queues : ThreadpoolConfig) : WorkerPool where
  pool := some (threadpoolCreate queues)
  config := checkConfig config
  workers := List.replicate (checkConfig config).defaultThreads.toNat .unstarted
  threadCount := (checkConfig config).defaultThreads
  activeThreads := 0
  shutdownRequested := false
  waiters := []
  submitted := []
  finished := []

def WorkerPool.setWorker (state : WorkerPool) (index : Nat) (phase : WorkerPhase) : WorkerPool :=
  { state with workers := state.workers.set index phase }

def queuesEmpty (pool : Threadpool) : Bool :=
  pool.taskQueueHigh.isNone && pool.taskQueueNormal.isNone && pool.taskQueueLow.isNone

/-- The critical section of a worker, from the condition of its inner loop on.
A worker without work counts itself out before it waits. -/
def workerLoop (state : WorkerPool) (index now : Nat) : WorkerPool :=
  match state.pool with
  | none => state
  | some pool =>
      if queuesEmpty pool then
        if state.shutdownRequested then state.setWorker index .leaving
        else { state.setWorker index .waiting with activeThreads := state.activeThreads - 1 }
      else
        match getNextTask pool now with
        | (next, .returned (some task)) => { state.setWorker index (.running task) with pool := next }
        | (next, _) => { state.setWorker index .ready with pool := next }

/-- A worker counts itself in again when it wakes up, and then goes on in its inner loop. -/
def workerWake (state : WorkerPool) (index now : Nat) : WorkerPool :=
  workerLoop { state with activeThreads := state.activeThreads + 1 } index now

/-- What `threadpool_wait` returns. -/
inductive WaitResult where
  | success | shutdown | timeout
  deriving DecidableEq, Repr

/-- A return of `threadpool_wait`, with what was submitted before the call and what has finished. -/
structure WaitReturn where
  result : WaitResult
  before : List ThreadpoolTask
  finished : List ThreadpoolTask
  deriving DecidableEq, Repr

/-- The call of a submitter. -/
inductive Submission where
  | addTask (request : TaskRequest) (priority : TaskPriority) (timeoutMs : Nat) (context : CallContext)
  | addUrgentTask (request : TaskRequest) (context : CallContext)
  deriving DecidableEq, Repr

/-- The task of a successful submission. -/
def submittedTask : PoolEvent → List ThreadpoolTask
  | .added task => [task]
  | .addedUrgent task => [task]
  | _ => []

def submit (allocator : Allocator) (state : WorkerPool) (submission : Submission) : WorkerPool :=
  match state.pool with
  | none => state
  | some pool =>
      let (next, event) := match submission with
        | .addTask request priority timeoutMs context =>
            threadpoolAddTask allocator pool request priority timeoutMs context
        | .addUrgentTask request context => threadpoolAddUrgentTask allocator pool request context
      { state with pool := next, submitted := state.submitted ++ submittedTask event }

/-- The call returns at once when no task is queued. Otherwise it waits for `all_tasks_done`. -/
def threadpoolWait (state : WorkerPool) (timeoutMs : Nat) : WorkerPool × List WaitReturn :=
  match state.pool with
  | none => (state, [])
  | some pool =>
      if pool.state ≠ .running then (state, [⟨.shutdown, state.submitted, state.finished⟩])
      else if 0 < pool.stats.queueLength then
        ({ state with waiters := state.waiters ++ [⟨state.submitted, timeoutMs⟩] }, [])
      else (state, [⟨.success, state.submitted, state.finished⟩])

/-- A caller that wakes up looks at the length of the queue again. -/
def waitWake (state : WorkerPool) (index : Nat) : WorkerPool × List WaitReturn :=
  match state.pool, state.waiters[index]? with
  | some pool, some call =>
      if 0 < pool.stats.queueLength then (state, [])
      else ({ state with waiters := state.waiters.eraseIdx index }, [⟨.success, call.before, state.finished⟩])
  | _, _ => (state, [])

/-- A timeout of zero never ends. -/
def waitTimeout (state : WorkerPool) (index : Nat) : WorkerPool × List WaitReturn :=
  match state.waiters[index]? with
  | some call =>
      if call.timeoutMs = 0 then (state, [])
      else ({ state with waiters := state.waiters.eraseIdx index }, [⟨.timeout, call.before, state.finished⟩])
  | none => (state, [])

/-- The first part of `threadpool_destroy`. -/
def requestShutdown (state : WorkerPool) : WorkerPool :=
  match state.pool with
  | none => state
  | some pool =>
      if pool.state = .stopped ∨ pool.state = .error then state
      else { state with shutdownRequested := true, pool := some { pool with state := .stopping } }

/-- Growth starts as many threads as can be created. Shrinking only lowers the limit. -/
def threadpoolResize (state : WorkerPool) (numThreads : UInt32) (created : Nat) : WorkerPool :=
  match state.pool with
  | none => state
  | some pool =>
      if numThreads < state.config.minThreads ∨ state.config.maxThreads < numThreads then state
      else if pool.state ≠ .running then state
      else if state.threadCount < numThreads then
        let started := min created (numThreads - state.threadCount).toNat
        { state with
          workers := state.workers ++ List.replicate started .ready
          threadCount := state.threadCount + UInt32.ofNat started }
      else if numThreads = state.threadCount then state
      else { state with config := { state.config with maxThreads := numThreads } }

/-- One critical section of a thread, or one step between two of them. -/
inductive WorkerStep where
  | startWorker (index : Nat)
  | workerTurn (index now : Nat)
  | workerWake (index now : Nat)
  | taskReturns (index : Nat)
  | workerExit (index : Nat)
  | submit (submission : Submission)
  | wait (timeoutMs : Nat)
  | waitWake (index : Nat)
  | waitTimeout (index : Nat)
  | requestShutdown
  | resize (numThreads : UInt32) (created : Nat)
  deriving DecidableEq, Repr

/-- A step of a worker that is not at this point of its function does nothing.
No thread takes a step after a crash. -/
def workerMachine (allocator : Allocator) : Machine WorkerPool WorkerStep WaitReturn where
  step state step :=
    if state.pool.isNone then (state, []) else
    match step with
    | .startWorker index =>
        (if state.workers[index]? = some .unstarted then state.setWorker index .ready else state, [])
    | .workerTurn index now =>
        (if state.workers[index]? = some .ready then workerLoop state index now else state, [])
    | .workerWake index now =>
        (if state.workers[index]? = some .waiting then ThreadPool.workerWake state index now else state, [])
    | .taskReturns index =>
        match state.workers[index]? with
        | some (.running task) =>
            ({ state.setWorker index .ready with finished := state.finished ++ [task] }, [])
        | _ => (state, [])
    | .workerExit index =>
        (if state.workers[index]? = some .leaving then
          { state.setWorker index .exited with activeThreads := state.activeThreads - 1 } else state, [])
    | .submit submission => (ThreadPool.submit allocator state submission, [])
    | .wait timeoutMs => threadpoolWait state timeoutMs
    | .waitWake index => ThreadPool.waitWake state index
    | .waitTimeout index => ThreadPool.waitTimeout state index
    | .requestShutdown => (ThreadPool.requestShutdown state, [])
    | .resize numThreads created => (threadpoolResize state numThreads created, [])

/-- The result of a call that gets its memory. -/
def resizeResult (config : WorkerConfig) (pool : Threadpool) (numThreads : UInt32) : ThreadpoolError :=
  if numThreads < config.minThreads ∨ config.maxThreads < numThreads then .invalidArg
  else if pool.state ≠ .running then .shutdown
  else .success

/-- The array of thread handles after a call. Growth extends it and writes the handle of each new worker. -/
def resizeThreads (config : WorkerConfig) (pool : Threadpool) (threadCount numThreads : UInt32)
    (threads : List (Option Nat)) : List (Option Nat) :=
  if resizeResult config pool numThreads = .success ∧ threadCount < numThreads then
    (List.range numThreads.toNat).map fun index =>
      if threadCount.toNat ≤ index then some index else threads[index]?.join
  else threads

/-- The pool with its array of handles, where the number of its worker stands for each handle.
`rechecked` holds the workers that have come to the condition of their loop since the last call,
and `lastResize` what the last call on a running pool has asked for and returned. -/
structure ResizedPool where
  state : WorkerPool
  threads : List (Option Nat)
  rechecked : List Nat
  lastResize : Option (UInt32 × ThreadpoolError)

def createResized (config : WorkerConfig) (queues : ThreadpoolConfig) : ResizedPool where
  state := createWorkers config queues
  threads := (List.range (checkConfig config).defaultThreads.toNat).map some
  rechecked := []
  lastResize := none

/-- A worker comes to the condition of its loop at the start of its turn and when it wakes up. -/
def rechecks (state : WorkerPool) : WorkerStep → List Nat
  | .workerTurn index _ => if state.workers[index]? = some .ready then [index] else []
  | .workerWake index _ => if state.workers[index]? = some .waiting then [index] else []
  | _ => []

/-- All the threads that the call asks for can be created. -/
def resizePool (allocator : Allocator) (resized : ResizedPool) (numThreads : UInt32) : ResizedPool :=
  match resized.state.pool with
  | none => resized
  | some pool =>
      { state := ((workerMachine allocator).step resized.state (.resize numThreads numThreads.toNat)).1
        threads := resizeThreads resized.state.config pool resized.state.threadCount numThreads resized.threads
        rechecked := []
        lastResize :=
          if pool.state = .running then some (numThreads, resizeResult resized.state.config pool numThreads)
          else resized.lastResize }

/-- The calls are steps among those of all the threads. -/
def resizeMachine (allocator : Allocator) : Machine ResizedPool WorkerStep WaitReturn where
  step resized step :=
    match step with
    | .resize numThreads _ => (resizePool allocator resized numThreads, [])
    | step =>
        let (state, returns) := (workerMachine allocator).step resized.state step
        ({ resized with state := state, rechecked := resized.rechecked ++ rechecks resized.state step }, returns)

/-- A call that is about to take the mutex. -/
inductive PoolCall where
  | submit (submission : Submission)
  | resize (numThreads : UInt32) (created : Nat)
  deriving DecidableEq, Repr

def Submission.request : Submission → TaskRequest
  | .addTask request _ _ _ => request
  | .addUrgentTask request _ => request

/-- The tests in front of the mutex. The state of the pool may be another one behind it. -/
def PoolCall.enters (state : WorkerPool) (pool : Threadpool) : PoolCall → Bool
  | .submit submission => submission.request.function ≠ none ∧ pool.state = .running
  | .resize numThreads _ =>
      state.config.minThreads ≤ numThreads ∧ numThreads ≤ state.config.maxThreads ∧ pool.state = .running

/-- The part of `threadpool_add_task` that holds the mutex. -/
def addTaskLocked (allocator : Allocator) (pool : Threadpool) (request : TaskRequest) (priority : TaskPriority)
    (timeoutMs : Nat) (context : CallContext) : Option Threadpool × PoolEvent :=
  if 0 < pool.config.queueSize ∧ pool.config.queueSize ≤ pool.stats.queueLength then
    (some pool, .refused .queueFull)
  else
    match createTask allocator pool request priority timeoutMs context with
    | none => (some (nextTaskId pool), .refused .memory)
    | some (address, task) =>
        match linkTask (storeTask (nextTaskId pool) address task none) priority.queueClass address with
        | none => (none, .crashed)
        | some linked => (some (countSubmitted linked), .added task)

/-- The part of `threadpool_add_urgent_task` that holds the mutex. -/
def addUrgentTaskLocked (allocator : Allocator) (pool : Threadpool) (request : TaskRequest)
    (context : CallContext) : Option Threadpool × PoolEvent :=
  match createTask allocator pool request .critical 0 context with
  | none => (some (nextTaskId pool), .refused .memory)
  | some (address, task) =>
      (some (countSubmitted (pushTask (storeTask (nextTaskId pool) address task pool.taskQueueHigh) address)),
        .addedUrgent task)

def submitLocked (allocator : Allocator) (pool : Threadpool) : Submission → Option Threadpool × PoolEvent
  | .addTask request priority timeoutMs context =>
      addTaskLocked allocator pool request priority timeoutMs context
  | .addUrgentTask request context => addUrgentTaskLocked allocator pool request context

/-- The part of `threadpool_resize` that holds the mutex. -/
def resizeLocked (state : WorkerPool) (numThreads : UInt32) (created : Nat) : WorkerPool :=
  if numThreads = state.threadCount then state
  else if state.threadCount < numThreads then
    let started := min created (numThreads - state.threadCount).toNat
    { state with
      workers := state.workers ++ List.replicate started .ready
      threadCount := state.threadCount + UInt32.ofNat started }
  else { state with config := { state.config with maxThreads := numThreads } }

/-- Where the one call of `threadpool_destroy` stands. -/
inductive DestroyPhase where
  | uncalled
  | draining
  | joining (index : Nat)
  | destroyed
  deriving DecidableEq, Repr

/-- The pool while calls and its end run side by side. `asleep` holds the workers that wait for `queue_not_empty`
and have not been woken up, and `signalled` tells whether `all_tasks_done` was signalled to the caller of
`threadpool_destroy`. `late` keeps the tasks that were queued when no worker was left in its loop. -/
structure ClosingPool where
  state : WorkerPool
  calls : List PoolCall
  asleep : List Nat
  phase : DestroyPhase
  signalled : Bool
  late : List ThreadpoolTask

def createClosing (config : WorkerConfig) (queues : ThreadpoolConfig) : ClosingPool :=
  ⟨createWorkers config queues, [], [], .uncalled, false, []⟩

/-- No worker comes back to the condition of its loop. -/
def WorkerPool.Gone (state : WorkerPool) : Prop := ∀ phase ∈ state.workers, phase = .leaving ∨ phase = .exited

instance (state : WorkerPool) : Decidable state.Gone := inferInstanceAs (Decidable (∀ _ ∈ _, _))

/-- The last queued task has been taken while the pool stops. -/
def announces (before after : Option Threadpool) : Bool :=
  match before, after with
  | some before, some after =>
      before.stats.totalTasksCompleted ≠ after.stats.totalTasksCompleted ∧ after.stats.queueLength = 0 ∧
        after.state = .stopping
  | _, _ => false

/-- The steps of the workers and of the callers of `threadpool_wait`. -/
def WorkerStep.own : WorkerStep → Bool
  | .submit _ => false
  | .requestShutdown => false
  | .resize _ _ => false
  | _ => true

/-- The workers that have come to the condition of their loop sleep if they wait there. -/
def threadStep (allocator : Allocator) (closing : ClosingPool) (step : WorkerStep) : ClosingPool :=
  if step.own then
    let next := ((workerMachine allocator).step closing.state step).1
    let checked := rechecks closing.state step
    { closing with
      state := next
      asleep := closing.asleep.filter (· ∉ checked) ++ checked.filter (next.workers[·]? = some .waiting)
      signalled := closing.signalled || announces closing.state.pool next.pool }
  else closing

/-- A call that has the mutex. A new task wakes up one worker, and a smaller number of threads all of them. -/
def lockedCall (allocator : Allocator) (closing : ClosingPool) (pool : Threadpool) (woken : Nat) :
    PoolCall → ClosingPool
  | .submit submission =>
      let (next, event) := submitLocked allocator pool submission
      let added := submittedTask event
      { closing with
        state := { closing.state with pool := next, submitted := closing.state.submitted ++ added }
        asleep := if added = [] then closing.asleep else closing.asleep.eraseIdx (woken % closing.asleep.length)
        late := if closing.state.Gone then closing.late ++ added else closing.late }
  | .resize numThreads created =>
      { closing with
        state := resizeLocked closing.state numThreads created
        asleep := if numThreads < closing.state.threadCount then [] else closing.asleep }

/-- The first part of `threadpool_destroy`. It waits for the queues only if it is asked to. -/
def beginDestroy (closing : ClosingPool) (pool : Threadpool) (wait : Bool) : ClosingPool :=
  if pool.state = .stopped ∨ pool.state = .error then closing
  else
    { closing with
      state := requestShutdown closing.state
      asleep := []
      phase := if wait ∧ 0 < pool.stats.queueLength then .draining else .joining 0
      signalled := false }

/-- The caller of `threadpool_destroy` looks at the length of the queue again. -/
def drainWake (closing : ClosingPool) (pool : Threadpool) : ClosingPool :=
  if 0 < pool.stats.queueLength then { closing with signalled := false } else { closing with phase := .joining 0 }

/-- The loop over the tasks that are left in one queue. The fuel bounds their number. -/
def destroyQueue (queue : QueueClass) : Nat → Threadpool → Option (Threadpool × List ThreadpoolTask)
  | 0, _ => none
  | fuel + 1, pool =>
      match pool.queueHead queue with
      | none => some (pool, [])
      | some address =>
          match pool.heap address with
          | none => none
          | some cell =>
              (destroyQueue queue fuel (destroyTask (pool.setQueueHead cell.next queue) address)).map
                fun (rest, tasks) => (rest, cell.value :: tasks)

/-- The tasks that the last part of `threadpool_destroy` throws away. -/
def destroyQueues (pool : Threadpool) : Option (List ThreadpoolTask) := do
  let fuel := pool.stats.queueLength + 1
  let (pool, high) ← destroyQueue .high fuel pool
  let (pool, normal) ← destroyQueue .normal fuel pool
  let (_, low) ← destroyQueue .low fuel pool
  some (high ++ normal ++ low)

/-- What has become of all tasks when the pool is freed. -/
structure DestroyReport where
  submitted : List ThreadpoolTask
  finished : List ThreadpoolTask
  failed : List ThreadpoolTask
  late : List ThreadpoolTask
  deriving DecidableEq, Repr

/-- The threads are joined one after the other, as many as there are at that time. Behind the last one
the queues are cleared and the pool is freed. -/
def joinNext (closing : ClosingPool) (pool : Threadpool) (index : Nat) : ClosingPool × List DestroyReport :=
  if index < closing.state.threadCount.toNat then
    (if closing.state.workers[index]? = some .exited then { closing with phase := .joining (index + 1) }
      else closing, [])
  else
    match destroyQueues pool with
    | none => ({ closing with state := { closing.state with pool := none } }, [])
    | some failed =>
        ({ closing with state := { closing.state with pool := none }, phase := .destroyed },
          [⟨closing.state.submitted, closing.state.finished, failed, closing.late⟩])

inductive ClosingStep where
  | thread (step : WorkerStep)
  | enter (call : PoolCall)
  | locked (index woken : Nat)
  | destroy (wait : Bool)
  | drainWake
  | join
  deriving DecidableEq, Repr

/-- `threadpool_destroy` is called once. No thread takes a step after the pool is freed or a thread has crashed. -/
def closingMachine (allocator : Allocator) : Machine ClosingPool ClosingStep DestroyReport where
  step closing step :=
    match closing.state.pool with
    | none => (closing, [])
    | some pool =>
        match step with
        | .thread step => (threadStep allocator closing step, [])
        | .enter call =>
            (if call.enters closing.state pool then { closing with calls := closing.calls ++ [call] } else closing, [])
        | .locked index woken =>
            match closing.calls[index]? with
            | none => (closing, [])
            | some call =>
                (lockedCall allocator { closing with calls := closing.calls.eraseIdx index } pool woken call, [])
        | .destroy wait => (if closing.phase = .uncalled then beginDestroy closing pool wait else closing, [])
        | .drainWake => (if closing.phase = .draining then ThreadPool.drainWake closing pool else closing, [])
        | .join =>
            match closing.phase with
            | .joining index => joinNext closing pool index
            | _ => (closing, [])

end SecureChat.ThreadPool
