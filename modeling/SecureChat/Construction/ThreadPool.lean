/-
This file runs the task queues of the thread pool.
-/

import SecureChat.Library.Machine
import SecureChat.Library.PointerChain

namespace SecureChat.ThreadPool
open Library

inductive ThreadpoolState where
  | created | running | stopping | stopped | error
  deriving DecidableEq, Repr

inductive TaskPriority where
  | low | normal | high | critical
  deriving DecidableEq, Repr

inductive ThreadpoolError where
  | success | invalidArg | memory | shutdown | queueFull
  deriving DecidableEq, Repr

/-- A task without its next pointer. Functions and arguments are pointers that may be null. -/
structure ThreadpoolTask where
  function : Option Nat
  argument : Option Nat
  cleanup : Option Nat
  priority : TaskPriority
  taskId : Nat
  createdTime : Nat
  timeoutMs : Nat
  deriving DecidableEq, Repr

structure ThreadpoolStatistics where
  totalTasksSubmitted : Nat
  totalTasksCompleted : Nat
  queueLength : Nat
  maxQueueLength : Nat
  totalExecutionTime : Nat
  averageWaitTime : Nat

structure ThreadpoolConfig where
  queueSize : Nat

/-- The queue fields of the pool and the heap that holds its tasks.
Memory bounds the number of queued tasks far below the range of the 64-bit counters. -/
structure Threadpool where
  taskQueueHigh : Option Nat
  taskQueueNormal : Option Nat
  taskQueueLow : Option Nat
  taskQueueTail : Option Nat
  state : ThreadpoolState
  stats : ThreadpoolStatistics
  config : ThreadpoolConfig
  taskCounter : Nat
  heap : Heap ThreadpoolTask

/-- The three queue heads. -/
inductive QueueClass where
  | high | normal | low
  deriving DecidableEq, Repr

/-- The switch that picks the queue head. -/
def TaskPriority.queueClass : TaskPriority → QueueClass
  | .low => .low
  | .normal => .normal
  | .high => .high
  | .critical => .high

def Threadpool.queueHead (pool : Threadpool) : QueueClass → Option Nat
  | .high => pool.taskQueueHigh
  | .normal => pool.taskQueueNormal
  | .low => pool.taskQueueLow

def Threadpool.setQueueHead (pool : Threadpool) (task : Option Nat) : QueueClass → Threadpool
  | .high => { pool with taskQueueHigh := task }
  | .normal => { pool with taskQueueNormal := task }
  | .low => { pool with taskQueueLow := task }

/-- The pool is zeroed, counts its tasks from one, and runs. -/
def threadpoolCreate (config : ThreadpoolConfig) : Threadpool where
  taskQueueHigh := none
  taskQueueNormal := none
  taskQueueLow := none
  taskQueueTail := none
  state := .running
  stats := ⟨0, 0, 0, 0, 0, 0⟩
  config := config
  taskCounter := 1
  heap := fun _ => none

/-- An allocator may refuse any call. An address that it returns is never live.
The seed lets it answer differently each time. -/
structure Allocator where
  malloc : Nat → Heap ThreadpoolTask → Option Nat
  fresh : ∀ seed heap address, malloc seed heap = some address → heap address = none

/-- What a caller asks for. -/
structure TaskRequest where
  function : Option Nat
  argument : Option Nat
  cleanup : Option Nat
  deriving DecidableEq, Repr

/-- The clock in microseconds and the seed of the allocator during one call. -/
structure CallContext where
  now : Nat
  seed : Nat
  deriving DecidableEq, Repr

def newTask (request : TaskRequest) (priority : TaskPriority) (timeoutMs taskId now : Nat) :
    ThreadpoolTask :=
  ⟨request.function, request.argument, request.cleanup, priority, taskId, now / 1000, timeoutMs⟩

/-- Both add functions take a task number before they allocate the task. -/
def createTask (allocator : Allocator) (pool : Threadpool) (request : TaskRequest)
    (priority : TaskPriority) (timeoutMs : Nat) (context : CallContext) :
    Option (Nat × ThreadpoolTask) :=
  (allocator.malloc context.seed pool.heap).map fun address =>
    (address, newTask request priority timeoutMs pool.taskCounter context.now)

def nextTaskId (pool : Threadpool) : Threadpool := { pool with taskCounter := pool.taskCounter + 1 }

def storeTask (pool : Threadpool) (address : Nat) (task : ThreadpoolTask) (next : Option Nat) :
    Threadpool :=
  { pool with heap := Function.update pool.heap address (some ⟨task, next⟩) }

/-- The statistics behind both add functions. -/
def countSubmitted (pool : Threadpool) : Threadpool :=
  { pool with stats := { pool.stats with
    queueLength := pool.stats.queueLength + 1
    totalTasksSubmitted := pool.stats.totalTasksSubmitted + 1
    maxQueueLength := max (pool.stats.queueLength + 1) pool.stats.maxQueueLength } }

/-- An empty queue starts with the task. Any other queue relies on the shared tail pointer.
The result is absent when the tail pointer is null or dangling. -/
def linkTask (pool : Threadpool) (queue : QueueClass) (address : Nat) : Option Threadpool :=
  match pool.queueHead queue with
  | none => some { pool.setQueueHead (some address) queue with taskQueueTail := some address }
  | some _ =>
      match pool.taskQueueTail with
      | none => none
      | some tail =>
          (pool.heap tail).map fun cell =>
            { pool with
              heap := Function.update pool.heap tail (some { cell with next := some address })
              taskQueueTail := some address }

/-- The events of the queue operations. -/
inductive PoolEvent where
  | added (task : ThreadpoolTask)
  | addedUrgent (task : ThreadpoolTask)
  | returned (task : Option ThreadpoolTask)
  | refused (error : ThreadpoolError)
  | crashed
  deriving DecidableEq, Repr

/-- The tests in front of the creation of a task. -/
def addTaskRefusal (pool : Threadpool) (request : TaskRequest) : Option ThreadpoolError :=
  if request.function = none then some .invalidArg
  else if pool.state ≠ .running then some .shutdown
  else if 0 < pool.config.queueSize ∧ pool.config.queueSize ≤ pool.stats.queueLength then
    some .queueFull
  else none

/-- The pool is absent after a call has used a null pointer. -/
def threadpoolAddTask (allocator : Allocator) (pool : Threadpool) (request : TaskRequest)
    (priority : TaskPriority) (timeoutMs : Nat) (context : CallContext) :
    Option Threadpool × PoolEvent :=
  match addTaskRefusal pool request with
  | some error => (some pool, .refused error)
  | none =>
      match createTask allocator pool request priority timeoutMs context with
      | none => (some (nextTaskId pool), .refused .memory)
      | some (address, task) =>
          match linkTask (storeTask (nextTaskId pool) address task none) priority.queueClass address with
          | none => (none, .crashed)
          | some linked => (some (countSubmitted linked), .added task)

/-- An urgent task ignores the size of the queue. -/
def addUrgentTaskRefusal (pool : Threadpool) (request : TaskRequest) : Option ThreadpoolError :=
  if request.function = none then some .invalidArg
  else if pool.state ≠ .running then some .shutdown
  else none

/-- An urgent task goes to the head of the high queue.
It becomes the tail only when there is no tail. -/
def pushTask (pool : Threadpool) (address : Nat) : Threadpool :=
  { pool with
    taskQueueHigh := some address
    taskQueueTail := if pool.taskQueueTail = none then some address else pool.taskQueueTail }

def threadpoolAddUrgentTask (allocator : Allocator) (pool : Threadpool) (request : TaskRequest)
    (context : CallContext) : Option Threadpool × PoolEvent :=
  match addUrgentTaskRefusal pool request with
  | some error => (some pool, .refused error)
  | none =>
      match createTask allocator pool request .critical 0 context with
      | none => (some (nextTaskId pool), .refused .memory)
      | some (address, task) =>
          (some (countSubmitted
            (pushTask (storeTask (nextTaskId pool) address task pool.taskQueueHigh) address)),
            .addedUrgent task)

/-- The first queue that is not empty, in the order of the branches. -/
def nextQueue (pool : Threadpool) : Option (QueueClass × Nat) :=
  match pool.taskQueueHigh, pool.taskQueueNormal, pool.taskQueueLow with
  | some task, _, _ => some (.high, task)
  | none, some task, _ => some (.normal, task)
  | none, none, some task => some (.low, task)
  | none, none, none => none

/-- The statistics of a task that leaves the queues. The clock is monotonic. -/
def countCompleted (pool : Threadpool) (task : ThreadpoolTask) (now : Nat) : Threadpool :=
  let completed := pool.stats.totalTasksCompleted + 1
  let total := pool.stats.totalExecutionTime + (now / 1000 - task.createdTime)
  { pool with stats := { pool.stats with
    queueLength := pool.stats.queueLength - 1
    totalTasksCompleted := completed
    totalExecutionTime := total
    averageWaitTime := total / completed } }

/-- The head of the queue is unlinked, and the tail pointer is cleared only if it is this task. -/
def unlinkTask (pool : Threadpool) (queue : QueueClass) (address : Nat) (next : Option Nat) :
    Threadpool :=
  { pool.setQueueHead next queue with
    taskQueueTail := if pool.taskQueueTail = some address then none else pool.taskQueueTail }

/-- The worker frees the task after it has run.
Freeing it at once leaves the allocator every choice that it has later. -/
def destroyTask (pool : Threadpool) (address : Nat) : Threadpool :=
  { pool with heap := Function.update pool.heap address none }

def getNextTask (pool : Threadpool) (now : Nat) : Option Threadpool × PoolEvent :=
  match nextQueue pool with
  | none => (some pool, .returned none)
  | some (queue, address) =>
      match pool.heap address with
      | none => (none, .crashed)
      | some cell =>
          (some (destroyTask
            (countCompleted (unlinkTask pool queue address cell.next) cell.value now) address),
            .returned (some cell.value))

/-- One call under the queue mutex. -/
inductive PoolOperation where
  | addTask (request : TaskRequest) (priority : TaskPriority) (timeoutMs : Nat) (context : CallContext)
  | addUrgentTask (request : TaskRequest) (context : CallContext)
  | getNextTask (now : Nat)
  deriving DecidableEq, Repr

/-- A pool that has crashed takes no further call. -/
def poolMachine (allocator : Allocator) : Machine (Option Threadpool) PoolOperation PoolEvent where
  step state operation :=
    match state with
    | none => (none, [])
    | some pool =>
        let (next, event) := match operation with
          | .addTask request priority timeoutMs context =>
              threadpoolAddTask allocator pool request priority timeoutMs context
          | .addUrgentTask request context => threadpoolAddUrgentTask allocator pool request context
          | .getNextTask now => getNextTask pool now
        (next, [event])

end SecureChat.ThreadPool
