import SecureChat.Construction.ThreadPool
import SecureChat.Library.SharedTail

namespace SecureChat.ThreadPool
open Library

/-- One list for each queue class. -/
def total {α : Type*} (lists : QueueClass → List α) : Nat :=
  (lists .high).length + (lists .normal).length + (lists .low).length

theorem total_update {α : Type*} (lists : QueueClass → List α) (queue : QueueClass) (list : List α) :
    total (Function.update lists queue list) + (lists queue).length = total lists + list.length := by
  cases queue <;> simp [total, Function.update] <;> omega

/-- A new head and a new tail leave the other heads alone. -/
theorem setQueueHead_queueHead (pool : Threadpool) (task tail : Option Nat) (queue : QueueClass) :
    Threadpool.queueHead { pool.setQueueHead task queue with taskQueueTail := tail } =
      Function.update pool.queueHead queue task := by
  funext other
  cases queue <;> cases other <;> rfl

theorem setQueueHead_heap (pool : Threadpool) (task : Option Nat) (queue : QueueClass) :
    (pool.setQueueHead task queue).heap = pool.heap := by
  cases queue <;> rfl

theorem setQueueHead_stats (pool : Threadpool) (task : Option Nat) (queue : QueueClass) :
    (pool.setQueueHead task queue).stats = pool.stats := by
  cases queue <;> rfl

/-- The pool holds the queues in the given cells.
The high queue is empty whenever the tail pointer is null. -/
structure Represents (pool : Threadpool) (cells : QueueClass → List Nat)
    (queues : QueueClass → List ThreadpoolTask) : Prop where
  linked : SharedTail pool.heap pool.queueHead pool.taskQueueTail cells
  idle : pool.taskQueueTail = none → cells .high = []
  holds : (fun queue => contents pool.heap (cells queue)) = queues
  length : pool.stats.queueLength = total cells

theorem represents_create (config : ThreadpoolConfig) :
    Represents (threadpoolCreate config) (fun _ => []) (fun _ => []) where
  linked := by
    constructor
    · intro queue
      cases queue <;> exact .nil
    · exact fun _ => List.nodup_nil
    · exact fun _ _ _ _ member => absurd member List.not_mem_nil
    · exact fun _ missing => nomatch missing
  idle := fun _ => rfl
  holds := rfl
  length := rfl

/-- The head of a queue is null exactly when the queue is empty. -/
theorem Represents.head_none {pool : Threadpool} {cells : QueueClass → List Nat}
    {queues : QueueClass → List ThreadpoolTask} (represents : Represents pool cells queues)
    (queue : QueueClass) (empty : pool.queueHead queue = none) :
    cells queue = [] ∧ queues queue = [] := by
  have chain := represents.linked.chain queue
  rw [empty] at chain
  rw [← represents.holds]
  simp only [chain.eq_nil]
  exact ⟨trivial, rfl⟩

/-- A queue with a head starts with the task of this cell. -/
theorem Represents.head_some {pool : Threadpool} {cells : QueueClass → List Nat}
    {queues : QueueClass → List ThreadpoolTask} (represents : Represents pool cells queues)
    (queue : QueueClass) (address : Nat) (front : pool.queueHead queue = some address) :
    ∃ cell rest, pool.heap address = some cell ∧ cells queue = address :: rest ∧
      Chain pool.heap cell.next rest ∧ queues queue = cell.value :: contents pool.heap rest := by
  have chain := represents.linked.chain queue
  rw [front] at chain
  obtain ⟨cell, rest, split, stored, later⟩ := chain.uncons
  refine ⟨cell, rest, stored, split, later, ?_⟩
  rw [← represents.holds]
  simp only [split]
  exact contents_cons _ _ _ _ stored

/-- What a created task needs before it can be linked. -/
structure Stored (pool : Threadpool) (cells : QueueClass → List Nat) (address : Nat)
    (task : ThreadpoolTask) (next : Option Nat) : Prop where
  cell : pool.heap address = some ⟨task, next⟩
  outside : ∀ queue, address ∉ cells queue

section Operations

variable {pool : Threadpool} {cells : QueueClass → List Nat}
  {queues : QueueClass → List ThreadpoolTask}

/-- A new task lies outside all queues. -/
theorem Represents.store (represents : Represents pool cells queues) (address : Nat)
    (dead : pool.heap address = none) (task : ThreadpoolTask) (next : Option Nat) :
    Represents (storeTask (nextTaskId pool) address task next) cells queues ∧
      Stored (storeTask (nextTaskId pool) address task next) cells address task next := by
  have outside := represents.linked.table.outside address dead
  constructor
  · constructor
    · exact represents.linked.update address _ outside
    · exact represents.idle
    · rw [← represents.holds]
      funext queue
      exact contents_update _ _ _ _ (outside queue)
    · exact represents.length
  · exact ⟨Function.update_self _ _ _, outside⟩

/-- A link keeps the contents of all queues but one, which gets the task at its end. -/
theorem contents_linked (heap linked : Heap ThreadpoolTask) (queue : QueueClass) (address : Nat)
    (task : ThreadpoolTask) (next : Option Nat) (stored : heap address = some ⟨task, next⟩)
    (kept : ∀ list, contents linked list = contents heap list) :
    (fun other => contents linked (Function.update cells queue (cells queue ++ [address]) other)) =
      Function.update (fun other => contents heap (cells other)) queue
        (contents heap (cells queue) ++ [task]) := by
  funext other
  rw [kept]
  by_cases same : other = queue
  · subst same
    rw [Function.update_self, Function.update_self, contents_append, contents_cons _ _ _ _ stored]
    rfl
  · rw [Function.update_of_ne same, Function.update_of_ne same]

theorem total_append (lists : QueueClass → List Nat) (queue : QueueClass) (address : Nat) :
    total (Function.update lists queue (lists queue ++ [address])) = total lists + 1 := by
  have counted := total_update lists queue (lists queue ++ [address])
  rw [List.length_append, List.length_singleton] at counted
  omega

/-- A task that starts or extends a queue, once the queues are linked again. -/
theorem Represents.added (represents : Represents pool cells queues) (next : Threadpool)
    (target : QueueClass) (address : Nat) (task : ThreadpoolTask)
    (stored : Stored pool cells address task none)
    (linked : SharedTail next.heap next.queueHead next.taskQueueTail
      (Function.update cells target (cells target ++ [address])))
    (tail : next.taskQueueTail = some address) (stats : next.stats = pool.stats)
    (kept : ∀ list, contents next.heap list = contents pool.heap list) :
    Represents (countSubmitted next) (Function.update cells target (cells target ++ [address]))
      (Function.update queues target (queues target ++ [task])) where
  linked := linked
  idle := by
    intro missing
    cases tail.symm.trans missing
  holds := by
    rw [← represents.holds]
    exact contents_linked pool.heap next.heap target address task none stored.cell kept
  length := by
    rw [total_append, ← represents.length, ← stats]
    rfl

/-- What linking a task can do.
It uses a null pointer, or it appends the task to the queue of its class or to the tail's queue. -/
theorem linkTask_cases (represents : Represents pool cells queues) (queue : QueueClass)
    (address : Nat) (task : ThreadpoolTask) (stored : Stored pool cells address task none) :
    (linkTask pool queue address = none ∧ pool.queueHead queue ≠ none ∧ pool.taskQueueTail = none) ∨
    ∃ next target moved, linkTask pool queue address = some next ∧
      Represents (countSubmitted next) moved
        (Function.update queues target (queues target ++ [task])) ∧
      (target = queue ∨ pool.queueHead queue ≠ none ∧ ∃ last, pool.taskQueueTail = some last ∧
        (cells target).getLast? = some last) := by
  unfold linkTask
  cases front : pool.queueHead queue with
  | none =>
      have empty := (represents.head_none queue front).1
      have started := represents.linked.start queue address _ stored.cell rfl stored.outside
      apply Or.inr
      refine ⟨_, queue, _, rfl, represents.added _ queue address task stored ?_ rfl ?_ ?_, .inl rfl⟩
      · rw [setQueueHead_queueHead, empty, List.nil_append]
        dsimp only
        rw [setQueueHead_heap]
        exact started
      · exact setQueueHead_stats pool (some address) queue
      · intro list
        exact congrArg (contents · list) (setQueueHead_heap pool (some address) queue)
  | some first =>
      cases tail : pool.taskQueueTail with
      | none => exact .inl ⟨rfl, by simp, rfl⟩
      | some last =>
          obtain ⟨target, ends⟩ := represents.linked.last last tail
          obtain ⟨cell, held⟩ := (represents.linked.chain target).live last (List.mem_of_getLast? ends)
          have appended := represents.linked.append target last address ends cell _ held stored.cell rfl
            stored.outside
          dsimp only
          rw [held]
          apply Or.inr
          refine ⟨_, target, _, rfl, represents.added _ target address task stored appended rfl rfl ?_,
            .inr ⟨by simp, last, rfl, ends⟩⟩
          intro list
          exact contents_link pool.heap list last cell (some address) held

/-- An urgent task becomes the first one of the high queue. -/
theorem Represents.push (represents : Represents pool cells queues) (address : Nat)
    (task : ThreadpoolTask) (stored : Stored pool cells address task pool.taskQueueHigh) :
    ∃ moved, Represents (countSubmitted (pushTask pool address)) moved
      (Function.update queues .high (task :: queues .high)) := by
  have pushed := represents.linked.push .high address _ stored.cell rfl stored.outside represents.idle
  have head : (countSubmitted (pushTask pool address)).queueHead =
      Function.update pool.queueHead .high (some address) := by
    funext queue
    cases queue <;> rfl
  refine ⟨Function.update cells .high (address :: cells .high), ?_, ?_, ?_, ?_⟩
  · rw [head]
    exact pushed
  · intro missing
    have tail : (if pool.taskQueueTail = none then some address else pool.taskQueueTail) = none := missing
    split at tail
    · cases tail
    · rename_i present
      exact absurd tail present
  · rw [← represents.holds]
    funext queue
    by_cases same : queue = .high
    · subst same
      rw [Function.update_self, Function.update_self]
      exact contents_cons _ _ _ _ stored.cell
    · rw [Function.update_of_ne same, Function.update_of_ne same]
      rfl
  · have counted := total_update cells .high (address :: cells .high)
    have before := represents.length
    rw [List.length_cons] at counted
    show pool.stats.queueLength + 1 = _
    omega

/-- The tail pointer is lost only with the last task of the high queue. -/
theorem Represents.last_popped (represents : Represents pool cells queues) (address : Nat)
    (rest : List Nat) (split : cells .high = address :: rest)
    (missing : (if pool.taskQueueTail = some address then none else pool.taskQueueTail) = none) :
    rest = [] := by
  split at missing
  · rename_i tail
    obtain ⟨owner, ends⟩ := represents.linked.last address tail
    have apart := represents.linked.distinct .high
    rw [split, List.nodup_cons] at apart
    by_cases high : owner = .high
    · subst high
      rw [split] at ends
      cases rest with
      | nil => rfl
      | cons second rest =>
          rw [List.getLast?_cons_cons] at ends
          exact absurd (List.mem_of_getLast? ends) apart.1
    · have member : address ∈ cells .high := by
        rw [split]
        exact List.mem_cons_self
      exact absurd member (represents.linked.disjoint owner .high high (List.mem_of_getLast? ends))
  · have empty := represents.idle missing
    rw [split] at empty
    cases empty

/-- A task that leaves its queue was the first one there. -/
theorem Represents.pop (represents : Represents pool cells queues) (queue : QueueClass)
    (address now : Nat) (front : pool.queueHead queue = some address)
    (first : queue = .high ∨ pool.taskQueueHigh = none) :
    ∃ cell rest moved, pool.heap address = some cell ∧ queues queue = cell.value :: rest ∧
      Represents (destroyTask (countCompleted (unlinkTask pool queue address cell.next) cell.value now)
        address) moved (Function.update queues queue rest) := by
  obtain ⟨cell, rest, stored, split, later, holds⟩ := represents.head_some queue address front
  have popped := represents.linked.pop queue address cell.next rest split later
  have apart := represents.linked.distinct queue
  rw [split, List.nodup_cons] at apart
  have heap : (unlinkTask pool queue address cell.next).heap = pool.heap :=
    setQueueHead_heap pool cell.next queue
  have stats : (unlinkTask pool queue address cell.next).stats = pool.stats :=
    setQueueHead_stats pool cell.next queue
  have head : (unlinkTask pool queue address cell.next).queueHead =
      Function.update pool.queueHead queue cell.next := setQueueHead_queueHead pool cell.next _ queue
  refine ⟨cell, contents pool.heap rest, Function.update cells queue rest, stored, holds, ?_, ?_, ?_, ?_⟩
  · rw [← head, ← heap] at popped
    exact popped
  · intro missing
    by_cases high : queue = .high
    · subst high
      rw [Function.update_self]
      exact represents.last_popped address rest split missing
    · rw [Function.update_of_ne (Ne.symm high)]
      exact (represents.head_none .high (first.resolve_left high)).1
  · rw [← represents.holds]
    funext other
    show contents (Function.update (unlinkTask pool queue address cell.next).heap address none)
      (Function.update cells queue rest other) = _
    rw [heap]
    by_cases same : other = queue
    · subst same
      rw [Function.update_self, Function.update_self]
      exact contents_update _ _ _ _ apart.1
    · rw [Function.update_of_ne same, Function.update_of_ne same]
      apply contents_update
      intro member
      apply represents.linked.disjoint other queue same member
      rw [split]
      exact List.mem_cons_self
  · have counted := total_update cells queue rest
    have before := represents.length
    rw [split, List.length_cons] at counted
    show (unlinkTask pool queue address cell.next).stats.queueLength - 1 = _
    rw [stats]
    omega

/-- A refused call leaves the queues as they are. -/
theorem Represents.nextTaskId (represents : Represents pool cells queues) :
    Represents (nextTaskId pool) cells queues :=
  ⟨represents.linked, represents.idle, represents.holds, represents.length⟩

variable (allocator : Allocator)

/-- The call gets as far as the creation of its task. -/
def Creates (pool : Threadpool) (request : TaskRequest) (context : CallContext) : Prop :=
  addTaskRefusal pool request = none ∧ allocator.malloc context.seed pool.heap ≠ none

/-- What adding a task can do. -/
theorem threadpoolAddTask_cases (represents : Represents pool cells queues) (request : TaskRequest)
    (priority : TaskPriority) (timeoutMs : Nat) (context : CallContext) :
    (∃ next error, threadpoolAddTask allocator pool request priority timeoutMs context =
      (some next, .refused error) ∧ Represents next cells queues) ∨
    (Creates allocator pool request context ∧
      ((threadpoolAddTask allocator pool request priority timeoutMs context = (none, .crashed) ∧
        pool.queueHead priority.queueClass ≠ none ∧ pool.taskQueueTail = none) ∨
      ∃ next target moved task, task.priority = priority ∧
        threadpoolAddTask allocator pool request priority timeoutMs context =
          (some next, .added task) ∧
        Represents next moved (Function.update queues target (queues target ++ [task])) ∧
        (target = priority.queueClass ∨ pool.queueHead priority.queueClass ≠ none ∧
          ∃ last, pool.taskQueueTail = some last ∧ (cells target).getLast? = some last))) := by
  unfold threadpoolAddTask createTask Creates
  cases refusal : addTaskRefusal pool request with
  | some error => exact .inl ⟨pool, error, rfl, represents⟩
  | none =>
      cases allocated : allocator.malloc context.seed pool.heap with
      | none => exact .inl ⟨ThreadPool.nextTaskId pool, .memory, rfl, represents.nextTaskId⟩
      | some address =>
          have dead := allocator.fresh _ _ _ allocated
          obtain ⟨stored, cell⟩ := represents.store address dead
            (newTask request priority timeoutMs pool.taskCounter context.now) none
          apply Or.inr
          refine ⟨⟨rfl, by simp⟩, ?_⟩
          rcases linkTask_cases stored priority.queueClass address _ cell with
            ⟨crashed, occupied, missing⟩ | ⟨next, target, moved, linked, after, place⟩
          · apply Or.inl
            dsimp only [Option.map_some]
            rw [crashed]
            exact ⟨rfl, occupied, missing⟩
          · apply Or.inr
            refine ⟨countSubmitted next, target, moved, _, rfl, ?_, after, place⟩
            dsimp only [Option.map_some]
            rw [linked]

/-- What adding an urgent task can do. -/
theorem threadpoolAddUrgentTask_cases (represents : Represents pool cells queues)
    (request : TaskRequest) (context : CallContext) :
    (∃ next error, threadpoolAddUrgentTask allocator pool request context =
      (some next, .refused error) ∧ Represents next cells queues) ∨
    ∃ next moved task, task.priority = .critical ∧
      threadpoolAddUrgentTask allocator pool request context = (some next, .addedUrgent task) ∧
      Represents next moved (Function.update queues .high (task :: queues .high)) := by
  unfold threadpoolAddUrgentTask createTask
  cases refusal : addUrgentTaskRefusal pool request with
  | some error => exact .inl ⟨pool, error, rfl, represents⟩
  | none =>
      cases allocated : allocator.malloc context.seed pool.heap with
      | none => exact .inl ⟨ThreadPool.nextTaskId pool, .memory, rfl, represents.nextTaskId⟩
      | some address =>
          have dead := allocator.fresh _ _ _ allocated
          obtain ⟨stored, cell⟩ := represents.store address dead
            (newTask request .critical 0 pool.taskCounter context.now) pool.taskQueueHigh
          obtain ⟨moved, pushed⟩ := stored.push address _ cell
          exact .inr ⟨_, moved, _, rfl, rfl, pushed⟩

end Operations

/-- The oldest task of the first class that has one, and the queues without it. -/
def takeNext (queues : QueueClass → List ThreadpoolTask) :
    Option ThreadpoolTask × (QueueClass → List ThreadpoolTask) :=
  match queues .high, queues .normal, queues .low with
  | task :: rest, _, _ => (some task, Function.update queues .high rest)
  | [], task :: rest, _ => (some task, Function.update queues .normal rest)
  | [], [], task :: rest => (some task, Function.update queues .low rest)
  | [], [], [] => (none, queues)

/-- The next task is the oldest one of the first class that has one. -/
theorem getNextTask_cases {pool : Threadpool} {cells : QueueClass → List Nat}
    {queues : QueueClass → List ThreadpoolTask} (represents : Represents pool cells queues) (now : Nat) :
    ∃ next moved, getNextTask pool now = (some next, .returned (takeNext queues).1) ∧
      Represents next moved (takeNext queues).2 := by
  unfold getNextTask nextQueue takeNext
  cases high : pool.taskQueueHigh with
  | some address =>
      obtain ⟨cell, rest, moved, stored, holds, after⟩ :=
        represents.pop .high address now high (.inl rfl)
      dsimp only
      rw [stored, holds]
      exact ⟨_, moved, rfl, after⟩
  | none =>
      rw [(represents.head_none .high high).2]
      cases normal : pool.taskQueueNormal with
      | some address =>
          obtain ⟨cell, rest, moved, stored, holds, after⟩ :=
            represents.pop .normal address now normal (.inr high)
          dsimp only
          rw [stored, holds]
          exact ⟨_, moved, rfl, after⟩
      | none =>
          rw [(represents.head_none .normal normal).2]
          cases low : pool.taskQueueLow with
          | some address =>
              obtain ⟨cell, rest, moved, stored, holds, after⟩ :=
                represents.pop .low address now low (.inr high)
              dsimp only
              rw [stored, holds]
              exact ⟨_, moved, rfl, after⟩
          | none =>
              rw [(represents.head_none .low low).2]
              exact ⟨pool, cells, rfl, represents⟩

end SecureChat.ThreadPool
