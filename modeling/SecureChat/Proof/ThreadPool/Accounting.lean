import SecureChat.Proof.ThreadPool.Queues
import Mathlib.Algebra.Order.Group.Multiset
import Mathlib.Tactic.Abel

namespace SecureChat.ThreadPool
open Library

/-- Three first-in first-out queues with strict priority between them.
A returned task has to be the oldest one of the first class that has one. -/
def accept (queues : QueueClass → List ThreadpoolTask) :
    PoolEvent → Option (QueueClass → List ThreadpoolTask)
  | .added task => some (Function.update queues task.priority.queueClass
      (queues task.priority.queueClass ++ [task]))
  | .addedUrgent task => some (Function.update queues .high (task :: queues .high))
  | .returned task => if task = (takeNext queues).1 then some (takeNext queues).2 else none
  | .refused _ => some queues
  | .crashed => none

/-- The events are a run of the three queues, from empty ones on. -/
def PriorityFifo (events : List PoolEvent) : Prop := (events.foldlM accept fun _ => []).isSome

instance (events : List PoolEvent) : Decidable (PriorityFifo events) :=
  inferInstanceAs (Decidable (_ = true))

/-- The tail pointer points at a task of this class, unless the queue of the class is empty. -/
def TailFits (pool : Threadpool) (queue : QueueClass) : Prop :=
  pool.queueHead queue ≠ none → ∃ last cell, pool.taskQueueTail = some last ∧
    pool.heap last = some cell ∧ cell.value.priority.queueClass = queue

/-- Each call that creates a task for a non-empty queue finds the tail in this queue. -/
def AddsBehindOwnClass (allocator : Allocator) (state : Option Threadpool)
    (operation : PoolOperation) : Prop :=
  match state, operation with
  | some pool, .addTask request priority _ context =>
      Creates allocator pool request context → TailFits pool priority.queueClass
  | _, _ => True

/-- Every task lies in the queue of its class. -/
def InOwnClass (queues : QueueClass → List ThreadpoolTask) : Prop :=
  ∀ queue, ∀ task ∈ queues queue, task.priority.queueClass = queue

theorem InOwnClass.update {queues : QueueClass → List ThreadpoolTask} (sorted : InOwnClass queues)
    (queue : QueueClass) (list : List ThreadpoolTask)
    (own : ∀ task ∈ list, task.priority.queueClass = queue) :
    InOwnClass (Function.update queues queue list) := by
  intro other task member
  by_cases same : other = queue
  · subst same
    rw [Function.update_self] at member
    exact own task member
  · rw [Function.update_of_ne same] at member
    exact sorted other task member

theorem InOwnClass.takeNext {queues : QueueClass → List ThreadpoolTask} (sorted : InOwnClass queues) :
    InOwnClass (takeNext queues).2 := by
  have tail : ∀ queue task rest, queues queue = task :: rest →
      InOwnClass (Function.update queues queue rest) := by
    intro queue task rest split
    apply sorted.update
    intro other member
    apply sorted queue
    rw [split]
    exact List.mem_cons_of_mem _ member
  unfold ThreadPool.takeNext
  split
  · rename_i split
    exact tail .high _ _ split
  · rename_i split
    exact tail .normal _ _ split
  · rename_i split
    exact tail .low _ _ split
  · exact sorted

/-- The pool holds queues whose tasks all lie in the queue of their class. -/
def HoldsOwnClasses (state : Option Threadpool) (queues : QueueClass → List ThreadpoolTask) : Prop :=
  ∃ pool cells, state = some pool ∧ Represents pool cells queues ∧ InOwnClass queues

/-- The queue that the tail belongs to is the queue of the class of its task. -/
theorem Represents.tail_queue {pool : Threadpool} {cells : QueueClass → List Nat}
    {queues : QueueClass → List ThreadpoolTask} (represents : Represents pool cells queues)
    (sorted : InOwnClass queues) (target : QueueClass) (last : Nat) (cell : Cell ThreadpoolTask)
    (ends : (cells target).getLast? = some last) (stored : pool.heap last = some cell) :
    cell.value.priority.queueClass = target := by
  apply sorted target
  rw [← represents.holds]
  apply List.mem_filterMap.mpr
  exact ⟨last, List.mem_of_getLast? ends, by rw [stored]; rfl⟩

/-- Every call that meets the condition is a step of the three queues. -/
theorem poolMachine_accepted (allocator : Allocator) (state : Option Threadpool)
    (queues : QueueClass → List ThreadpoolTask) (operation : PoolOperation)
    (holds : HoldsOwnClasses state queues) (fits : AddsBehindOwnClass allocator state operation) :
    ∃ next, ((poolMachine allocator).step state operation).2.foldlM accept queues = some next ∧
      HoldsOwnClasses ((poolMachine allocator).step state operation).1 next := by
  obtain ⟨pool, cells, rfl, represents, sorted⟩ := holds
  cases operation with
  | addTask request priority timeoutMs context =>
      dsimp only [poolMachine]
      rcases threadpoolAddTask_cases allocator represents request priority timeoutMs context with
        ⟨next, error, result, kept⟩ | ⟨creates, ⟨crashed, occupied, missing⟩ |
          ⟨next, target, moved, task, own, result, after, place⟩⟩
      · rw [result]
        exact ⟨queues, rfl, next, cells, rfl, kept, sorted⟩
      · obtain ⟨last, cell, present, -, -⟩ := fits creates occupied
        rw [missing] at present
        cases present
      · have ownQueue : target = priority.queueClass := by
          rcases place with same | ⟨occupied, last, tail, ends⟩
          · exact same
          · obtain ⟨found, cell, present, stored, sameClass⟩ := fits creates occupied
            obtain rfl : last = found := Option.some.inj (tail.symm.trans present)
            exact (represents.tail_queue sorted target last cell ends stored).symm.trans sameClass
        rw [result]
        subst own
        subst ownQueue
        refine ⟨_, rfl, next, moved, rfl, after, ?_⟩
        apply sorted.update
        intro other member
        rw [List.mem_append, List.mem_singleton] at member
        rcases member with member | rfl
        · exact sorted _ other member
        · rfl
  | addUrgentTask request context =>
      dsimp only [poolMachine]
      rcases threadpoolAddUrgentTask_cases allocator represents request context with
        ⟨next, error, result, kept⟩ | ⟨next, moved, task, own, result, after⟩
      · rw [result]
        exact ⟨queues, rfl, next, cells, rfl, kept, sorted⟩
      · rw [result]
        refine ⟨_, rfl, next, moved, rfl, after, ?_⟩
        apply sorted.update
        intro other member
        rw [List.mem_cons] at member
        rcases member with rfl | member
        · rw [own]
          rfl
        · exact sorted _ other member
  | getNextTask now =>
      dsimp only [poolMachine]
      obtain ⟨next, moved, result, after⟩ := getNextTask_cases represents now
      rw [result]
      refine ⟨(takeNext queues).2, ?_, next, moved, rfl, after, sorted.takeNext⟩
      simp [accept]

/-- Runs that meet the condition refine three first-in first-out queues. -/
theorem poolMachine_priorityFifo (allocator : Allocator) (config : ThreadpoolConfig)
    (operations : List PoolOperation)
    (fits : (poolMachine allocator).Along (AddsBehindOwnClass allocator)
      (some (threadpoolCreate config)) operations) :
    PriorityFifo ((poolMachine allocator).run (some (threadpoolCreate config)) operations).2 := by
  have initial : HoldsOwnClasses (some (threadpoolCreate config)) fun _ => [] :=
    ⟨_, _, rfl, represents_create config, fun _ _ member => absurd member List.not_mem_nil⟩
  obtain ⟨final, accepted, -⟩ := (poolMachine allocator).run_accepted accept
    (AddsBehindOwnClass allocator) HoldsOwnClasses (poolMachine_accepted allocator) _ _ operations
    initial fits
  rw [PriorityFifo, accepted]
  rfl

/-- The allocator returns the address that the seed names, if it is free. -/
def sampleAllocator : Allocator where
  malloc seed heap := match heap seed with
    | none => some seed
    | some _ => none
  fresh seed heap address allocated := by
    split at allocated
    · rename_i dead
      obtain rfl := Option.some.inj allocated
      exact dead
    · cases allocated

/-- A call that adds a task of the given priority at the given address. -/
def sampleAdd (priority : TaskPriority) (address : Nat) : PoolOperation :=
  .addTask ⟨some 1, none, none⟩ priority 0 ⟨0, address⟩

/-- Two normal tasks, one urgent task, and one low task after the normal ones have left. -/
def sampleCalls : List PoolOperation :=
  [sampleAdd .normal 1, sampleAdd .normal 2, .addUrgentTask ⟨some 1, none, none⟩ ⟨0, 3⟩,
    .getNextTask 0, .getNextTask 0, .getNextTask 0, sampleAdd .low 1, .getNextTask 0]

theorem poolMachine_priorityFifo_calls :
    (poolMachine sampleAllocator).Along (AddsBehindOwnClass sampleAllocator)
      (some (threadpoolCreate ⟨0⟩)) sampleCalls ∧
      PriorityFifo ((poolMachine sampleAllocator).run (some (threadpoolCreate ⟨0⟩)) sampleCalls).2 := by
  have fits : (poolMachine sampleAllocator).Along (AddsBehindOwnClass sampleAllocator)
      (some (threadpoolCreate ⟨0⟩)) sampleCalls := by
    refine ⟨?_, ?_, trivial, trivial, trivial, trivial, ?_, trivial, trivial⟩
    · exact fun _ occupied => absurd rfl occupied
    · exact fun _ _ => ⟨1, _, rfl, rfl, rfl⟩
    · exact fun _ occupied => absurd rfl occupied
  exact ⟨fits, poolMachine_priorityFifo sampleAllocator ⟨0⟩ sampleCalls fits⟩

/-- The low task between two normal tasks takes the second normal task into its queue. -/
theorem poolMachine_mixed_priorities_fail :
    ¬ PriorityFifo ((poolMachine sampleAllocator).run (some (threadpoolCreate ⟨0⟩))
      [sampleAdd .normal 1, sampleAdd .low 2, sampleAdd .normal 3,
        .getNextTask 0, .getNextTask 0, .getNextTask 0]).2 := by
  decide +kernel

/-- The tail pointer is null while a low task waits, and the next low task uses it. -/
example : ((poolMachine sampleAllocator).run (some (threadpoolCreate ⟨0⟩))
    [sampleAdd .low 1, sampleAdd .normal 2, .getNextTask 0, sampleAdd .low 3]).2.getLast? =
      some .crashed := by
  decide +kernel

/-- A cell is reachable when one of the three heads reaches it. -/
def Threadpool.Reachable (pool : Threadpool) (address : Nat) : Prop :=
  ∃ queue, Reaches pool.heap (pool.queueHead queue) address

/-- The tasks that calls have added. -/
def addedTasks (events : List PoolEvent) : List ThreadpoolTask :=
  events.filterMap fun
    | .added task => some task
    | .addedUrgent task => some task
    | _ => none

/-- The tasks that calls have returned. -/
def returnedTasks (events : List PoolEvent) : List ThreadpoolTask :=
  events.filterMap fun
    | .returned task => task
    | _ => none

/-- All tasks of the three queues. -/
def waiting (queues : QueueClass → List ThreadpoolTask) : Multiset ThreadpoolTask :=
  (queues .high : Multiset ThreadpoolTask) + queues .normal + queues .low

/-- A queue that is replaced changes the waiting tasks by the difference. -/
theorem waiting_update (queues : QueueClass → List ThreadpoolTask) (queue : QueueClass)
    (list : List ThreadpoolTask) :
    waiting (Function.update queues queue list) + (queues queue : Multiset ThreadpoolTask) =
      waiting queues + (list : Multiset ThreadpoolTask) := by
  unfold waiting
  cases queue <;> simp only [Function.update_apply, reduceCtorEq, ite_true, ite_false] <;> abel

/-- One more task in a queue is one more waiting task. -/
theorem waiting_insert (queues : QueueClass → List ThreadpoolTask) (queue : QueueClass)
    (list : List ThreadpoolTask) (task : ThreadpoolTask)
    (grown : (list : Multiset ThreadpoolTask) = queues queue + {task}) :
    waiting (Function.update queues queue list) = waiting queues + {task} := by
  have balance := waiting_update queues queue list
  rw [grown, add_comm (queues queue : Multiset ThreadpoolTask), ← add_assoc] at balance
  exact add_right_cancel balance

/-- The next task leaves, and all other tasks wait on. -/
theorem waiting_takeNext (queues : QueueClass → List ThreadpoolTask) :
    waiting queues = (takeNext queues).1.toList + waiting (takeNext queues).2 := by
  have leaves : ∀ queue task rest, queues queue = task :: rest →
      waiting queues = ((some task).toList : Multiset ThreadpoolTask) +
        waiting (Function.update queues queue rest) := by
    intro queue task rest split
    have balance := waiting_update queues queue rest
    rw [split, ← Multiset.cons_coe, ← Multiset.singleton_add, ← add_assoc] at balance
    rw [← add_right_cancel balance, add_comm]
    rfl
  unfold takeNext
  split
  · rename_i split
    exact leaves .high _ _ split
  · rename_i split
    exact leaves .normal _ _ split
  · rename_i split
    exact leaves .low _ _ split
  · simp

/-- The pool has an exact account of the tasks behind the events. -/
def Accounts (state : Option Threadpool) (events : List PoolEvent) : Prop :=
  ∀ pool, state = some pool → ∃ cells queues, Represents pool cells queues ∧
    (addedTasks events : Multiset ThreadpoolTask) = returnedTasks events + waiting queues

/-- One event keeps the account when it moves its tasks in or out of the queues. -/
theorem Accounts.grow {next : Threadpool} {events : List PoolEvent} {event : PoolEvent}
    {moved : QueueClass → List Nat} {queues after : QueueClass → List ThreadpoolTask}
    (balance : (addedTasks events : Multiset ThreadpoolTask) = returnedTasks events + waiting queues)
    (represents : Represents next moved after)
    (change : waiting queues + addedTasks [event] = returnedTasks [event] + waiting after) :
    Accounts (some next) (events ++ [event]) := by
  intro other same
  obtain rfl := Option.some.inj same
  refine ⟨moved, after, represents, ?_⟩
  have added : addedTasks (events ++ [event]) = addedTasks events ++ addedTasks [event] :=
    List.filterMap_append
  have returned : returnedTasks (events ++ [event]) = returnedTasks events ++ returnedTasks [event] :=
    List.filterMap_append
  rw [added, returned, ← Multiset.coe_add, ← Multiset.coe_add, balance, add_assoc, change, add_assoc]

/-- Every call keeps the account. -/
theorem poolMachine_accounts (allocator : Allocator) (state : Option Threadpool)
    (operation : PoolOperation) (events : List PoolEvent) (accounts : Accounts state events) :
    Accounts ((poolMachine allocator).step state operation).1
      (events ++ ((poolMachine allocator).step state operation).2) := by
  cases state with
  | none => exact fun pool missing => nomatch missing
  | some pool =>
      obtain ⟨cells, queues, represents, balance⟩ := accounts pool rfl
      cases operation with
      | addTask request priority timeoutMs context =>
          dsimp only [poolMachine]
          rcases threadpoolAddTask_cases allocator represents request priority timeoutMs context with
            ⟨next, error, result, kept⟩ |
              ⟨-, ⟨crashed, -⟩ | ⟨next, target, moved, task, -, result, after, -⟩⟩
          · rw [result]
            exact .grow balance kept (add_comm _ _)
          · rw [crashed]
            exact fun next missing => nomatch missing
          · rw [result]
            apply Accounts.grow balance after
            rw [waiting_insert queues target _ task rfl]
            exact (zero_add _).symm
      | addUrgentTask request context =>
          dsimp only [poolMachine]
          rcases threadpoolAddUrgentTask_cases allocator represents request context with
            ⟨next, error, result, kept⟩ | ⟨next, moved, task, -, result, after⟩
          · rw [result]
            exact .grow balance kept (add_comm _ _)
          · rw [result]
            apply Accounts.grow balance after
            have grown : ((task :: queues .high : List ThreadpoolTask) : Multiset ThreadpoolTask) =
                queues .high + {task} := by
              rw [← Multiset.cons_coe, ← Multiset.singleton_add, add_comm]
            rw [waiting_insert queues .high _ task grown]
            exact (zero_add _).symm
      | getNextTask now =>
          dsimp only [poolMachine]
          obtain ⟨next, moved, result, after⟩ := getNextTask_cases represents now
          rw [result]
          apply Accounts.grow balance after
          rw [waiting_takeNext queues]
          cases (takeNext queues).1 <;> exact add_zero _

/-- No cell occurs twice in the three queues. -/
theorem Represents.distinct {pool : Threadpool} {cells : QueueClass → List Nat}
    {queues : QueueClass → List ThreadpoolTask} (represents : Represents pool cells queues) :
    (cells .high ++ cells .normal ++ cells .low).Nodup := by
  have linked := represents.linked
  rw [List.nodup_append', List.nodup_append']
  refine ⟨⟨linked.distinct .high, linked.distinct .normal, ?_⟩, linked.distinct .low, ?_⟩
  · exact linked.disjoint .high .normal (by decide)
  · intro address member
    rw [List.mem_append] at member
    rcases member with member | member
    · exact linked.disjoint .high .low (by decide) member
    · exact linked.disjoint .normal .low (by decide) member

/-- The cells of the three queues are the reachable ones. -/
theorem Represents.reachable {pool : Threadpool} {cells : QueueClass → List Nat}
    {queues : QueueClass → List ThreadpoolTask} (represents : Represents pool cells queues)
    (address : Nat) :
    address ∈ cells .high ++ cells .normal ++ cells .low ↔ pool.Reachable address := by
  have reaches := fun queue => (represents.linked.chain queue).mem_iff_reaches address
  rw [List.mem_append, List.mem_append, reaches, reaches, reaches]
  constructor
  · rintro ((high | normal) | low)
    · exact ⟨.high, high⟩
    · exact ⟨.normal, normal⟩
    · exact ⟨.low, low⟩
  · rintro ⟨queue, found⟩
    cases queue with
    | high => exact .inl (.inl found)
    | normal => exact .inl (.inr found)
    | low => exact .inr found

/-- The reachable cells are distinct and hold exactly the added tasks that were not returned.
Their number is the recorded length of the queue. -/
def ExactAccounting (pool : Threadpool) (events : List PoolEvent) : Prop :=
  ∃ cells : List Nat, cells.Nodup ∧ (∀ address, address ∈ cells ↔ pool.Reachable address) ∧
    (addedTasks events : Multiset ThreadpoolTask) = returnedTasks events + contents pool.heap cells ∧
    pool.stats.queueLength = cells.length

/-- No task is lost or duplicated by any run that reaches a pool. -/
theorem poolMachine_exactAccounting (allocator : Allocator) (config : ThreadpoolConfig)
    (operations : List PoolOperation) (pool : Threadpool)
    (runs : ((poolMachine allocator).run (some (threadpoolCreate config)) operations).1 = some pool) :
    ExactAccounting pool
      ((poolMachine allocator).run (some (threadpoolCreate config)) operations).2 := by
  have initial : Accounts (some (threadpoolCreate config)) [] := by
    intro other same
    obtain rfl := Option.some.inj same
    exact ⟨_, _, represents_create config, rfl⟩
  have account := (poolMachine allocator).history_always Accounts
    (fun state operation events accounts => poolMachine_accounts allocator state operation events accounts)
    _ operations [] initial
  rw [List.nil_append] at account
  obtain ⟨cells, queues, represents, balance⟩ := account pool runs
  refine ⟨cells .high ++ cells .normal ++ cells .low, represents.distinct, represents.reachable, ?_, ?_⟩
  · rw [balance, contents_append, contents_append, ← represents.holds]
    rfl
  · rw [represents.length, List.length_append, List.length_append]
    rfl

/-- Tasks in the wrong queue and an urgent task are accounted for. -/
theorem poolMachine_exactAccounting_mixed :
    ∃ pool, ((poolMachine sampleAllocator).run (some (threadpoolCreate ⟨0⟩))
      [sampleAdd .normal 1, sampleAdd .low 2, sampleAdd .normal 3,
        .addUrgentTask ⟨some 1, none, none⟩ ⟨0, 4⟩, .getNextTask 0]).1 = some pool ∧
      ExactAccounting pool ((poolMachine sampleAllocator).run (some (threadpoolCreate ⟨0⟩))
        [sampleAdd .normal 1, sampleAdd .low 2, sampleAdd .normal 3,
          .addUrgentTask ⟨some 1, none, none⟩ ⟨0, 4⟩, .getNextTask 0]).2 :=
  ⟨_, rfl, poolMachine_exactAccounting sampleAllocator ⟨0⟩ _ _ rfl⟩

end SecureChat.ThreadPool
