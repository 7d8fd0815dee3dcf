import Mathlib.Algebra.Group.Nat.Defs
import SecureChat.Construction.WorkerThreads
import SecureChat.Library.Slots

namespace SecureChat.ThreadPool
open Library

/-- A worker thread that waits for work or has ended. -/
def WorkerPhase.idle : WorkerPhase → Bool
  | .waiting => true
  | .exited => true
  | _ => false

/-- A worker thread that is there and does not wait for work. -/
def WorkerPhase.working : WorkerPhase → Bool
  | .ready => true
  | .running _ => true
  | .leaving => true
  | _ => false

/-- The recorded number of active threads is the number of workers that do not wait for work. -/
def ActiveExact (state : WorkerPool) : Prop :=
  state.activeThreads.toNat = state.workers.countP WorkerPhase.working ∧
    state.activeThreads ≤ state.threadCount

/-- There is one slot for each thread, and the counter was lowered once for each idle worker. -/
structure CountsIdle (state : WorkerPool) : Prop where
  slots : state.workers.length = state.threadCount.toNat
  balance : (state.activeThreads.toNat + state.workers.countP WorkerPhase.idle) % 2 ^ 32 = 0

theorem countsIdle_create (config : WorkerConfig) (queues : ThreadpoolConfig) :
    CountsIdle (createWorkers config queues) where
  slots := List.length_replicate
  balance := by simp [createWorkers, List.countP_replicate, WorkerPhase.idle]

section Steps

theorem lowered (counter : UInt32) : ((counter - 1).toNat + 1) % 2 ^ 32 = counter.toNat % 2 ^ 32 := by
  have bound := counter.toNat_lt
  have one : (1 : UInt32).toNat = 1 := rfl
  rw [UInt32.toNat_sub]
  omega

variable {state : WorkerPool}

/-- A worker that changes its phase changes the counter by the difference. -/
theorem CountsIdle.setWorker (counts : CountsIdle state) (index : Nat) (old new : WorkerPhase)
    (found : state.workers[index]? = some old) (next : WorkerPool)
    (workers : next.workers = state.workers.set index new) (threads : next.threadCount = state.threadCount)
    (active : (next.activeThreads.toNat + if new.idle then 1 else 0) % 2 ^ 32 =
      (state.activeThreads.toNat + if old.idle then 1 else 0) % 2 ^ 32) :
    CountsIdle next := by
  have balance := counts.balance
  have counted := set_countP state.workers WorkerPhase.idle index old new found
  constructor
  · rw [workers, List.length_set, threads, counts.slots]
  · rw [workers]
    omega

/-- A change of something else keeps the account. -/
theorem CountsIdle.keep (counts : CountsIdle state) (next : WorkerPool)
    (workers : next.workers = state.workers) (threads : next.threadCount = state.threadCount)
    (active : next.activeThreads = state.activeThreads) : CountsIdle next where
  slots := by rw [workers, threads, counts.slots]
  balance := by rw [workers, active, counts.balance]

/-- The critical section of a worker, which is counted in when it gets there. -/
theorem CountsIdle.workerLoop (counts : CountsIdle state) (index now : Nat) (old : WorkerPhase)
    (found : state.workers[index]? = some old) (begin : WorkerPool) (workers : begin.workers = state.workers)
    (threads : begin.threadCount = state.threadCount)
    (active : begin.activeThreads.toNat % 2 ^ 32 =
      (state.activeThreads.toNat + if old.idle then 1 else 0) % 2 ^ 32)
    (alive : begin.pool ≠ none) :
    CountsIdle (ThreadPool.workerLoop begin index now) := by
  rw [ThreadPool.workerLoop]
  split
  · rename_i crashed
    exact absurd crashed alive
  · rename_i pool present
    split
    · split
      · exact counts.setWorker index old .leaving found _ (by rw [← workers]; rfl) threads active
      · exact counts.setWorker index old .waiting found _ (by rw [← workers]; rfl) threads
          ((lowered begin.activeThreads).trans active)
    · split
      · exact counts.setWorker index old (.running _) found _ (by rw [← workers]; rfl) threads active
      · exact counts.setWorker index old .ready found _ (by rw [← workers]; rfl) threads active

/-- Growth adds as many slots as it counts. -/
theorem CountsIdle.resize (counts : CountsIdle state) (numThreads : UInt32) (created : Nat) :
    CountsIdle (threadpoolResize state numThreads created) := by
  rw [threadpoolResize]
  split
  · exact counts
  · split
    · exact counts
    · split
      · exact counts
      · split
        · rename_i grows
          have bound := numThreads.toNat_lt
          have room : (numThreads - state.threadCount).toNat = numThreads.toNat - state.threadCount.toNat :=
            UInt32.toNat_sub_of_le _ _ (UInt32.le_of_lt grows)
          dsimp only
          generalize started : min created (numThreads - state.threadCount).toNat = count
          have slots := counts.slots
          rw [UInt32.lt_iff_toNat_lt] at grows
          constructor
          · simp only [List.length_append, List.length_replicate, UInt32.toNat_add, UInt32.toNat_ofNat']
            omega
          · simp only [List.countP_append, List.countP_replicate, WorkerPhase.idle, Bool.false_eq_true,
              if_false, Nat.add_zero]
            exact counts.balance
        · split
          · exact counts
          · exact counts.keep _ rfl rfl rfl

/-- No step of any thread upsets the account. -/
theorem CountsIdle.step (allocator : Allocator) (counts : CountsIdle state) (step : WorkerStep) :
    CountsIdle ((workerMachine allocator).step state step).1 := by
  simp only [workerMachine]
  split
  · exact counts
  · rename_i present
    have alive : state.pool ≠ none := fun crashed => present (by rw [crashed]; rfl)
    cases step with
    | startWorker index =>
        dsimp only
        split
        · rename_i found
          exact counts.setWorker index _ .ready found _ rfl rfl rfl
        · exact counts
    | workerTurn index now =>
        dsimp only
        split
        · rename_i found
          exact counts.workerLoop index now _ found state rfl rfl rfl alive
        · exact counts
    | workerWake index now =>
        dsimp only
        split
        · rename_i found
          apply counts.workerLoop index now _ found { state with activeThreads := state.activeThreads + 1 }
            rfl rfl _ alive
          rw [UInt32.toNat_add, Nat.mod_mod]
          rfl
        · exact counts
    | taskReturns index =>
        dsimp only
        split
        · rename_i task found
          exact counts.setWorker index _ .ready found _ rfl rfl rfl
        · exact counts
    | workerExit index =>
        dsimp only
        split
        · rename_i found
          exact counts.setWorker index _ .exited found _ rfl rfl (lowered state.activeThreads)
        · exact counts
    | submit submission =>
        dsimp only [submit]
        split
        · exact counts
        · exact counts.keep _ rfl rfl rfl
    | wait timeoutMs =>
        dsimp only [threadpoolWait]
        split
        · exact counts
        · split
          · exact counts
          · split
            · exact counts.keep _ rfl rfl rfl
            · exact counts
    | waitWake index =>
        dsimp only [waitWake]
        split
        · split
          · exact counts
          · exact counts.keep _ rfl rfl rfl
        · exact counts
    | waitTimeout index =>
        dsimp only [waitTimeout]
        split
        · split
          · exact counts
          · exact counts.keep _ rfl rfl rfl
        · exact counts
    | requestShutdown =>
        dsimp only [requestShutdown]
        split
        · exact counts
        · split
          · exact counts
          · exact counts.keep _ rfl rfl rfl
    | resize numThreads created => exact counts.resize numThreads created

end Steps

/-- Every slot is idle, working or not yet started. -/
theorem countP_phases (workers : List WorkerPhase) :
    workers.countP WorkerPhase.idle + workers.countP WorkerPhase.working +
      workers.countP (· = .unstarted) = workers.length := by
  induction workers with
  | nil => rfl
  | cons phase workers ih =>
      simp only [List.countP_cons, List.length_cons]
      cases phase <;> simp [WorkerPhase.idle, WorkerPhase.working] <;> omega

/-- The counter is exact only where no worker is started. -/
theorem CountsIdle.activeExact_iff {state : WorkerPool} (counts : CountsIdle state) :
    ActiveExact state ↔ ∀ phase ∈ state.workers, phase = .unstarted := by
  have phases := countP_phases state.workers
  have slots := counts.slots
  have balance := counts.balance
  have bound := state.threadCount.toNat_lt
  have counter := state.activeThreads.toNat_lt
  rw [ActiveExact, UInt32.le_iff_toNat_le]
  have unstarted : (∀ phase ∈ state.workers, phase = .unstarted) ↔
      state.workers.countP (· = .unstarted) = state.workers.length := by
    rw [List.countP_eq_length]
    simp
  rw [unstarted]
  omega

/-- In every state that the threads of a new pool can reach, the number of active threads is exact
if and only if no worker has been started. -/
theorem activeThreads_exact_iff (allocator : Allocator) (config : WorkerConfig) (queues : ThreadpoolConfig)
    (steps : List WorkerStep) :
    ∀ visited ∈ (workerMachine allocator).states (createWorkers config queues) steps,
      ActiveExact visited ↔ ∀ phase ∈ visited.workers, phase = .unstarted := by
  have counts := (workerMachine allocator).states_always CountsIdle
    (fun state step counts => counts.step allocator step) _ steps (countsIdle_create config queues)
  intro visited member
  exact (counts visited member).activeExact_iff

/-- The counter of a new pool is exact, and it stays so until the worker is started. -/
theorem activeThreads_exact_new :
    let allocator : Allocator := ⟨fun _ _ => none, fun _ _ _ missing => nomatch missing⟩
    createWorkers ⟨1, 1, 1⟩ ⟨0⟩ ∈
        (workerMachine allocator).states (createWorkers ⟨1, 1, 1⟩ ⟨0⟩) [.startWorker 0] ∧
      ActiveExact (createWorkers ⟨1, 1, 1⟩ ⟨0⟩) :=
  ⟨List.mem_cons_self, (activeThreads_exact_iff ⟨fun _ _ => none, fun _ _ _ missing => nomatch missing⟩
    ⟨1, 1, 1⟩ ⟨0⟩ [.startWorker 0] _ List.mem_cons_self).mpr (by decide)⟩

/-- The only worker of a pool counts itself out when it begins to wait, without ever having been counted in. -/
theorem activeThreads_wraps :
    let allocator : Allocator := ⟨fun _ _ => none, fun _ _ _ missing => nomatch missing⟩
    ∃ visited ∈ (workerMachine allocator).states (createWorkers ⟨1, 1, 1⟩ ⟨0⟩) [.startWorker 0, .workerTurn 0 0],
      visited.activeThreads = 4294967295 ∧ visited.threadCount = 1 ∧ ¬ ActiveExact visited := by
  refine ⟨_, List.mem_cons_of_mem _ (List.mem_cons_of_mem _ List.mem_cons_self), rfl, rfl, ?_⟩
  rw [ActiveExact]
  decide

end SecureChat.ThreadPool
