import SecureChat.Construction.WorkerThreads
import SecureChat.Proof.ThreadPool.ActiveThreads
import SecureChat.Proof.ThreadPool.Barrier

namespace SecureChat.ThreadPool
open Library

/-- A pool that was neither shut down nor destroyed. -/
def Running (state : WorkerPool) : Prop := ∃ pool, state.pool = some pool ∧ pool.state = .running

/-- The range that was configured when the pool was created. -/
def InRange (created : WorkerConfig) (numThreads : UInt32) : Prop :=
  created.minThreads ≤ numThreads ∧ numThreads ≤ created.maxThreads

def live (state : WorkerPool) : Nat := state.workers.countP (· ≠ WorkerPhase.exited)

/-- All workers that are there have come to the condition of their loop since the last call. -/
def AllRechecked (resized : ResizedPool) : Prop :=
  ∀ (index : Nat) (phase : WorkerPhase), resized.state.workers[index]? = some phase → phase ≠ .exited →
    index ∈ resized.rechecked

/-- The last call within the range was accepted and is followed once all workers have looked,
the range is as it was, and there is a handle for each worker that is there. -/
structure MeansWhatItSays (created : WorkerConfig) (resized : ResizedPool) : Prop where
  accepted : ∀ numThreads result, resized.lastResize = some (numThreads, result) → InRange created numThreads →
    result = .success
  followed : ∀ numThreads result, resized.lastResize = some (numThreads, result) → InRange created numThreads →
    AllRechecked resized → live resized.state = numThreads.toNat ∧ resized.state.threadCount = numThreads
  range : resized.state.config.minThreads = created.minThreads ∧ resized.state.config.maxThreads = created.maxThreads
  handles : ∀ (index : Nat) (phase : WorkerPhase), resized.state.workers[index]? = some phase → phase ≠ .exited →
    resized.threads[index]? = some (some index)

/-- No call within the range asks a running pool for fewer threads than it has. -/
def NeverShrinks (created : WorkerConfig) (resized : ResizedPool) (step : WorkerStep) : Prop :=
  ∀ numThreads attempts, step = .resize numThreads attempts → Running resized.state → InRange created numThreads →
    resized.state.threadCount ≤ numThreads

section Queues

variable {pool : Threadpool} (allocator : Allocator)

/-- The queues may change or crash, but the pool goes on running. -/
theorem submission_state (submission : Submission) (next : Threadpool)
    (reached : (submissionOutcome allocator pool submission).1 = some next) : next.state = pool.state := by
  cases submission with
  | addTask request priority timeoutMs context =>
      rw [submissionOutcome, threadpoolAddTask] at reached
      split at reached
      · cases reached
        rfl
      · split at reached
        · cases reached
          rfl
        · split at reached
          · cases reached
          · rename_i linked joined
            cases reached
            exact (linkTask_frame _ _ linked joined).2.trans rfl
  | addUrgentTask request context =>
      rw [submissionOutcome, threadpoolAddUrgentTask] at reached
      split at reached
      · cases reached
        rfl
      · split at reached <;> cases reached <;> rfl

end Queues

section Steady

/-- What a step other than a call of `threadpool_resize` keeps. -/
structure Steady (state next : WorkerPool) : Prop where
  config : next.config = state.config
  threadCount : next.threadCount = state.threadCount
  running : Running next → Running state ∧ next.shutdownRequested = state.shutdownRequested
  phases : ∀ phase ∈ next.workers, phase ∈ state.workers ∨
    (phase = .leaving → state.shutdownRequested = true) ∧ (phase = .exited → .leaving ∈ state.workers)

theorem Steady.refl (state : WorkerPool) : Steady state state :=
  ⟨rfl, rfl, fun running => ⟨running, rfl⟩, fun _ member => .inl member⟩

variable {state : WorkerPool}

/-- The workers stay as they are. -/
theorem Steady.keep (next : WorkerPool) (config : next.config = state.config)
    (threadCount : next.threadCount = state.threadCount) (workers : next.workers = state.workers)
    (running : Running next → Running state ∧ next.shutdownRequested = state.shutdownRequested) :
    Steady state next :=
  ⟨config, threadCount, running, fun _ member => .inl (workers ▸ member)⟩

/-- One worker goes on. -/
theorem Steady.setWorker (next : WorkerPool) (index : Nat) (new : WorkerPhase) (config : next.config = state.config)
    (threadCount : next.threadCount = state.threadCount) (workers : next.workers = state.workers.set index new)
    (running : Running next → Running state ∧ next.shutdownRequested = state.shutdownRequested)
    (phase : (new = .leaving → state.shutdownRequested = true) ∧ (new = .exited → .leaving ∈ state.workers)) :
    Steady state next := by
  refine ⟨config, threadCount, running, fun other member => ?_⟩
  rw [workers] at member
  rcases List.mem_or_eq_of_mem_set member with before | rfl
  · exact .inl before
  · exact .inr phase

/-- The critical section of a worker that was counted in or not. -/
theorem steady_workerLoop (begin : WorkerPool) (index now : Nat) (config : begin.config = state.config)
    (threadCount : begin.threadCount = state.threadCount) (workers : begin.workers = state.workers)
    (pool : begin.pool = state.pool) (shutdown : begin.shutdownRequested = state.shutdownRequested) :
    Steady state (workerLoop begin index now) := by
  have kept : ∀ next : WorkerPool, next.pool = begin.pool → next.shutdownRequested = begin.shutdownRequested →
      Running next → Running state ∧ next.shutdownRequested = state.shutdownRequested := by
    rintro next same calm ⟨found, present, runs⟩
    exact ⟨⟨found, by rw [← pool, ← same, present], runs⟩, calm.trans shutdown⟩
  rw [workerLoop]
  split
  · exact .keep _ config threadCount workers (kept _ rfl rfl)
  · rename_i queues present
    split
    · split
      · rename_i requested
        exact .setWorker _ index .leaving config threadCount (by rw [← workers]; rfl) (kept _ rfl rfl)
          ⟨fun _ => shutdown ▸ requested, by rintro ⟨⟩⟩
      · exact .setWorker _ index .waiting config threadCount (by rw [← workers]; rfl) (kept _ rfl rfl) ⟨by rintro ⟨⟩, by rintro ⟨⟩⟩
    · have taken : ∀ next : WorkerPool, next.pool = (getNextTask queues now).1 →
          next.shutdownRequested = begin.shutdownRequested →
          Running next → Running state ∧ next.shutdownRequested = state.shutdownRequested := by
        rintro next same calm ⟨found, reached, runs⟩
        have still := (getNextTask_frame now found (by rw [← same, reached])).2
        exact ⟨⟨queues, by rw [← pool, present], by rw [← still, runs]⟩, calm.trans shutdown⟩
      split
      · rename_i task outcome
        exact .setWorker _ index (.running task) config threadCount (by rw [← workers]; rfl)
          (taken _ (by rw [outcome]) rfl) ⟨by rintro ⟨⟩, by rintro ⟨⟩⟩
      · rename_i outcome
        exact .setWorker _ index .ready config threadCount (by rw [← workers]; rfl)
          (taken _ (by rw [outcome]) rfl) ⟨by rintro ⟨⟩, by rintro ⟨⟩⟩

/-- Only a call of `threadpool_resize` changes the range or the number of threads,
and no worker leaves before the pool is shut down. -/
theorem steady_step (allocator : Allocator) (step : WorkerStep)
    (other : ∀ numThreads attempts, step ≠ .resize numThreads attempts) :
    Steady state ((workerMachine allocator).step state step).1 := by
  have kept : ∀ next : WorkerPool, next.pool = state.pool → next.shutdownRequested = state.shutdownRequested →
      Running next → Running state ∧ next.shutdownRequested = state.shutdownRequested := by
    rintro next same calm ⟨found, present, runs⟩
    exact ⟨⟨found, by rw [← same, present], runs⟩, calm⟩
  simp only [workerMachine]
  split
  · exact .refl state
  · cases step with
    | startWorker index =>
        dsimp only
        split
        · exact .setWorker _ index .ready rfl rfl rfl (kept _ rfl rfl) ⟨by rintro ⟨⟩, by rintro ⟨⟩⟩
        · exact .refl state
    | workerTurn index now =>
        dsimp only
        split
        · exact steady_workerLoop state index now rfl rfl rfl rfl rfl
        · exact .refl state
    | workerWake index now =>
        dsimp only
        split
        · exact steady_workerLoop { state with activeThreads := state.activeThreads + 1 } index now rfl rfl rfl rfl rfl
        · exact .refl state
    | taskReturns index =>
        dsimp only
        split
        · exact .setWorker _ index .ready rfl rfl rfl (kept _ rfl rfl) ⟨by rintro ⟨⟩, by rintro ⟨⟩⟩
        · exact .refl state
    | workerExit index =>
        dsimp only
        split
        · rename_i found
          exact .setWorker _ index .exited rfl rfl rfl (kept _ rfl rfl) ⟨by rintro ⟨⟩, fun _ => List.mem_of_getElem? found⟩
        · exact .refl state
    | submit submission =>
        dsimp only
        cases present : state.pool with
        | none =>
            rw [submit, present]
            exact .refl state
        | some pool =>
            rw [submit_outcome allocator state pool present submission]
            refine .keep _ rfl rfl rfl ?_
            rintro ⟨next, reached, runs⟩
            have still := submission_state allocator submission next reached
            exact ⟨⟨pool, present, by rw [← still, runs]⟩, rfl⟩
    | wait timeoutMs =>
        dsimp only [threadpoolWait]
        split
        · exact .refl state
        · split
          · exact .refl state
          · split
            · exact .keep _ rfl rfl rfl (kept _ rfl rfl)
            · exact .refl state
    | waitWake index =>
        dsimp only [waitWake]
        split
        · split
          · exact .refl state
          · exact .keep _ rfl rfl rfl (kept _ rfl rfl)
        · exact .refl state
    | waitTimeout index =>
        dsimp only [waitTimeout]
        split
        · split
          · exact .refl state
          · exact .keep _ rfl rfl rfl (kept _ rfl rfl)
        · exact .refl state
    | requestShutdown =>
        dsimp only [requestShutdown]
        split
        · exact .refl state
        · split
          · exact .refl state
          · refine .keep _ rfl rfl rfl ?_
            rintro ⟨next, reached, runs⟩
            cases reached
            cases runs
    | resize numThreads created => exact absurd rfl (other numThreads created)

end Steady

section Calls

variable (allocator : Allocator) {resized : ResizedPool} {pool : Threadpool} {numThreads : UInt32}

theorem resizePool_state (numThreads : UInt32) (present : resized.state.pool = some pool) :
    (resizePool allocator resized numThreads).state = threadpoolResize resized.state numThreads numThreads.toNat := by
  unfold resizePool
  rw [present]
  dsimp only [workerMachine]
  rw [present]
  rfl

theorem resizePool_threads (numThreads : UInt32) (present : resized.state.pool = some pool) :
    (resizePool allocator resized numThreads).threads =
      resizeThreads resized.state.config pool resized.state.threadCount numThreads resized.threads := by
  unfold resizePool
  rw [present]

theorem resizePool_lastResize (numThreads : UInt32) (present : resized.state.pool = some pool) :
    (resizePool allocator resized numThreads).lastResize =
      if pool.state = .running then some (numThreads, resizeResult resized.state.config pool numThreads)
      else resized.lastResize := by
  unfold resizePool
  rw [present]

theorem resizeResult_success_iff (config : WorkerConfig) (pool : Threadpool) (numThreads : UInt32) :
    resizeResult config pool numThreads = .success ↔ InRange config numThreads ∧ pool.state = .running := by
  unfold resizeResult InRange
  rw [← UInt32.not_lt, ← UInt32.not_lt, ← not_or]
  split
  · rename_i outside
    exact iff_of_false nofun fun both => both.1 outside
  · rename_i inside
    split
    · rename_i stopped
      exact iff_of_false nofun fun both => stopped both.2
    · rename_i runs
      exact iff_of_true rfl ⟨inside, not_not.mp runs⟩

/-- A call that is refused changes nothing. -/
theorem threadpoolResize_refused {state : WorkerPool} (created : Nat) (present : state.pool = some pool)
    (refused : resizeResult state.config pool numThreads ≠ .success) :
    threadpoolResize state numThreads created = state := by
  rw [threadpoolResize, present]
  dsimp only
  split
  · rfl
  · rename_i inside
    split
    · rfl
    · rename_i runs
      rw [not_or, UInt32.not_lt, UInt32.not_lt] at inside
      exact absurd ((resizeResult_success_iff _ _ _).mpr ⟨inside, not_not.mp runs⟩) refused

/-- A call for at least as many threads as there are gets them. -/
theorem threadpoolResize_grows {state : WorkerPool} (present : state.pool = some pool)
    (accepted : resizeResult state.config pool numThreads = .success) (grows : state.threadCount ≤ numThreads) :
    threadpoolResize state numThreads numThreads.toNat = { state with
      workers := state.workers ++ List.replicate (numThreads.toNat - state.threadCount.toNat) .ready
      threadCount := numThreads } := by
  obtain ⟨inside, runs⟩ := (resizeResult_success_iff _ _ _).mp accepted
  have room : (numThreads - state.threadCount).toNat = numThreads.toNat - state.threadCount.toNat :=
    UInt32.toNat_sub_of_le _ _ grows
  have order := UInt32.le_iff_toNat_le.mp grows
  rw [threadpoolResize, present]
  dsimp only
  rw [if_neg (by rw [not_or, UInt32.not_lt, UInt32.not_lt]; exact inside), if_neg (not_not.mpr runs)]
  split
  · have started : min numThreads.toNat (numThreads - state.threadCount).toNat =
        numThreads.toNat - state.threadCount.toNat := by omega
    have total : state.threadCount + UInt32.ofNat (numThreads.toNat - state.threadCount.toNat) = numThreads := by
      have bound := numThreads.toNat_lt
      rw [← UInt32.toNat_inj, UInt32.toNat_add, UInt32.toNat_ofNat']
      omega
    rw [started, total]
  · rename_i full
    have same : numThreads = state.threadCount := UInt32.le_antisymm (UInt32.not_lt.mp full) grows
    rw [if_pos same, same, Nat.sub_self, List.replicate_zero, List.append_nil, ← present]

/-- A call for fewer threads only lowers the upper end of the range. -/
theorem threadpoolResize_shrinks {state : WorkerPool} (created : Nat) (present : state.pool = some pool)
    (accepted : resizeResult state.config pool numThreads = .success) (shrinks : numThreads < state.threadCount) :
    threadpoolResize state numThreads created =
      { state with config := { state.config with maxThreads := numThreads } } := by
  obtain ⟨inside, runs⟩ := (resizeResult_success_iff _ _ _).mp accepted
  rw [threadpoolResize, present]
  dsimp only
  rw [if_neg (by rw [not_or, UInt32.not_lt, UInt32.not_lt]; exact inside), if_neg (not_not.mpr runs),
    if_neg (UInt32.not_lt.mpr (UInt32.le_of_lt shrinks)), if_neg (UInt32.ne_of_lt shrinks)]

/-- After growth there is a handle for each thread. -/
theorem resizeThreads_grows {config : WorkerConfig} {threadCount : UInt32} {threads : List (Option Nat)}
    (accepted : resizeResult config pool numThreads = .success) (grows : threadCount ≤ numThreads)
    (handles : threads = (List.range threadCount.toNat).map some) :
    resizeThreads config pool threadCount numThreads threads = (List.range numThreads.toNat).map some := by
  unfold resizeThreads
  split
  · refine List.map_congr_left fun index _ => ?_
    split
    · rfl
    · rename_i before
      rw [handles, List.getElem?_map, List.getElem?_range (Nat.lt_of_not_le before)]
      rfl
  · rename_i full
    have same : numThreads = threadCount :=
      UInt32.le_antisymm (UInt32.not_lt.mp fun more => full ⟨accepted, more⟩) grows
    rw [handles, same]

end Calls

/-- What holds as long as no call has asked for fewer threads. -/
structure Follows (created : WorkerConfig) (resized : ResizedPool) : Prop where
  counts : CountsIdle resized.state
  config : resized.state.config = created
  bounded : resized.state.threadCount ≤ created.maxThreads
  handles : resized.threads = (List.range resized.state.threadCount.toNat).map some
  calm : Running resized.state → resized.state.shutdownRequested = false
  stays : Running resized.state → ∀ phase ∈ resized.state.workers, phase ≠ .leaving ∧ phase ≠ .exited
  last : ∀ numThreads result, resized.lastResize = some (numThreads, result) → InRange created numThreads →
    result = .success ∧ resized.state.threadCount = numThreads

section Runs

variable (allocator : Allocator) {created : WorkerConfig} {resized : ResizedPool}

theorem Follows.means (follows : Follows created resized) (runs : Running resized.state) :
    MeansWhatItSays created resized := by
  have stays := follows.stays runs
  have all : live resized.state = resized.state.threadCount.toNat := by
    rw [live, List.countP_eq_length.mpr, follows.counts.slots]
    intro phase member
    exact decide_eq_true (stays phase member).2
  constructor
  · intro numThreads result last inside
    exact (follows.last numThreads result last inside).1
  · intro numThreads result last inside _
    obtain ⟨-, count⟩ := follows.last numThreads result last inside
    exact ⟨by rw [all, count], count⟩
  · rw [follows.config]
    exact ⟨rfl, rfl⟩
  · intro index phase found _
    have inside : index < resized.state.threadCount.toNat := by
      rw [← follows.counts.slots]
      exact (List.getElem?_eq_some_iff.mp found).1
    rw [follows.handles, List.getElem?_map, List.getElem?_range inside]
    rfl

/-- A step of another kind keeps the range, the number of threads and the handles. -/
theorem Follows.steady (follows : Follows created resized) (step : WorkerStep)
    (other : ∀ numThreads attempts, step ≠ .resize numThreads attempts) :
    Follows created ((resizeMachine allocator).step resized step).1 := by
  have kept : Steady resized.state ((workerMachine allocator).step resized.state step).1 :=
    steady_step allocator step other
  have counts := follows.counts.step allocator step
  have stepped : ((resizeMachine allocator).step resized step).1 = { resized with
      state := ((workerMachine allocator).step resized.state step).1
      rechecked := resized.rechecked ++ rechecks resized.state step } := by
    cases step with
    | resize numThreads attempts => exact absurd rfl (other numThreads attempts)
    | _ => rfl
  rw [stepped]
  refine ⟨counts, kept.config.trans follows.config, ?_, ?_, fun runs => ?_, fun runs phase member => ?_, ?_⟩
  · rw [kept.threadCount]
    exact follows.bounded
  · rw [kept.threadCount]
    exact follows.handles
  · obtain ⟨before, same⟩ := kept.running runs
    exact same.trans (follows.calm before)
  · obtain ⟨before, same⟩ := kept.running runs
    have calm := follows.calm before
    have stays := follows.stays before
    rcases kept.phases phase member with old | ⟨leaves, exits⟩
    · exact stays phase old
    · refine ⟨fun leaving => ?_, fun exited => (stays .leaving (exits exited)).1 rfl⟩
      exact Bool.false_ne_true (calm.symm.trans (leaves leaving))
  · rw [kept.threadCount]
    exact follows.last

/-- A call that does not ask for fewer threads is refused or followed at once. -/
theorem Follows.resize (follows : Follows created resized) (numThreads : UInt32)
    (grows : Running resized.state → InRange created numThreads → resized.state.threadCount ≤ numThreads) :
    Follows created (resizePool allocator resized numThreads) := by
  cases present : resized.state.pool with
  | none =>
      unfold resizePool
      rw [present]
      exact follows
  | some pool =>
      have config := follows.config
      by_cases accepted : resizeResult resized.state.config pool numThreads = .success
      · obtain ⟨inside, runs⟩ := (resizeResult_success_iff _ _ _).mp accepted
        rw [config] at inside
        have enough := grows ⟨pool, present, runs⟩ inside
        have state := resizePool_state allocator numThreads present
        have threads := resizePool_threads allocator numThreads present
        have last := resizePool_lastResize allocator numThreads present
        rw [threadpoolResize_grows present accepted enough] at state
        rw [if_pos runs, accepted] at last
        have counts := follows.counts.resize numThreads numThreads.toNat
        rw [threadpoolResize_grows present accepted enough] at counts
        refine ⟨by rw [state]; exact counts, by rw [state]; exact config, by rw [state]; exact inside.2, ?_, ?_, ?_, ?_⟩
        · rw [threads, state]
          exact resizeThreads_grows accepted enough follows.handles
        · rw [state]
          exact fun _ => follows.calm ⟨pool, present, runs⟩
        · rw [state]
          intro _ phase member
          rcases List.mem_append.mp member with old | new
          · exact follows.stays ⟨pool, present, runs⟩ phase old
          · rw [List.eq_of_mem_replicate new]
            exact ⟨nofun, nofun⟩
        · rw [last, state]
          rintro asked result same -
          cases same
          exact ⟨rfl, rfl⟩
      · have refused := threadpoolResize_refused numThreads.toNat present accepted
        have state := (resizePool_state allocator numThreads present).trans refused
        have threads : (resizePool allocator resized numThreads).threads = resized.threads :=
          (resizePool_threads allocator numThreads present).trans (if_neg fun both => accepted both.1)
        have last := resizePool_lastResize allocator numThreads present
        refine ⟨by rw [state]; exact follows.counts, by rw [state]; exact config, by rw [state]; exact follows.bounded,
          by rw [threads, state]; exact follows.handles, by rw [state]; exact follows.calm,
          by rw [state]; exact follows.stays, ?_⟩
        rw [last, state]
        split
        · rename_i runs
          rintro asked result same inside
          cases same
          exact absurd ((resizeResult_success_iff _ _ _).mpr ⟨config ▸ inside, runs⟩) accepted
        · exact follows.last

/-- One step keeps the meaning exactly when it does not shrink the pool. -/
theorem Follows.step_iff (follows : Follows created resized) (step : WorkerStep) :
    (Running ((resizeMachine allocator).step resized step).1.state →
      MeansWhatItSays created ((resizeMachine allocator).step resized step).1) ↔
      NeverShrinks created resized step := by
  by_cases call : ∃ numThreads attempts, step = .resize numThreads attempts
  · obtain ⟨numThreads, attempts, rfl⟩ := call
    by_cases grows : Running resized.state → InRange created numThreads → resized.state.threadCount ≤ numThreads
    · refine iff_of_true (follows.resize allocator numThreads grows).means ?_
      rintro asked _ same
      cases same
      exact grows
    · have shrinks := grows
      push Not at shrinks
      obtain ⟨⟨pool, present, runs⟩, inside, fewer⟩ := shrinks
      rw [UInt32.not_le] at fewer
      refine iff_of_false (fun means => ?_) fun never => grows (never numThreads attempts rfl)
      have accepted : resizeResult resized.state.config pool numThreads = .success := by
        rw [follows.config]
        exact (resizeResult_success_iff _ _ _).mpr ⟨inside, runs⟩
      have state := resizePool_state allocator numThreads present
      rw [threadpoolResize_shrinks numThreads.toNat present accepted fewer] at state
      have still : Running (resizePool allocator resized numThreads).state := by
        rw [state]
        exact ⟨pool, present, runs⟩
      have top := (means still).range.2
      change (resizePool allocator resized numThreads).state.config.maxThreads = _ at top
      rw [state] at top
      have below := UInt32.lt_of_lt_of_le fewer follows.bounded
      rw [← top] at below
      exact UInt32.lt_irrefl _ below
  · push Not at call
    exact iff_of_true (follows.steady allocator step call).means
      fun numThreads attempts same => absurd same (call numThreads attempts)

theorem Follows.keeps (follows : Follows created resized) (step : WorkerStep)
    (never : NeverShrinks created resized step) :
    Follows created ((resizeMachine allocator).step resized step).1 := by
  by_cases call : ∃ numThreads attempts, step = .resize numThreads attempts
  · obtain ⟨numThreads, attempts, rfl⟩ := call
    exact follows.resize allocator numThreads (never numThreads attempts rfl)
  · push Not at call
    exact follows.steady allocator step call

/-- The last test of the configuration leaves no more threads than the range allows. -/
theorem capped_bounded (config : WorkerConfig) :
    let capped := if config.maxThreads < config.defaultThreads then
      { config with defaultThreads := config.maxThreads } else config
    capped.defaultThreads ≤ capped.maxThreads := by
  dsimp only
  split
  · exact UInt32.le_refl _
  · rename_i small
    exact UInt32.not_lt.mp small

theorem checkConfig_bounded (config : WorkerConfig) :
    (checkConfig config).defaultThreads ≤ (checkConfig config).maxThreads := capped_bounded _

theorem follows_create (config : WorkerConfig) (queues : ThreadpoolConfig) :
    Follows (checkConfig config) (createResized config queues) where
  counts := countsIdle_create config queues
  config := rfl
  bounded := checkConfig_bounded config
  handles := rfl
  calm := fun _ => rfl
  stays := by
    intro _ phase member
    rw [List.eq_of_mem_replicate member]
    exact ⟨nofun, nofun⟩
  last := nofun

/-- Over every run of a new pool, resizing means what it says
exactly as long as no call within the range asks for fewer threads than there are. -/
theorem resize_iff (config : WorkerConfig) (queues : ThreadpoolConfig) (steps : List WorkerStep) :
    (∀ visited ∈ (resizeMachine allocator).states (createResized config queues) steps,
        Running visited.state → MeansWhatItSays (checkConfig config) visited) ↔
      (resizeMachine allocator).Along (NeverShrinks (checkConfig config)) (createResized config queues) steps := by
  have start := follows_create config queues
  exact (resizeMachine allocator).states_iff_guarded _ (Follows (checkConfig config)) _
    (fun _ step follows _ => follows.step_iff allocator step)
    (fun _ step follows _ never => follows.keeps allocator step never) _ steps start start.means

end Runs

/-- A pool of four threads is asked to go on with two. -/
theorem resize_fewer_fails :
    let allocator : Allocator := ⟨fun _ _ => none, fun _ _ _ missing => nomatch missing⟩
    ¬ ∀ visited ∈ (resizeMachine allocator).states (createResized ⟨1, 8, 4⟩ ⟨0⟩) [.resize 2 0],
      Running visited.state → MeansWhatItSays (checkConfig ⟨1, 8, 4⟩) visited := by
  intro allocator means
  have never := ((follows_create ⟨1, 8, 4⟩ ⟨0⟩).step_iff allocator (.resize 2 0)).mp
    (means _ (List.mem_cons_of_mem _ List.mem_cons_self))
  exact absurd (never 2 0 rfl ⟨_, rfl, rfl⟩ ⟨by decide, by decide⟩) (by decide)

end SecureChat.ThreadPool
