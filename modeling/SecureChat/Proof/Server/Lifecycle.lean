import SecureChat.Construction.Server.Lifecycle

namespace SecureChat.Server.Restore
open Library

namespace LifecycleOutput

/-- After this no start gets as far as its threads. -/
def final : LifecycleOutput → Bool
  | .initReturned code => code = 0
  | .startReturned code => code = -2
  | .threadFailed _ | .up => true
  | _ => false

/-- The server is initialized, gets a thread or is up. -/
def begins : LifecycleOutput → Bool
  | .initReturned code => code = 0
  | .created _ | .up => true
  | _ => false

/-- A final output is not followed by a beginning, a thread not by its double nor by an initialization,
and its end not by its work. -/
def MayPrecede (earlier later : LifecycleOutput) : Prop :=
  (earlier.final = true → later.begins = false) ∧
    (∀ task, earlier = .created task → later ≠ .created task ∧ later ≠ .initReturned 0) ∧
    ∀ task, earlier = .left task → later ≠ .worked task

end LifecycleOutput

namespace Lifecycle

/-- The server is initialized, and no start is on its way to `running`. -/
def Settled (life : Lifecycle) : Prop :=
  life.server.state ≠ .initializing ∧ (life.starter = .idle ∨ ∃ code, life.starter = .joining code)

structure Valid (life : Lifecycle) : Prop where
  fresh : life.server.state = .initializing → life.starter = .idle ∧ ∀ task, life.threads task = .absent
  accepting : life.starter = .accepting → life.threads .cleanup = .absent ∧ life.threads .maintenance = .absent
  cleaning : life.starter = .cleaning → life.threads .maintenance = .absent
  held : life.server.running = true ∨ life.stopping = true → life.Settled

/-- What the state knows of an output that excludes others. -/
def Remembers (output : LifecycleOutput) (life : Lifecycle) : Prop :=
  (output.final = true → life.Settled) ∧ (∀ task, output = .created task → life.threads task ≠ .absent) ∧
    ∀ task, output = .left task → life.threads task = .left

/-- All that a step may do to what is remembered, with the outputs that this excludes. -/
structure Orderly (life next : Lifecycle) (outputs : List LifecycleOutput) : Prop where
  valid : next.Valid
  single : outputs.length ≤ 1
  records : ∀ output ∈ outputs, Remembers output next
  settled : life.Settled → next.Settled ∧ ∀ output ∈ outputs, output.begins = false
  present : ∀ task, life.threads task ≠ .absent →
    next.threads task ≠ .absent ∧ .created task ∉ outputs ∧ .initReturned 0 ∉ outputs
  left : ∀ task, life.threads task = .left → next.threads task = .left ∧ .worked task ∉ outputs

section Steps

variable {life next : Lifecycle} {outputs : List LifecycleOutput}

theorem serverInit_done (server : ServerInstance) (answers : InitAnswers) (done : server.state ≠ .initializing) :
    server.serverInit answers = (-2, server) := if_pos done

theorem serverInitDatabase_kept (server : ServerInstance) (answers : InitAnswers) :
    (server.serverInitDatabase answers).2.state = server.state ∧
      (server.serverInitDatabase answers).2.running = server.running := by
  unfold ServerInstance.serverInitDatabase
  split
  · exact ⟨rfl, rfl⟩
  · split <;> exact ⟨rfl, rfl⟩

/-- The state changes exactly when the initialization succeeds. The code -2 is that of a server which has changed. -/
structure Initializes (server : ServerInstance) (result : Int × ServerInstance) : Prop where
  running : result.2.running = server.running
  state : (result.1 ≠ 0 ∧ result.2.state = server.state ∧ (result.1 = -2 → server.state ≠ .initializing)) ∨
    result.1 = 0 ∧ result.2.state = .running

theorem Initializes.ite {server : ServerInstance} {first second : Int × ServerInstance} (test : Prop) [Decidable test]
    (fails : test → Initializes server first) (goesOn : Initializes server second) :
    Initializes server (if test then first else second) := by
  split
  · exact fails ‹_›
  · exact goesOn

theorem serverInit_initializes (server : ServerInstance) (answers : InitAnswers) :
    Initializes server (server.serverInit answers) := by
  obtain ⟨state, running⟩ := serverInitDatabase_kept server answers
  rw [ServerInstance.serverInit]
  apply Initializes.ite
  · exact fun done => ⟨rfl, .inl ⟨Int.negSucc_ne_zero _, rfl, fun _ => done⟩⟩
  iterate 7
    apply Initializes.ite
    · exact fun _ => ⟨rfl, .inl ⟨Int.negSucc_ne_zero _, rfl, by rintro ⟨⟩⟩⟩
  split
  · rename_i unopened
    rw [unopened] at state running
    exact ⟨running, .inl ⟨Int.negSucc_ne_zero _, state, by rintro ⟨⟩⟩⟩
  · rename_i opened
    rw [opened] at state running
    iterate 3
      apply Initializes.ite
      · exact fun _ => ⟨running, .inl ⟨Int.negSucc_ne_zero _, state, by rintro ⟨⟩⟩⟩
    exact ⟨running, .inr ⟨rfl, rfl⟩⟩

/-- Only a server that is not initialized yet can be. -/
theorem serverInit_zero {server : ServerInstance} {answers : InitAnswers}
    (succeeds : (server.serverInit answers).1 = 0) : server.state = .initializing := by
  by_contra done
  rw [serverInit_done server answers done] at succeeds
  cases succeeds

theorem Orderly.rest (valid : life.Valid) : Orderly life life [] :=
  ⟨valid, Nat.zero_le 1, by simp, fun settled => ⟨settled, by simp⟩, fun task present => ⟨present, by simp, by simp⟩,
    fun task gone => ⟨gone, by simp⟩⟩

/-- A thread goes on, works a round or leaves. -/
theorem Orderly.moves (valid : life.Valid) (task : Task) (phase : ThreadPhase) (present : life.threads task ≠ .absent)
    (active : life.threads task ≠ .left) (kept : phase ≠ .absent) (single : outputs.length ≤ 1)
    (known : ∀ output ∈ outputs, output = .worked task ∨ output = .left task ∧ phase = .left) :
    Orderly life (life.setThread task phase) outputs := by
  have threads (other : Task) : (life.setThread task phase).threads other =
      if other = task then phase else life.threads other := Function.update_apply life.threads task phase other
  have absent {other : Task} (none : life.threads other = .absent) :
      (life.setThread task phase).threads other = .absent := by
    rw [threads, if_neg, none]
    rintro rfl
    exact present none
  refine ⟨⟨fun fresh => ?_, fun accepting => ?_, fun cleaning => ?_, valid.held⟩, single, ?_, ?_, ?_, ?_⟩
  · exact absurd ((valid.fresh fresh).2 task) present
  · exact ⟨absent (valid.accepting accepting).1, absent (valid.accepting accepting).2⟩
  · exact absent (valid.cleaning cleaning)
  · intro output member
    rcases known output member with rfl | ⟨rfl, rfl⟩
    · exact ⟨by rintro ⟨⟩, by rintro _ ⟨⟩, by rintro _ ⟨⟩⟩
    · refine ⟨by rintro ⟨⟩, by rintro _ ⟨⟩, ?_⟩
      rintro _ ⟨⟩
      rw [threads, if_pos rfl]
  · refine fun settled => ⟨settled, fun output member => ?_⟩
    rcases known output member with rfl | ⟨rfl, -⟩ <;> rfl
  · refine fun other there => ⟨?_, fun member => ?_, fun member => ?_⟩
    · rw [threads]
      split
      · exact kept
      · exact there
    · rcases known _ member with ⟨⟨⟩⟩ | ⟨⟨⟨⟩⟩, -⟩
    · rcases known _ member with ⟨⟨⟩⟩ | ⟨⟨⟨⟩⟩, -⟩
  · refine fun other gone => ?_
    have different : other ≠ task := by
      rintro rfl
      exact active gone
    refine ⟨?_, fun member => ?_⟩
    · rw [threads, if_neg different, gone]
    · rcases known _ member with same | ⟨⟨⟩, -⟩
      exact different (LifecycleOutput.worked.inj same)

theorem leave_orderly (valid : life.Valid) (task : Task) (present : life.threads task ≠ .absent)
    (active : life.threads task ≠ .left) : Orderly life (life.leave task).1 (life.leave task).2 :=
  .moves valid task .left present active (by decide) (Nat.le_refl 1) fun _ member =>
    .inr ⟨List.mem_singleton.mp member, rfl⟩

theorem turn_orderly (valid : life.Valid) (task : Task) (succeeds : Bool) :
    Orderly life (life.turn task succeeds).1 (life.turn task succeeds).2 := by
  have silent (phase : ThreadPhase) : ∀ output ∈ ([] : List LifecycleOutput),
      output = .worked task ∨ output = .left task ∧ phase = .left := by rintro _ ⟨⟩
  have worked : ∀ output ∈ [LifecycleOutput.worked task],
      output = .worked task ∨ output = .left task ∧ ThreadPhase.testing = .left :=
    fun _ member => .inl (List.mem_singleton.mp member)
  have leaves := leave_orderly valid task
  have moves {outputs : List LifecycleOutput} := @Orderly.moves life outputs valid task
  cases phase : life.threads task with
  | absent | left =>
      simp only [turn, phase]
      exact .rest valid
  | created =>
      rw [phase] at leaves moves
      simp only [turn, phase]
      split
      · exact leaves (by decide) (by decide)
      · exact moves .testing (by decide) (by decide) (by decide) (Nat.zero_le 1) (silent _)
  | testing =>
      rw [phase] at leaves moves
      simp only [turn, phase]
      split
      · exact moves .waiting (by decide) (by decide) (by decide) (Nat.zero_le 1) (silent _)
      · exact leaves (by decide) (by decide)
  | waiting =>
      rw [phase] at leaves moves
      simp only [turn, phase]
      split
      · exact leaves (by decide) (by decide)
      · exact moves .testing (by decide) (by decide) (by decide) (Nat.le_refl 1) worked

/-- A thread is created for the first time, while a start is on its way. -/
theorem Orderly.creates (server : ServerInstance) (starter : Starter) (task : Task)
    (none : life.threads task = .absent) (unsettled : ¬ life.Settled)
    (valid : Valid ({ life with server := server, starter := starter }.setThread task .created)) :
    Orderly life ({ life with server := server, starter := starter }.setThread task .created) [.created task] := by
  have threads (other : Task) :
      ({ life with server := server, starter := starter }.setThread task .created).threads other =
        if other = task then .created else life.threads other :=
    Function.update_apply life.threads task .created other
  refine ⟨valid, Nat.le_refl 1, ?_, fun settled => absurd settled unsettled, ?_, ?_⟩
  · intro output member
    obtain rfl := List.mem_singleton.mp member
    refine ⟨by rintro ⟨⟩, ?_, by rintro _ ⟨⟩⟩
    rintro _ ⟨⟩
    rw [threads, if_pos rfl]
    decide
  · refine fun other there => ⟨?_, ?_, by simp⟩
    · rw [threads]
      split
      · decide
      · exact there
    · rw [List.mem_singleton, LifecycleOutput.created.injEq]
      rintro rfl
      exact there none
  · refine fun other gone => ⟨?_, by simp⟩
    rw [threads, if_neg, gone]
    rintro rfl
    rw [none] at gone
    cases gone

/-- An output that creates no thread and is no work, with what is to be remembered of it. -/
structure Quiet (life next : Lifecycle) (output : LifecycleOutput) : Prop where
  records : Remembers output next
  begins : life.Settled → output.begins = false
  other : ∀ task, output ≠ .created task ∧ output ≠ .worked task
  first : output = .initReturned 0 → ∀ task, life.threads task = .absent

/-- The flags change, and threads may be cancelled. -/
theorem Orderly.flags (valid : next.Valid) (settled : life.Settled → next.Settled)
    (kept : ∀ task, next.threads task = life.threads task ∨ next.threads task = .left)
    (single : outputs.length ≤ 1) (quiet : ∀ output ∈ outputs, Quiet life next output) :
    Orderly life next outputs := by
  refine ⟨valid, single, fun output member => (quiet output member).records,
    fun before => ⟨settled before, fun output member => (quiet output member).begins before⟩,
    fun task present => ⟨?_, fun member => ?_, fun member => ?_⟩, fun task gone => ⟨?_, fun member => ?_⟩⟩
  · rcases kept task with same | cancelled
    · rwa [same]
    · rw [cancelled]
      decide
  · exact ((quiet _ member).other task).1 rfl
  · exact present ((quiet _ member).first rfl task)
  · rcases kept task with same | cancelled
    · rwa [same]
    · exact cancelled
  · exact ((quiet _ member).other task).2 rfl

theorem Orderly.silent (valid : next.Valid) (settled : life.Settled → next.Settled)
    (kept : ∀ task, next.threads task = life.threads task ∨ next.threads task = .left) : Orderly life next [] :=
  .flags valid settled kept (Nat.zero_le 1) (by simp)

theorem Orderly.emits {output : LifecycleOutput} (valid : next.Valid) (settled : life.Settled → next.Settled)
    (kept : ∀ task, next.threads task = life.threads task ∨ next.threads task = .left)
    (quiet : Quiet life next output) : Orderly life next [output] :=
  .flags valid settled kept (Nat.le_refl 1) fun _ member => List.mem_singleton.mp member ▸ quiet

/-- A return of a function that is no initialization. -/
theorem Quiet.returns {output : LifecycleOutput} (records : output.final = true → next.Settled)
    (begins : life.Settled → output.begins = false)
    (other : ∀ task, output ≠ .created task ∧ output ≠ .worked task ∧ output ≠ .left task)
    (first : output ≠ .initReturned 0) : Quiet life next output :=
  ⟨⟨records, fun task same => absurd same (other task).1, fun task same => absurd same (other task).2.2⟩, begins,
    fun task => ⟨(other task).1, (other task).2.1⟩, fun same => absurd same first⟩

/-- An initialization that fails leaves everything as it is, except for what it has opened. -/
theorem Valid.failed (valid : life.Valid) {server : ServerInstance} (state : server.state = life.server.state)
    (running : server.running = life.server.running) :
    Valid { life with server := server } ∧ (Settled { life with server := server } ↔ life.Settled) := by
  have settled : Settled { life with server := server } ↔ life.Settled := by
    unfold Settled
    rw [state]
  refine ⟨⟨?_, valid.accepting, valid.cleaning, ?_⟩, settled⟩
  · rw [state]
    exact valid.fresh
  · rw [running, settled]
    exact valid.held

/-- The server of an initialization that succeeds. -/
theorem Valid.initialized (valid : life.Valid) {answers : InitAnswers}
    (succeeds : (life.server.serverInit answers).1 = 0) (runs : (life.server.serverInit answers).2.state = .running) :
    (∀ task, life.threads task = .absent) ∧ ¬ life.Settled ∧
      Valid { life with server := (life.server.serverInit answers).2 } ∧
      Settled { life with server := (life.server.serverInit answers).2 } := by
  have fresh := serverInit_zero succeeds
  obtain ⟨idle, absent⟩ := valid.fresh fresh
  have done : (life.server.serverInit answers).2.state ≠ .initializing := by
    rw [runs]
    decide
  exact ⟨absent, fun settled => settled.1 fresh,
    ⟨fun again => absurd again done, valid.accepting, valid.cleaning, fun _ => ⟨done, .inl idle⟩⟩, done, .inl idle⟩

theorem init_orderly (valid : life.Valid) (answers : InitAnswers) :
    Orderly life { life with server := (life.server.serverInit answers).2 }
      [.initReturned (life.server.serverInit answers).1] := by
  rcases (serverInit_initializes life.server answers).state with ⟨fails, same, -⟩ | ⟨succeeds, runs⟩
  · obtain ⟨kept, settled⟩ := valid.failed same (serverInit_initializes life.server answers).running
    refine .emits kept settled.mpr (fun _ => .inl rfl) (.returns ?_ (fun _ => decide_eq_false fails) (by simp)
      (by simpa using fails))
    exact fun final => absurd (of_decide_eq_true final) fails
  · obtain ⟨absent, unsettled, next, settled⟩ := valid.initialized succeeds runs
    refine .emits next (fun _ => settled) (fun _ => .inl rfl)
      ⟨?_, fun before => absurd before unsettled, by simp, fun _ => absent⟩
    exact ⟨fun _ => settled, by simp, by simp⟩

theorem serverStart_orderly (valid : life.Valid) (answers : InitAnswers) (created : Bool) :
    Orderly life (life.serverStart answers created).1 (life.serverStart answers created).2 := by
  unfold serverStart
  split
  · exact .rest valid
  rename_i idle
  rw [not_not] at idle
  split
  · exact .emits valid id (fun _ => .inl rfl) (.returns (by simp [LifecycleOutput.final]) (fun _ => rfl) (by simp)
      (by simp))
  dsimp only
  rcases (serverInit_initializes life.server answers).state with ⟨fails, same, refused⟩ | ⟨succeeds, runs⟩
  · obtain ⟨kept, settled⟩ := valid.failed same (serverInit_initializes life.server answers).running
    rw [if_pos fails]
    refine .emits kept settled.mpr (fun _ => .inl rfl) (.returns ?_ (fun _ => rfl) (by simp) (by simp))
    exact fun final => settled.mpr ⟨refused (of_decide_eq_true final), .inl idle⟩
  · obtain ⟨absent, unsettled, next, settled⟩ := valid.initialized succeeds runs
    rw [if_neg (not_not_intro succeeds)]
    split
    · exact .emits next (fun _ => settled) (fun _ => .inl rfl) (.returns (fun _ => settled) (fun _ => rfl) (by simp)
        (by simp))
    · refine .creates _ _ _ (absent _) unsettled ⟨fun fresh => absurd fresh settled.1,
        fun _ => ⟨absent .cleanup, absent .maintenance⟩, by rintro ⟨⟩, fun held => ?_⟩
      have same := (serverInit_initializes life.server answers).running
      have before : life.server.running = true ∨ life.stopping = true := same ▸ held
      exact absurd (valid.held before) unsettled

theorem startNext_orderly (valid : life.Valid) (created : Bool) :
    Orderly life (life.startNext created).1 (life.startNext created).2 := by
  have begun (busy : life.starter ≠ .idle) : life.server.state ≠ .initializing := fun fresh =>
    busy (valid.fresh fresh).1
  cases place : life.starter with
  | idle =>
      simp only [startNext, place]
      exact .rest valid
  | accepting =>
      have done := begun (by simp [place])
      have absent := valid.accepting place
      have unsettled : ¬ life.Settled := by simp [Settled, place]
      simp only [startNext, place]
      split
      · refine .creates life.server _ _ absent.1 unsettled
          ⟨fun fresh => absurd fresh done, by rintro ⟨⟩, fun _ => absent.2, fun held => ?_⟩
        exact absurd (valid.held held) unsettled
      · exact .silent ⟨fun fresh => absurd fresh done, by rintro ⟨⟩, by rintro ⟨⟩, fun _ => ⟨done, .inr ⟨_, rfl⟩⟩⟩
          (fun _ => ⟨done, .inr ⟨_, rfl⟩⟩) fun _ => .inl rfl
  | cleaning =>
      have done := begun (by simp [place])
      have absent := valid.cleaning place
      have unsettled : ¬ life.Settled := by simp [Settled, place]
      simp only [startNext, place]
      split
      · refine .creates life.server _ _ absent unsettled
          ⟨fun fresh => absurd fresh done, by rintro ⟨⟩, by rintro ⟨⟩, fun held => ?_⟩
        exact absurd (valid.held held) unsettled
      · refine .silent ⟨fun fresh => absurd fresh done, by rintro ⟨⟩, by rintro ⟨⟩, fun _ => ⟨done, .inr ⟨_, rfl⟩⟩⟩
          (fun _ => ⟨done, .inr ⟨_, rfl⟩⟩) fun task => ?_
        by_cases cancelled : task = .cleanup
        · exact .inr (cancelled ▸ Function.update_self _ _ _)
        · exact .inl (Function.update_of_ne cancelled _ _)
  | maintaining =>
      have done := begun (by simp [place])
      have unsettled : ¬ life.Settled := by simp [Settled, place]
      simp only [startNext, place]
      exact .emits ⟨fun fresh => absurd fresh done, by rintro ⟨⟩, by rintro ⟨⟩, fun _ => ⟨done, .inl rfl⟩⟩
        (fun _ => ⟨done, .inl rfl⟩) (fun _ => .inl rfl)
        (.returns (fun _ => ⟨done, .inl rfl⟩) (fun settled => absurd settled unsettled) (by simp) (by simp))
  | joining code =>
      have done := begun (by simp [place])
      simp only [startNext, place]
      split
      · exact .emits ⟨fun fresh => absurd fresh done, by rintro ⟨⟩, by rintro ⟨⟩, fun _ => ⟨done, .inl rfl⟩⟩
          (fun _ => ⟨done, .inl rfl⟩) (fun _ => .inl rfl)
          (.returns (fun _ => ⟨done, .inl rfl⟩) (fun _ => rfl) (by simp) (by simp))
      · exact .rest valid

theorem serverStop_orderly (valid : life.Valid) : Orderly life life.serverStop.1 life.serverStop.2 := by
  unfold serverStop
  split
  · exact .emits valid id (fun _ => .inl rfl) (.returns (by simp [LifecycleOutput.final]) (fun _ => rfl) (by simp)
      (by simp))
  · rename_i running
    have settled := valid.held (.inl (Bool.not_eq_false _ ▸ running))
    exact .silent ⟨by rintro ⟨⟩, valid.accepting, valid.cleaning, fun _ => ⟨by rintro ⟨⟩, settled.2⟩⟩
      (fun _ => ⟨by rintro ⟨⟩, settled.2⟩) fun _ => .inl rfl

theorem stopJoined_orderly (valid : life.Valid) : Orderly life life.stopJoined.1 life.stopJoined.2 := by
  unfold stopJoined
  split
  · exact .rest valid
  · rename_i stopping
    have settled := valid.held (.inr (Bool.not_eq_false _ ▸ stopping))
    have quiet : life.starter ≠ .accepting ∧ life.starter ≠ .cleaning := by
      rcases settled.2 with idle | ⟨code, joining⟩
      · simp [idle]
      · simp [joining]
    exact .emits ⟨by rintro ⟨⟩, fun place => absurd place quiet.1, fun place => absurd place quiet.2,
        fun _ => ⟨by rintro ⟨⟩, settled.2⟩⟩ (fun _ => ⟨by rintro ⟨⟩, settled.2⟩) (fun _ => .inr rfl)
      (.returns (by simp [LifecycleOutput.final]) (fun _ => rfl) (by simp) (by simp))

theorem step_orderly (valid : life.Valid) (event : LifecycleEvent) :
    Orderly life (lifecycleMachine.step life event).1 (lifecycleMachine.step life event).2 := by
  cases event with
  | init answers => exact init_orderly valid answers
  | start answers created => exact serverStart_orderly valid answers created
  | starter created => exact startNext_orderly valid created
  | stop => exact serverStop_orderly valid
  | joined => exact stopJoined_orderly valid
  | turn task succeeds => exact turn_orderly valid task succeeds

end Steps

theorem valid_newLifecycle (databasePath : Path) : (newLifecycle databasePath).Valid :=
  ⟨fun _ => ⟨rfl, fun _ => rfl⟩, by rintro ⟨⟩, by rintro ⟨⟩, by rintro (⟨⟨⟩⟩ | ⟨⟨⟩⟩)⟩

end Lifecycle

open Lifecycle

/-- However a start, the calls of other threads and the turns of its own threads follow each other, the server comes up
once at most, and never after it was initialized alone or a thread was missing. Nobody takes the place of a thread
that has left. -/
theorem lifecycle_pairwise (databasePath : Path) (events : List LifecycleEvent) :
    (lifecycleMachine.run (newLifecycle databasePath) events).2.Pairwise LifecycleOutput.MayPrecede := by
  apply lifecycleMachine.run_pairwise Valid Remembers
  · exact fun life event valid => (step_orderly valid event).valid
  · intro life event valid
    have single := (step_orderly valid event).single
    cases shown : (lifecycleMachine.step life event).2 with
    | nil => exact List.Pairwise.nil
    | cons output rest =>
        rw [shown, List.length_cons] at single
        rw [List.length_eq_zero_iff.mp (Nat.le_zero.mp (Nat.le_of_succ_le_succ single))]
        exact List.pairwise_singleton _ _
  · exact fun life event valid => (step_orderly valid event).records
  · rintro life event output valid ⟨final, created, left⟩
    obtain ⟨-, -, -, settled, present, gone⟩ := step_orderly valid event
    exact ⟨fun shown => (settled (final shown)).1, fun task shown => (present task (created task shown)).1,
      fun task shown => (gone task (left task shown)).1⟩
  · rintro life event output valid ⟨final, created, left⟩ later member
    obtain ⟨-, -, -, settled, present, gone⟩ := step_orderly valid event
    refine ⟨fun shown => (settled (final shown)).2 later member, fun task shown => ⟨?_, ?_⟩, fun task shown => ?_⟩
    · rintro rfl
      exact (present task (created task shown)).2.1 member
    · rintro rfl
      exact (present task (created task shown)).2.2 member
    · rintro rfl
      exact (gone task (left task shown)).2 member
  · exact valid_newLifecycle databasePath

def granted : InitAnswers := ⟨true, true, true, true, true, true, true, true, true, true, true, true⟩

/-- A start succeeds without its accept thread, which has tested `running` too early. -/
example : (lifecycleMachine.run (newLifecycle []) [.start granted true, .turn .accept true, .turn .accept true,
    .starter true, .starter true, .starter true, .turn .accept true, .turn .cleanup true]).2 =
      [.created .accept, .left .accept, .created .cleanup, .created .maintenance, .up] := by decide

/-- The instance of the main program is initialized, and is not running. -/
theorem initializeModules_done {databasePath : Path} {answers : MainAnswers} {server : ServerInstance}
    (made : initializeModules databasePath answers = some server) :
    server.state ≠ .initializing ∧ server.running = false := by
  obtain ⟨running, state⟩ := serverInit_initializes (serverCreate databasePath) answers.init
  unfold initializeModules at made
  split at made
  · cases made
  · dsimp only at made
    split at made
    · cases made
    · rename_i succeeds
      obtain rfl := Option.some.inj made
      rcases state with ⟨fails, -⟩ | ⟨-, runs⟩
      · exact absurd fails succeeds
      · exact ⟨by simp [runs], running⟩

/-- The main program initializes its server before it starts it. So it always exits, with a failure unless it only looks
at its configuration, and no calls of whatever threads bring its server up. -/
theorem main_never_serves (databasePath : Path) (answers : MainAnswers) :
    (∃ failure, main databasePath answers = .exit failure ∧ (answers.checkConfig = false → failure = true)) ∧
      ∀ server ∈ initializeModules databasePath answers, ∀ events,
        ∀ output ∈ (lifecycleMachine.run ⟨server, .idle, false, fun _ => .absent⟩ events).2,
          output.begins = false := by
  constructor
  · unfold main
    split
    · rename_i checks
      exact ⟨_, rfl, fun skips => absurd checks (by simp [skips])⟩
    split
    · exact ⟨true, rfl, fun _ => rfl⟩
    cases made : initializeModules databasePath answers with
    | none => exact ⟨true, rfl, fun _ => rfl⟩
    | some server =>
        obtain ⟨done, stopped⟩ := initializeModules_done made
        have refused : server.serverStart answers.start = (-2, server) := by
          rw [ServerInstance.serverStart, stopped, serverInit_done server _ done]
          rfl
        dsimp only
        split
        · exact ⟨true, rfl, fun _ => rfl⟩
        · rw [refused]
          exact ⟨true, rfl, fun _ => rfl⟩
  · intro server made events
    obtain ⟨done, stopped⟩ := initializeModules_done made
    apply lifecycleMachine.run_outputs (fun _ _ => True) fun life => life.Valid ∧ life.Settled
    · rintro life event ⟨valid, settled⟩ -
      exact ⟨(step_orderly valid event).valid, ((step_orderly valid event).settled settled).1⟩
    · rintro life event ⟨valid, settled⟩ -
      exact ((step_orderly valid event).settled settled).2
    · have settled : Settled ⟨server, .idle, false, fun _ => .absent⟩ := ⟨done, .inl rfl⟩
      exact ⟨⟨fun fresh => absurd fresh done, by rintro ⟨⟩, by rintro ⟨⟩, fun _ => settled⟩, settled⟩
    · exact lifecycleMachine.along_of_forall _ (fun _ _ => trivial) _ events

end SecureChat.Server.Restore
