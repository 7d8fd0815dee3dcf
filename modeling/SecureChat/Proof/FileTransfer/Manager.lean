import SecureChat.Construction.FileTransfer.Manager
import SecureChat.Proof.FileTransfer.Rebuild

namespace SecureChat.FileTransfer
open Library

/-- Once the session was completed, it still is, and its callback was called once
as soon as a round of the manager has found it so. -/
def CompletedOnce (state : ManagedSession × CompletionRecord) : Prop :=
  state.2.completed = true → state.1.session.status = .completed ∧
    state.2.calls = if state.1.completionCallback = true ∧ state.2.processed = true then 1 else 0

instance (state : ManagedSession × CompletionRecord) : Decidable (CompletedOnce state) := by
  unfold CompletedOnce
  infer_instance

/-- A round that finds the session completed can still move its temporary file. -/
def Movable (state : ManagedSession × CompletionRecord) : ManagerInput → Prop
  | .process answers => state.1.place = .active → state.1.blocked = false →
      state.1.session.status = .completed → state.1.tempExists = true ∧ answers.renames = true
  | _ => True

/-- The record goes with the session. -/
structure Traced (state : ManagedSession × CompletionRecord) : Prop where
  completed : state.1.session.status = .completed → state.2.completed = true
  final : state.2.completed = true → state.1.session.status = .completed ∨ state.1.session.status = .failed
  fresh : state.2.completed = false → state.2.processed = false ∧ state.2.calls = 0
  moved : state.1.session.status = .completed → state.2.processed = true → state.1.tempExists = false

/-- What a step does to a session that is not completed. -/
structure OpenStep (managed next : ManagedSession) (events : List TransferEvent) : Prop where
  quiet : events.count .completionCallback = 0
  unseen : events.contains (.processed .completed) = false
  failed : managed.session.status = .failed → next.session.status = .failed

/-- What a step that does not process it does to a session that is completed. -/
structure IdleStep (managed next : ManagedSession) (events : List TransferEvent) : Prop where
  quiet : events = []
  kept : next.session.status = .completed
  callback : next.completionCallback = managed.completionCallback
  temp : managed.tempExists = false → next.tempExists = false

section Step

variable (primitives : Primitives) (key : TransferKey) (config : Config) (managed : ManagedSession)

theorem ftUploadChunk_refused (session : UploadSession) (call : ChunkCall)
    (closed : session.status ≠ .transferring ∧ session.status ≠ .preparing) :
    (ftUploadChunk config.toUploadConfig session call).2 = session := by
  unfold ftUploadChunk
  cases call.data with
  | none => rfl
  | some data =>
      dsimp only
      rw [if_pos closed]
      split <;> rfl

theorem ftDownloadChunk_refused (session : UploadSession) (call : DownloadCall)
    (closed : session.status ≠ .transferring ∧ session.status ≠ .preparing) :
    (ftDownloadChunk primitives key config session call).2 = session ∧
      (ftDownloadChunk primitives key config session call).1 = .invalidState := by
  unfold ftDownloadChunk
  rw [if_pos closed]
  exact ⟨rfl, rfl⟩

theorem chunkAllowed_refused (session : UploadSession) (chunkIndex : UInt32)
    (closed : session.status ≠ .transferring ∧ session.status ≠ .preparing) :
    chunkAllowed session chunkIndex = false := by
  simp [chunkAllowed, closed.1, closed.2]

/-- The chunk calls leave a session alone that takes no chunks. -/
theorem uploadStep_refused (call : ChunkCall)
    (closed : managed.session.status ≠ .transferring ∧ managed.session.status ≠ .preparing) :
    uploadStep config managed call = managed := by
  unfold uploadStep
  rw [ftUploadChunk_refused config managed.session call closed,
    chunkAllowed_refused managed.session call.chunkIndex closed]
  simp

theorem downloadStep_refused (call : DownloadCall)
    (closed : managed.session.status ≠ .transferring ∧ managed.session.status ≠ .preparing) :
    downloadStep primitives key config managed call = managed := by
  obtain ⟨same, refused⟩ := ftDownloadChunk_refused primitives key config managed.session call closed
  have unopened : (ErrorCode.invalidState == ErrorCode.success) = false := rfl
  unfold downloadStep
  dsimp only
  rw [same, refused, unopened]
  simp

theorem ftProcessSession_quiet (answers : ProcessAnswers) (unfinished : managed.session.status ≠ .completed) :
    (ftProcessSession config managed answers).2.2 = [] := by
  unfold ftProcessSession
  cases status : managed.session.status with
  | completed => exact absurd status unfinished
  | verifying =>
      dsimp only
      split
      · split <;> rfl
      · rfl
  | _ => rfl

/-- A session that is not completed calls no completion callback. -/
theorem processStep_open (answers : ProcessAnswers) (unfinished : managed.session.status ≠ .completed) :
    OpenStep managed (processStep config managed answers).1 (processStep config managed answers).2 := by
  unfold processStep
  split
  · exact ⟨rfl, rfl, id⟩
  · dsimp only
    rw [ftProcessSession_quiet config managed answers unfinished]
    split
    · exact ⟨by simp, by simp [Ne.symm unfinished], fun _ => rfl⟩
    · refine ⟨by simp, by simp [Ne.symm unfinished], fun failed => ?_⟩
      simp [ftProcessSession, failed, ManagedSession.touch]

theorem ftCheckTimeout_open (now : Int) :
    OpenStep managed (ftCheckTimeout config managed now) [] := by
  refine ⟨rfl, rfl, fun failed => ?_⟩
  unfold ftCheckTimeout
  simp [failed]

theorem cleanupStep_status (olderThan : Int) :
    (cleanupStep managed olderThan).session.status = managed.session.status := by
  unfold cleanupStep
  split <;> rfl

/-- A step on a session that is not completed. -/
theorem managerStep_open (input : ManagerInput) (unfinished : managed.session.status ≠ .completed) :
    OpenStep managed (managerStep primitives key config managed input).1
      (managerStep primitives key config managed input).2 := by
  cases input with
  | process answers => exact processStep_open config managed answers unfinished
  | checkTimeout now => exact ftCheckTimeout_open config managed now
  | cleanup now => exact ⟨rfl, rfl, fun failed => (cleanupStep_status managed _).trans failed⟩
  | uploadChunk call =>
      refine ⟨rfl, rfl, fun failed => ?_⟩
      show (uploadStep config managed call).session.status = .failed
      rw [uploadStep_refused config managed call (by simp [failed])]
      exact failed
  | downloadChunk call =>
      refine ⟨rfl, rfl, fun failed => ?_⟩
      show (downloadStep primitives key config managed call).session.status = .failed
      rw [downloadStep_refused primitives key config managed call (by simp [failed])]
      exact failed

/-- No step but that of a round touches the status of a session that is completed. -/
theorem managerStep_idle (input : ManagerInput) (finished : managed.session.status = .completed)
    (idle : ∀ answers, input = .process answers → managed.place ≠ .active ∨ managed.blocked = true) :
    IdleStep managed (managerStep primitives key config managed input).1
      (managerStep primitives key config managed input).2 := by
  cases input with
  | process answers =>
      have same : processStep config managed answers = (managed, []) := by
        unfold processStep
        rw [if_pos (idle answers rfl)]
      show IdleStep managed (processStep config managed answers).1 (processStep config managed answers).2
      rw [same]
      exact ⟨rfl, finished, rfl, id⟩
  | checkTimeout now =>
      have same : ftCheckTimeout config managed now = managed := by
        unfold ftCheckTimeout
        simp [finished]
      show IdleStep managed (ftCheckTimeout config managed now) []
      rw [same]
      exact ⟨rfl, finished, rfl, id⟩
  | cleanup now =>
      refine ⟨rfl, (cleanupStep_status managed _).trans finished, ?_, fun gone => ?_⟩
      · show (cleanupStep managed (now - 3600)).completionCallback = _
        unfold cleanupStep
        split <;> rfl
      · show (cleanupStep managed (now - 3600)).tempExists = false
        unfold cleanupStep
        split
        · rfl
        · exact gone
  | uploadChunk call =>
      show IdleStep managed (uploadStep config managed call) []
      rw [uploadStep_refused config managed call (by simp [finished])]
      exact ⟨rfl, finished, rfl, id⟩
  | downloadChunk call =>
      show IdleStep managed (downloadStep primitives key config managed call) []
      rw [downloadStep_refused primitives key config managed call (by simp [finished])]
      exact ⟨rfl, finished, rfl, id⟩

/-- The events of a round that finds the session completed. -/
def finishEvents : List TransferEvent :=
  .processed .completed :: if managed.completionCallback then [.completionCallback] else []

/-- A round calls the callback of a completed session, and then it moves the file or fails. -/
theorem processStep_completed (answers : ProcessAnswers) (active : managed.place = .active)
    (free : managed.blocked = false) (finished : managed.session.status = .completed) :
    processStep config managed answers =
      (if managed.tempExists && answers.renames then { managed with tempExists := false }.touch answers.now
        else { (managed.setStatus .failed).touch answers.now with place := .completed },
        finishEvents managed) := by
  unfold processStep ftProcessSession
  simp only [active, free, finished]
  cases managed.tempExists && answers.renames with
  | true => simp [finishEvents]
  | false => simp [finishEvents, ManagedSession.touch, ManagedSession.setStatus]

end Step

section Run

variable (primitives : Primitives) (key : TransferKey) (config : Config)

theorem finishEvents_calls (managed : ManagedSession) :
    (finishEvents managed).count .completionCallback = if managed.completionCallback = true then 1 else 0 := by
  unfold finishEvents
  cases managed.completionCallback <;> rfl

theorem finishEvents_processed (managed : ManagedSession) :
    (finishEvents managed).contains (.processed .completed) = true := by
  simp [finishEvents]

/-- A step either is a round that finds the session completed, or it leaves a completed session as it is. -/
theorem managerStep_finished (managed : ManagedSession) (input : ManagerInput)
    (finished : managed.session.status = .completed) :
    (∃ answers, input = .process answers ∧ managed.place = .active ∧ managed.blocked = false) ∨
      IdleStep managed (managerStep primitives key config managed input).1
        (managerStep primitives key config managed input).2 := by
  by_cases round : ∃ answers, input = .process answers ∧ managed.place = .active ∧ managed.blocked = false
  · exact .inl round
  · right
    apply managerStep_idle primitives key config managed input finished
    intro answers same
    by_contra both
    rw [not_or, not_not, Bool.not_eq_true] at both
    exact round ⟨answers, same, both⟩

section Record

variable {managed next : ManagedSession} {record : CompletionRecord} {events : List TransferEvent}

theorem OpenStep.note_processed (step : OpenStep managed next events) :
    (record.note next events).processed = record.processed := by
  rw [CompletionRecord.note, step.unseen, Bool.or_false]

theorem OpenStep.note_calls (step : OpenStep managed next events) :
    (record.note next events).calls = record.calls := by
  rw [CompletionRecord.note, step.quiet, Nat.add_zero]

theorem OpenStep.traced (step : OpenStep managed next events) (traced : Traced (managed, record))
    (unfinished : managed.session.status ≠ .completed) : Traced (next, record.note next events) := by
  constructor
  · intro now
    show (record.completed || next.session.status == .completed) = true
    rw [Bool.or_eq_true, beq_iff_eq]
    exact .inr now
  · intro known
    rw [CompletionRecord.note, Bool.or_eq_true, beq_iff_eq] at known
    rcases known with before | now
    · exact .inr (step.failed ((traced.final before).resolve_left unfinished))
    · exact .inl now
  · intro unknown
    rw [CompletionRecord.note, Bool.or_eq_false_iff] at unknown
    dsimp only
    rw [step.note_processed, step.note_calls]
    exact traced.fresh unknown.1
  · intro now processed
    dsimp only at processed
    rw [step.note_processed] at processed
    cases before : record.completed with
    | true =>
        have failed := step.failed ((traced.final before).resolve_left unfinished)
        exact nomatch failed.symm.trans now
    | false => exact nomatch (traced.fresh before).1.symm.trans processed

/-- A session that becomes completed has not called its callback before. -/
theorem OpenStep.completedOnce (step : OpenStep managed next events) (traced : Traced (managed, record))
    (unfinished : managed.session.status ≠ .completed) (once : CompletedOnce (managed, record)) :
    CompletedOnce (next, record.note next events) := by
  intro known
  have before : record.completed = false := by
    rw [← Bool.not_eq_true]
    exact fun before => unfinished (once before).1
  rw [CompletionRecord.note, before, Bool.false_or, beq_iff_eq] at known
  obtain ⟨unseen, uncalled⟩ := traced.fresh before
  refine ⟨known, ?_⟩
  dsimp only at unseen uncalled ⊢
  rw [step.note_calls, step.note_processed, unseen, uncalled]
  simp

theorem IdleStep.note_eq (step : IdleStep managed next events) (known : record.completed = true) :
    record.note next events = record := by
  obtain ⟨completed, processed, calls⟩ := record
  dsimp only at known
  simp [CompletionRecord.note, step.quiet, known]

theorem IdleStep.traced (step : IdleStep managed next events) (traced : Traced (managed, record))
    (finished : managed.session.status = .completed) : Traced (next, record.note next events) := by
  have known : record.completed = true := traced.completed finished
  rw [step.note_eq known]
  refine ⟨fun _ => known, fun _ => .inl step.kept, fun unknown => ?_, ?_⟩
  · exact nomatch known.symm.trans unknown
  · intro _ processed
    exact step.temp (traced.moved finished processed)

theorem IdleStep.completedOnce (step : IdleStep managed next events) (traced : Traced (managed, record))
    (finished : managed.session.status = .completed) (once : CompletedOnce (managed, record)) :
    CompletedOnce (next, record.note next events) := by
  have known : record.completed = true := traced.completed finished
  rw [step.note_eq known]
  intro _
  refine ⟨step.kept, ?_⟩
  dsimp only
  rw [step.callback]
  exact (once known).2

end Record

theorem managerMachine_step (state : ManagedSession × CompletionRecord) (input : ManagerInput) :
    ((managerMachine primitives key config).step state input).1 =
      ((managerStep primitives key config state.1 input).1,
        state.2.note (managerStep primitives key config state.1 input).1
          (managerStep primitives key config state.1 input).2) := rfl

/-- The state after a round that finds the session completed. -/
theorem round_step (managed : ManagedSession) (record : CompletionRecord) (answers : ProcessAnswers)
    (active : managed.place = .active) (free : managed.blocked = false)
    (finished : managed.session.status = .completed) (known : record.completed = true) :
    ((managerMachine primitives key config).step (managed, record) (.process answers)).1 =
      (if managed.tempExists && answers.renames then { managed with tempExists := false }.touch answers.now
        else { (managed.setStatus .failed).touch answers.now with place := .completed },
        ⟨true, true, record.calls + if managed.completionCallback = true then 1 else 0⟩) := by
  rw [managerMachine_step]
  simp only [managerStep, processStep_completed config managed answers active free finished,
    CompletionRecord.note, finishEvents_calls, finishEvents_processed, known, Bool.true_or, Bool.or_true]

theorem traced_step (state : ManagedSession × CompletionRecord) (input : ManagerInput) (traced : Traced state) :
    Traced ((managerMachine primitives key config).step state input).1 := by
  obtain ⟨managed, record⟩ := state
  by_cases finished : managed.session.status = .completed
  · rcases managerStep_finished primitives key config managed input finished with
      ⟨answers, rfl, active, free⟩ | idle
    · rw [round_step primitives key config managed record answers active free finished
        (traced.completed finished)]
      split
      · exact ⟨fun _ => rfl, fun _ => .inl finished, (fun unknown => nomatch unknown), fun _ _ => rfl⟩
      · exact ⟨fun _ => rfl, fun _ => .inr rfl, (fun unknown => nomatch unknown), fun same => nomatch same⟩
    · exact idle.traced traced finished
  · exact (managerStep_open primitives key config managed input finished).traced traced finished

/-- A step keeps a completed session exactly when a round can still move its file. -/
theorem completedOnce_step (state : ManagedSession × CompletionRecord) (input : ManagerInput)
    (traced : Traced state) (once : CompletedOnce state) :
    CompletedOnce ((managerMachine primitives key config).step state input).1 ↔ Movable state input := by
  obtain ⟨managed, record⟩ := state
  by_cases finished : managed.session.status = .completed
  · have known : record.completed = true := traced.completed finished
    rcases managerStep_finished primitives key config managed input finished with
      ⟨answers, rfl, active, free⟩ | idle
    · have movable : Movable (managed, record) (.process answers) ↔
          (managed.tempExists && answers.renames) = true := by
        simp [Movable, active, free, finished]
      rw [round_step primitives key config managed record answers active free finished known, movable]
      cases moves : managed.tempExists && answers.renames with
      | true =>
          have unseen : record.processed = false := by
            rw [← Bool.not_eq_true]
            intro processed
            have gone := traced.moved finished processed
            simp [show managed.tempExists = false from gone] at moves
          have calls := (once known).2
          dsimp only at calls
          simp only [unseen, Bool.false_eq_true, and_false, if_false] at calls
          refine iff_of_true (fun _ => ⟨finished, ?_⟩) rfl
          simp [calls, ManagedSession.touch]
      | false => exact iff_of_false (fun later => nomatch (later rfl).1) Bool.false_ne_true
    · refine iff_of_true (idle.completedOnce traced finished once) ?_
      cases input with
      | process answers =>
          intro active free _
          have events := idle.quiet
          simp [managerStep, processStep_completed config managed answers active free finished,
            finishEvents] at events
      | _ => trivial
  · refine iff_of_true
      ((managerStep_open primitives key config managed input finished).completedOnce traced finished once) ?_
    cases input with
    | process answers => exact fun _ _ same => absurd same finished
    | _ => trivial

end Run

/-- Nothing is completed yet. -/
def noCompletion : CompletionRecord := ⟨false, false, 0⟩

/-- A transfer stays completed and calls its callback once, exactly as long as every round that finds it
completed can still move its temporary file. -/
theorem managerMachine_completedOnce_iff (primitives : Primitives) (key : TransferKey) (config : Config)
    (fileSize : UInt64) (encryptionEnabled compressionEnabled completionCallback expectedChecksum : Bool)
    (now : Int) (inputs : List ManagerInput) :
    (∀ visited ∈ (managerMachine primitives key config).states
        (startTransfer config fileSize encryptionEnabled compressionEnabled completionCallback
          expectedChecksum now, noCompletion) inputs, CompletedOnce visited) ↔
      (managerMachine primitives key config).Along Movable
        (startTransfer config fileSize encryptionEnabled compressionEnabled completionCallback
          expectedChecksum now, noCompletion) inputs := by
  have traced : Traced (startTransfer config fileSize encryptionEnabled compressionEnabled completionCallback
      expectedChecksum now, noCompletion) :=
    ⟨(fun same => nomatch same), (fun known => nomatch known), fun _ => ⟨rfl, rfl⟩, fun same => nomatch same⟩
  exact (managerMachine primitives key config).states_iff_along Movable Traced CompletedOnce
    (traced_step primitives key config)
    (fun state input traced once => completedOnce_step primitives key config state input traced once)
    (startTransfer config fileSize encryptionEnabled compressionEnabled completionCallback
      expectedChecksum now, noCompletion) inputs traced (fun known => nomatch known)

/-- All calls of a round succeed. -/
def soundRound : ProcessAnswers := ⟨none, .success, true, 0⟩

/-- The only chunk of a file with one byte. -/
def onlyChunk : ChunkCall := ⟨0, some ⟨[7], by decide⟩, ⟨true, true, true, true, (.success, []), (.success, []), 1⟩, 0⟩

/-- The third round moves a file that the second one has moved already. -/
theorem managerMachine_moves_twice :
    ((managerMachine simplePrimitives ⟨[], []⟩ defaultConfig).run
        (startTransfer defaultConfig 1 false false true false 0, noCompletion)
        [.uploadChunk onlyChunk, .process soundRound]).1.1.session.status = .completed ∧
      ((managerMachine simplePrimitives ⟨[], []⟩ defaultConfig).run
        (startTransfer defaultConfig 1 false false true false 0, noCompletion)
        [.uploadChunk onlyChunk, .process soundRound, .process soundRound, .process soundRound]).1.1.session.status =
          .failed ∧
      ((managerMachine simplePrimitives ⟨[], []⟩ defaultConfig).run
        (startTransfer defaultConfig 1 false false true false 0, noCompletion)
        [.uploadChunk onlyChunk, .process soundRound, .process soundRound, .process soundRound]).2.count
          .completionCallback = 2 ∧
      ¬ ∀ visited ∈ (managerMachine simplePrimitives ⟨[], []⟩ defaultConfig).states
        (startTransfer defaultConfig 1 false false true false 0, noCompletion)
        [.uploadChunk onlyChunk, .process soundRound, .process soundRound, .process soundRound],
        CompletedOnce visited := by
  refine ⟨by decide, by decide, by decide, by decide⟩

end SecureChat.FileTransfer
