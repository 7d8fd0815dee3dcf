import Mathlib.Algebra.BigOperators.Group.Finset.Basic
import SecureChat.Construction.Web.Transfers

namespace SecureChat.Web
open Library

/-- A status that a transfer should not leave. -/
def FileTransferStatus.Ending (status : FileTransferStatus) : Prop :=
  status = .completed ∨ status = .failed ∨ status = .cancelled

/-- The later status, if the earlier one is an ending. -/
def KeepsEnding (earlier later : FileTransferStatus) : Prop := earlier.Ending → later = earlier

theorem KeepsEnding.refl (status : FileTransferStatus) : KeepsEnding status status := fun _ => rfl

theorem KeepsEnding.trans {first second third : FileTransferStatus} (former : KeepsEnding first second)
    (latter : KeepsEnding second third) : KeepsEnding first third := by
  intro ending
  have same := former ending
  rw [← same] at ending
  exact (latter ending).trans same

/-- Before the end only a cancellation is an ending. -/
theorem keepsEnding_iff_of_running {status later : FileTransferStatus}
    (running : ¬(status = .completed ∨ status = .failed)) (other : later ≠ .cancelled) :
    KeepsEnding status later ↔ status ≠ .cancelled := by
  constructor
  · intro keeps cancelled
    exact other ((keeps (.inr (.inr cancelled))).trans cancelled)
  · rintro here (completed | failed | cancelled)
    · exact absurd (.inl completed) running
    · exact absurd (.inr failed) running
    · exact absurd cancelled here

theorem keepsEnding_iff_of_not_ending {status later : FileTransferStatus} (different : ¬later.Ending) :
    KeepsEnding status later ↔ ¬status.Ending := by
  constructor
  · intro keeps ending
    have same := keeps ending
    exact different (same ▸ ending)
  · exact fun running ending => absurd ending running

/-- A cancellation changes the other two endings only. -/
theorem keepsEnding_cancelled_iff (status : FileTransferStatus) :
    KeepsEnding status .cancelled ↔ status ≠ .completed ∧ status ≠ .failed := by
  cases status <;> simp [KeepsEnding, FileTransferStatus.Ending]

namespace DownloadTask

/-- The chunk in a message, if the message is long enough for its fields. -/
def payload (data : List UInt8) : Option (List UInt8) := do
  let chunkSize ← getUint 4 12 data
  let _ ← getUint 4 16 data
  some (sliceBytes 20 (20 + chunkSize) data)

/-- What has arrived for each index, where a later chunk replaces an earlier one. -/
def record (received : Nat → Option (List UInt8)) : DownloadEvent → Nat → Option (List UInt8)
  | .chunk chunkIndex data =>
      match payload data with
      | none => received
      | some chunk => Function.update received chunkIndex (some chunk)
  | _ => received

def arrivals (events : List DownloadEvent) : Nat → Option (List UInt8) := events.foldl record fun _ => none

theorem handleDownloadChunk_eq (download : FileDownload) (chunkIndex : Nat) (data : List UInt8) :
    (data.length < 20 ∧ payload data = none ∧ download.handleDownloadChunk chunkIndex data = none) ∨
      ∃ chunkSize after, getUint 4 12 data = some chunkSize ∧ payload data = some (sliceBytes 20 (20 + chunkSize) data) ∧
        20 ≤ data.length ∧ download.handleDownloadChunk chunkIndex data = some after ∧
        after.chunks = Function.update download.chunks chunkIndex (some (sliceBytes 20 (20 + chunkSize) data)) ∧
        after.receivedChunks = insert chunkIndex download.receivedChunks ∧
        after.bytesTransferred = download.bytesTransferred + chunkSize := by
  unfold payload FileDownload.handleDownloadChunk
  by_cases long : 20 ≤ data.length
  · have size : getUint 4 12 data = some (bigEndianValue (sliceBytes 12 (12 + 4) data)) := if_pos (by omega)
    have total : getUint 4 16 data = some (bigEndianValue (sliceBytes 16 (16 + 4) data)) := if_pos long
    rw [size, total]
    exact .inr ⟨_, _, rfl, rfl, long, rfl, rfl, rfl, rfl⟩
  · have total : getUint 4 16 data = none := if_neg long
    rw [total]
    cases getUint 4 12 data <;> exact .inl ⟨Nat.not_le.mp long, rfl, rfl⟩

/-- Only a chunk changes what has arrived. -/
theorem handle_kept (task : DownloadTask) (event : DownloadEvent) (other : ∀ chunkIndex data, event ≠ .chunk chunkIndex data) :
    (task.handle event).1.chunks = task.chunks ∧ (task.handle event).1.receivedChunks = task.receivedChunks ∧
      (task.handle event).1.bytesTransferred = task.bytesTransferred := by
  cases event with
  | chunk chunkIndex data => exact absurd rfl (other chunkIndex data)
  | response status data =>
      rw [handle]
      unfold FileDownload.handleDownloadResponse
      by_cases accepted : status = 200
      · cases size : readFileSize data with
        | none => simp [accepted]
        | some fileSize =>
            cases total : readTotalChunks data with
            | none => simp [accepted]
            | some totalChunks => simp [accepted]
      · simp [accepted]
  | requestSettled answer =>
      cases answer <;> rw [handle] <;> split <;> exact ⟨rfl, rfl, rfl⟩
  | checkInterval =>
      rw [handle]
      split
      · unfold finish
        split <;> exact ⟨rfl, rfl, rfl⟩
      · exact ⟨rfl, rfl, rfl⟩
  | timeout =>
      rw [handle]
      split <;> exact ⟨rfl, rfl, rfl⟩
  | pause => exact ⟨rfl, rfl, rfl⟩
  | resume => exact ⟨rfl, rfl, rfl⟩
  | cancel => exact ⟨rfl, rfl, rfl⟩

/-- All bytes of the chunks, each index counted once. -/
def distinctBytes (download : FileDownload) : Nat :=
  ∑ chunkIndex ∈ download.receivedChunks, ((download.chunks chunkIndex).getD []).length

/-- The set of indices and the map of chunks have the same keys. -/
def SameKeys (download : FileDownload) : Prop :=
  ∀ chunkIndex, chunkIndex ∈ download.receivedChunks ↔ (download.chunks chunkIndex).isSome

theorem distinctBytes_update {download after : FileDownload} (keys : SameKeys download) {chunkIndex : Nat}
    {chunk : List UInt8} (chunks : after.chunks = Function.update download.chunks chunkIndex (some chunk))
    (received : after.receivedChunks = insert chunkIndex download.receivedChunks) :
    distinctBytes after + ((download.chunks chunkIndex).getD []).length = distinctBytes download + chunk.length := by
  have others : ∑ other ∈ download.receivedChunks.erase chunkIndex, ((after.chunks other).getD []).length =
      ∑ other ∈ download.receivedChunks.erase chunkIndex, ((download.chunks other).getD []).length := by
    apply Finset.sum_congr rfl
    intro other member
    rw [chunks, Function.update_of_ne (Finset.ne_of_mem_erase member)]
  have new : distinctBytes after =
      chunk.length + ∑ other ∈ download.receivedChunks.erase chunkIndex, ((download.chunks other).getD []).length := by
    have split : after.receivedChunks = insert chunkIndex (download.receivedChunks.erase chunkIndex) := by
      rw [received, ← Finset.erase_insert_eq_erase, Finset.insert_erase (Finset.mem_insert_self _ _)]
    rw [distinctBytes, split, Finset.sum_insert (Finset.notMem_erase _ _), others, chunks, Function.update_self]
    rfl
  have old : distinctBytes download = ((download.chunks chunkIndex).getD []).length +
      ∑ other ∈ download.receivedChunks.erase chunkIndex, ((download.chunks other).getD []).length := by
    by_cases member : chunkIndex ∈ download.receivedChunks
    · exact (Finset.add_sum_erase _ _ member).symm
    · have absent : download.chunks chunkIndex = none := by
        simpa [member] using keys chunkIndex
      rw [absent, Finset.erase_eq_of_notMem member]
      exact (Nat.zero_add _).symm
  omega

/-- A chunk message is complete, and no bytes were received for its index. -/
def FreshChunk (task : DownloadTask) : DownloadEvent → Prop
  | .chunk chunkIndex data =>
      ∀ chunkSize, getUint 4 12 data = some chunkSize → 20 ≤ data.length →
        20 + chunkSize ≤ data.length ∧ (task.chunks chunkIndex).getD [] = []
  | _ => True

/-- Every byte that was counted is a byte of a chunk. -/
structure Counted (task : DownloadTask) : Prop where
  keys : SameKeys task.toFileDownload
  bytes : task.bytesTransferred = distinctBytes task.toFileDownload

theorem sliceBytes_length (chunkSize : Nat) (data : List UInt8) :
    (sliceBytes 20 (20 + chunkSize) data).length = min chunkSize (data.length - 20) := by
  rw [sliceBytes, List.length_take, List.length_drop, Nat.add_sub_cancel_left]

theorem Counted.chunk {task : DownloadTask} (counted : task.Counted) (chunkIndex : Nat) (data : List UInt8) :
    SameKeys (task.handle (.chunk chunkIndex data)).1.toFileDownload ∧
      ((task.handle (.chunk chunkIndex data)).1.bytesTransferred ≤
          distinctBytes (task.handle (.chunk chunkIndex data)).1.toFileDownload ↔
        task.FreshChunk (.chunk chunkIndex data)) ∧
      (task.FreshChunk (.chunk chunkIndex data) → (task.handle (.chunk chunkIndex data)).1.bytesTransferred =
        distinctBytes (task.handle (.chunk chunkIndex data)).1.toFileDownload) := by
  rw [handle]
  rcases handleDownloadChunk_eq task.toFileDownload chunkIndex data with
    ⟨short, _, refused⟩ | ⟨chunkSize, after, size, read, long, accepted, chunks, received, bytes⟩
  · have fresh : task.FreshChunk (.chunk chunkIndex data) := fun _ _ long => absurd long (Nat.not_le.mpr short)
    rw [refused]
    exact ⟨counted.keys, iff_of_true counted.bytes.le fresh, fun _ => counted.bytes⟩
  · rw [accepted]
    have keys : SameKeys after := by
      intro other
      rw [received, chunks, Finset.mem_insert]
      by_cases same : other = chunkIndex
      · simp [same]
      · rw [Function.update_of_ne same, or_iff_right same]
        exact counted.keys other
    have total := distinctBytes_update counted.keys chunks received
    have fresh : task.FreshChunk (.chunk chunkIndex data) ↔
        20 + chunkSize ≤ data.length ∧ ((task.chunks chunkIndex).getD []).length = 0 := by
      rw [FreshChunk, size, List.length_eq_zero_iff]
      simp [long]
    have counts := counted.bytes
    rw [sliceBytes_length] at total
    dsimp only
    rw [fresh, bytes, counts]
    refine ⟨keys, ⟨fun within => ?_, fun both => ?_⟩, fun both => ?_⟩ <;> omega

/-- A step counts no byte twice exactly if a chunk that it receives is fresh. -/
theorem Counted.step {task : DownloadTask} (counted : task.Counted) (event : DownloadEvent) :
    ((task.handle event).1.bytesTransferred ≤ distinctBytes (task.handle event).1.toFileDownload ↔
      task.FreshChunk event) ∧ (task.FreshChunk event → (task.handle event).1.Counted) := by
  by_cases chunk : ∃ chunkIndex data, event = .chunk chunkIndex data
  · obtain ⟨chunkIndex, data, rfl⟩ := chunk
    obtain ⟨keys, within, bytes⟩ := counted.chunk chunkIndex data
    exact ⟨within, fun fresh => ⟨keys, bytes fresh⟩⟩
  · have other : ∀ chunkIndex data, event ≠ .chunk chunkIndex data := by
      intro chunkIndex data same
      exact chunk ⟨chunkIndex, data, same⟩
    obtain ⟨chunks, received, bytes⟩ := handle_kept task event other
    have fresh : task.FreshChunk event := by
      cases event with
      | chunk chunkIndex data => exact absurd rfl (other chunkIndex data)
      | _ => trivial
    have total : distinctBytes (task.handle event).1.toFileDownload = distinctBytes task.toFileDownload := by
      rw [distinctBytes, chunks, received]
      rfl
    have kept : (task.handle event).1.Counted := by
      constructor
      · intro chunkIndex
        rw [chunks, received]
        exact counted.keys chunkIndex
      · rw [bytes, total]
        exact counted.bytes
    exact ⟨iff_of_true kept.bytes.le fresh, fun _ => kept⟩

/-- No call changes an ending, and `start` does not go on after a cancellation. -/
def StaysEnded (task : DownloadTask) : DownloadEvent → Prop
  | .requestSettled _ => task.stage = .requesting → task.status ≠ .cancelled
  | .checkInterval => task.stage = .waiting → task.complete = true → task.status ≠ .cancelled
  | .timeout => task.stage = .waiting → task.status ≠ .cancelled
  | .response _ _ => True
  | .chunk _ _ => True
  | .pause => ¬task.status.Ending
  | .resume => ¬task.status.Ending
  | .cancel => task.status ≠ .completed ∧ task.status ≠ .failed

/-- A download has completed or failed only after its call of `start` settled. -/
def Settled (task : DownloadTask) : Prop := task.status = .completed ∨ task.status = .failed → task.stage = .settled

theorem finish_settled (task : DownloadTask) : task.finish.1.stage = .settled ∧
    (task.finish.1.status = .completed ∨ task.finish.1.status = .failed) := by
  unfold finish
  split
  · exact ⟨rfl, .inr rfl⟩
  · exact ⟨rfl, .inl rfl⟩

theorem Settled.step {task : DownloadTask} (settled : task.Settled) (event : DownloadEvent) :
    (task.handle event).1.Settled ∧
      (KeepsEnding task.status (task.handle event).1.status ↔ task.StaysEnded event) := by
  cases event with
  | requestSettled answer =>
      by_cases here : task.stage = .requesting
      · have pending : task.stage ≠ .settled := by simp [here]
        cases answer with
        | error error =>
            rw [handle, if_pos here]
            refine ⟨fun _ => rfl, ?_⟩
            rw [keepsEnding_iff_of_running (mt settled pending) (by simp [fail]), StaysEnded]
            exact (imp_iff_right here).symm
        | ok answer =>
            rw [handle, if_pos here]
            refine ⟨by simp [Settled], ?_⟩
            rw [keepsEnding_iff_of_running (mt settled pending) (by simp), StaysEnded]
            exact (imp_iff_right here).symm
      · have ignored : task.handle (.requestSettled answer) = (task, []) := by
          cases answer <;> exact if_neg here
        rw [ignored]
        exact ⟨settled, iff_of_true (KeepsEnding.refl _) fun requesting => absurd requesting here⟩
  | checkInterval =>
      by_cases here : task.stage = .waiting ∧ task.complete = true
      · have pending : task.stage ≠ .settled := by simp [here.1]
        obtain ⟨stage, status⟩ := task.finish_settled
        rw [handle, if_pos here]
        refine ⟨fun _ => stage, ?_⟩
        have other : task.finish.1.status ≠ .cancelled := by
          rcases status with same | same <;> simp [same]
        rw [keepsEnding_iff_of_running (mt settled pending) other, StaysEnded]
        simp [here.1, here.2]
      · rw [handle, if_neg here]
        refine ⟨settled, iff_of_true (KeepsEnding.refl _) fun waiting complete => absurd ⟨waiting, complete⟩ here⟩
  | timeout =>
      by_cases here : task.stage = .waiting
      · have pending : task.stage ≠ .settled := by simp [here]
        rw [handle, if_pos here]
        refine ⟨fun _ => rfl, ?_⟩
        rw [keepsEnding_iff_of_running (mt settled pending) (by simp [fail]), StaysEnded]
        exact (imp_iff_right here).symm
      · rw [handle, if_neg here]
        exact ⟨settled, iff_of_true (KeepsEnding.refl _) fun waiting => absurd waiting here⟩
  | response status data =>
      rw [handle]
      split <;> exact ⟨settled, iff_of_true (KeepsEnding.refl _) trivial⟩
  | chunk chunkIndex data =>
      rw [handle]
      split <;> exact ⟨settled, iff_of_true (KeepsEnding.refl _) trivial⟩
  | pause => exact ⟨by simp [Settled, handle], keepsEnding_iff_of_not_ending (by simp [FileTransferStatus.Ending, handle])⟩
  | resume => exact ⟨by simp [Settled, handle], keepsEnding_iff_of_not_ending (by simp [FileTransferStatus.Ending, handle])⟩
  | cancel =>
      refine ⟨by simp [Settled, handle], ?_⟩
      exact keepsEnding_cancelled_iff task.status

/-- The last chunk is not missing, and none in front of it is. -/
def Whole (task : DownloadTask) : Prop := ∀ i < task.totalChunks, (task.chunks i).isSome

/-- The content of a file whose chunks have been received. -/
def content (totalChunks : Nat) (received : Nat → Option (List UInt8)) : List UInt8 :=
  (List.range totalChunks).flatMap fun i => (received i).getD []

/-- A download whose wait ends with all chunks has a path to save them at. -/
def HasTarget (task : DownloadTask) : DownloadEvent → Prop
  | .checkInterval => task.stage = .waiting → task.complete = true → task.Whole → task.targetPath.any (· ≠ "") = true
  | _ => True

/-- Each step of a download as it should be. -/
structure Orderly (task : DownloadTask) (event : DownloadEvent) : Prop where
  target : task.HasTarget event
  chunk : task.FreshChunk event
  status : task.StaysEnded event

end DownloadTask

namespace UploadTask

/-- The answer to the last chunk lets the upload wait for its completion. -/
def AtLastChunk (task : UploadTask) : Prop := ∃ chunkIndex, task.stage = .chunk chunkIndex ∧ task.totalChunks ≤ chunkIndex + 1

def GoesOn (task : UploadTask) : Prop := task.awaiting = true → task.AtLastChunk ∨ task.status ≠ .cancelled

/-- No call changes an ending, and `start` does not go on after a cancellation. -/
def StaysEnded (task : UploadTask) : UploadEvent → Prop
  | .settled (.error _) => task.awaiting = true → task.status ≠ .cancelled
  | .settled (.ok ()) => task.GoesOn
  | .timer => ∀ chunkIndex, task.stage = .pausedAt chunkIndex → task.status ≠ .cancelled
  | .uploadResponse _ => True
  | .chunkResponse _ _ => True
  | .pause => ¬task.status.Ending
  | .resume => ¬task.status.Ending
  | .cancel => task.status ≠ .completed ∧ task.status ≠ .failed

/-- As long as the endings are kept, the flag and the status of a cancellation agree. -/
structure Tracked (task : UploadTask) : Prop where
  settled : task.status = .completed ∨ task.status = .failed → task.stage = .settled
  cancelled : task.cancelled = true ↔ task.status = .cancelled

theorem uploadChunks_status (task : UploadTask) (chunkIndex : Nat) :
    (task.uploadChunks chunkIndex).1.status =
      if chunkIndex < task.totalChunks ∧ task.cancelled = true then .failed else task.status := by
  unfold uploadChunks
  by_cases more : chunkIndex < task.totalChunks
  · cases cancelled : task.cancelled with
    | true => simp [more, fail]
    | false => cases paused : task.paused <;> simp [more]
  · simp [more]

theorem uploadChunks_cancelled (task : UploadTask) (chunkIndex : Nat) :
    (task.uploadChunks chunkIndex).1.cancelled = task.cancelled := by
  unfold uploadChunks
  split
  · split
    · rfl
    · split <;> rfl
  · rfl

/-- The loop goes on, as long as no cancellation meets a chunk that is left. -/
theorem Tracked.uploadChunks {task : UploadTask} {chunkIndex : Nat}
    (goesOn : ¬(chunkIndex < task.totalChunks ∧ task.cancelled = true))
    (running : ¬(task.status = .completed ∨ task.status = .failed))
    (flag : task.cancelled = true ↔ task.status = .cancelled) : (task.uploadChunks chunkIndex).1.Tracked := by
  have status := task.uploadChunks_status chunkIndex
  rw [if_neg goesOn] at status
  constructor
  · rw [status]
    exact fun ended => absurd ended running
  · rw [status, uploadChunks_cancelled]
    exact flag

/-- What an answer sets free, by the stage that waits for it. -/
theorem resumeStart_eq (task : UploadTask) :
    (task.stage = .metadata ∧ task.resumeStart = { task with status := .transferring }.uploadChunks 0) ∨
      (∃ chunkIndex, task.stage = .chunk chunkIndex ∧
        task.resumeStart = (task.advance chunkIndex).uploadChunks (chunkIndex + 1)) ∨
      (task.stage = .completion ∧ task.resumeStart = ({ task with status := .completed, stage := .settled }, [])) ∨
      (task.awaiting = false ∧ task.resumeStart = (task, [])) := by
  unfold resumeStart awaiting
  split
  · exact .inl ⟨by assumption, rfl⟩
  · exact .inr (.inl ⟨_, by assumption, rfl⟩)
  · exact .inr (.inr (.inl ⟨by assumption, rfl⟩))
  · exact .inr (.inr (.inr ⟨rfl, rfl⟩))
  · exact .inr (.inr (.inr ⟨rfl, rfl⟩))

theorem Tracked.resumeStart {task : UploadTask} (tracked : task.Tracked) :
    (KeepsEnding task.status task.resumeStart.1.status ↔ task.GoesOn) ∧ (task.GoesOn → task.resumeStart.1.Tracked) := by
  unfold GoesOn AtLastChunk
  rcases task.resumeStart_eq with ⟨stage, goes⟩ | ⟨chunkIndex, stage, goes⟩ | ⟨stage, goes⟩ | ⟨idle, goes⟩
  · have running := mt tracked.settled (by simp [stage])
    have other : task.resumeStart.1.status ≠ .cancelled := by
      rw [goes, uploadChunks_status]
      split <;> simp
    rw [keepsEnding_iff_of_running running other, goes]
    simp only [awaiting, stage, reduceCtorEq, false_and, exists_false, false_or, forall_const, true_and]
    intro here
    have flag : ¬task.cancelled = true := mt tracked.cancelled.mp here
    exact Tracked.uploadChunks (fun both => flag both.2) (by simp) (iff_of_false flag (by simp))
  · have running := mt tracked.settled (by simp [stage])
    have guard : (task.awaiting = true → (∃ index, task.stage = .chunk index ∧ task.totalChunks ≤ index + 1) ∨
        task.status ≠ .cancelled) ↔ ¬(chunkIndex + 1 < task.totalChunks ∧ task.cancelled = true) := by
      rw [tracked.cancelled, not_and_or, Nat.not_lt]
      simp [awaiting, stage]
    have status : ((task.advance chunkIndex).uploadChunks (chunkIndex + 1)).1.status =
        if chunkIndex + 1 < task.totalChunks ∧ task.cancelled = true then .failed else task.status :=
      uploadChunks_status _ _
    rw [guard, goes, status]
    constructor
    · by_cases stops : chunkIndex + 1 < task.totalChunks ∧ task.cancelled = true
      · rw [if_pos stops, keepsEnding_iff_of_running running (by simp), ← not_iff_not]
        exact iff_of_true (fun here => here (tracked.cancelled.mp stops.2)) (fun goesOn => goesOn stops)
      · rw [if_neg stops]
        exact iff_of_true (KeepsEnding.refl _) stops
    · exact fun goesOn => Tracked.uploadChunks goesOn running tracked.cancelled
  · have running := mt tracked.settled (by simp [stage])
    rw [goes, keepsEnding_iff_of_running running (by simp)]
    simp only [awaiting, stage, reduceCtorEq, false_and, exists_false, false_or, forall_const, true_and]
    intro here
    have flag : ¬task.cancelled = true := mt tracked.cancelled.mp here
    exact ⟨fun _ => rfl, iff_of_false flag (by simp)⟩
  · rw [goes, idle]
    exact ⟨iff_of_true (KeepsEnding.refl _) (fun awaits => Bool.noConfusion awaits), fun _ => tracked⟩

theorem Tracked.fail {task : UploadTask} (tracked : task.Tracked) (pending : task.stage ≠ .settled) (error : String) :
    (KeepsEnding task.status (task.fail error).1.status ↔ task.status ≠ .cancelled) ∧
      (task.status ≠ .cancelled → (task.fail error).1.Tracked) := by
  refine ⟨keepsEnding_iff_of_running (mt tracked.settled pending) (by simp [UploadTask.fail]), fun here => ?_⟩
  exact ⟨fun _ => rfl, iff_of_false (mt tracked.cancelled.mp here) (by simp [UploadTask.fail])⟩

/-- A pause and a resumption leave the flag of a cancellation. -/
theorem Tracked.switch {task next : UploadTask} (tracked : task.Tracked) (flag : next.cancelled = task.cancelled)
    (different : ¬next.status.Ending) :
    (KeepsEnding task.status next.status ↔ ¬task.status.Ending) ∧ (¬task.status.Ending → next.Tracked) := by
  refine ⟨keepsEnding_iff_of_not_ending different, fun running => ?_⟩
  constructor
  · rintro (completed | failed)
    · exact absurd (.inl completed) different
    · exact absurd (.inr (.inl failed)) different
  · rw [flag, tracked.cancelled]
    apply iff_of_false
    · exact fun here => running (.inr (.inr here))
    · exact fun here => different (.inr (.inr here))

theorem Tracked.step {task : UploadTask} (tracked : task.Tracked) (event : UploadEvent) :
    (KeepsEnding task.status (task.handle event).1.status ↔ task.StaysEnded event) ∧
      (task.StaysEnded event → (task.handle event).1.Tracked) := by
  cases event with
  | settled answer =>
      cases answer with
      | ok answer => exact tracked.resumeStart
      | error error =>
          rw [handle, StaysEnded]
          by_cases awaits : task.awaiting = true
          · have pending : task.stage ≠ .settled := by
              intro ended
              simp [awaiting, ended] at awaits
            rw [if_pos awaits, imp_iff_right awaits]
            exact tracked.fail pending error
          · rw [if_neg awaits]
            exact ⟨iff_of_true (KeepsEnding.refl _) fun waits => absurd waits awaits, fun _ => tracked⟩
  | timer =>
      rw [handle, StaysEnded]
      split
      · rename_i chunkIndex stage
        have pending : task.stage ≠ .settled := by simp [stage]
        have guard : (∀ index, task.stage = .pausedAt index → task.status ≠ .cancelled) ↔ task.status ≠ .cancelled :=
          ⟨fun all => all chunkIndex stage, fun here _ _ => here⟩
        rw [guard]
        split
        · exact tracked.fail pending _
        · rename_i flag
          have here : task.status ≠ .cancelled := mt tracked.cancelled.mpr flag
          split
          · exact ⟨iff_of_true (KeepsEnding.refl _) here, fun _ => tracked⟩
          · exact ⟨iff_of_true (KeepsEnding.refl _) here,
              fun _ => ⟨fun ended => absurd ended (mt tracked.settled pending), tracked.cancelled⟩⟩
      · rename_i other
        refine ⟨iff_of_true (KeepsEnding.refl _) fun chunkIndex stage => absurd stage (other chunkIndex), fun _ => tracked⟩
  | uploadResponse status =>
      rw [handle]
      split <;> exact ⟨iff_of_true (KeepsEnding.refl _) trivial, fun _ => tracked⟩
  | chunkResponse chunkIndex status =>
      rw [handle]
      split
      · dsimp only
        split <;> exact ⟨iff_of_true (KeepsEnding.refl _) trivial, fun _ => ⟨tracked.settled, tracked.cancelled⟩⟩
      · exact ⟨iff_of_true (KeepsEnding.refl _) trivial, fun _ => ⟨tracked.settled, tracked.cancelled⟩⟩
  | pause => exact tracked.switch rfl (by simp [FileTransferStatus.Ending, handle])
  | resume => exact tracked.switch rfl (by simp [FileTransferStatus.Ending, handle])
  | cancel => exact ⟨keepsEnding_cancelled_iff task.status, fun _ => ⟨by simp [handle], iff_of_true rfl rfl⟩⟩

end UploadTask

end SecureChat.Web
