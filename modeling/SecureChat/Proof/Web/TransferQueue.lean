import Mathlib.Data.List.Nodup
import SecureChat.Construction.Web.Transfers

namespace SecureChat.Web
open Library

/-- At most the limit runs, nothing is started twice, and nothing waits while there is room. -/
structure TransferQueue.Scheduled (limit : Nat) (queue : TransferQueue) : Prop where
  bounded : queue.running.length ≤ limit
  once : queue.started.Nodup
  prompt : queue.running.length < limit → queue.waiting = []

instance (limit : Nat) (queue : TransferQueue) : Decidable (queue.Scheduled limit) :=
  decidable_of_iff (queue.running.length ≤ limit ∧ queue.started.Nodup ∧
      (queue.running.length < limit → queue.waiting = []))
    ⟨fun ⟨bounded, once, prompt⟩ => ⟨bounded, once, prompt⟩,
      fun scheduled => ⟨scheduled.bounded, scheduled.once, scheduled.prompt⟩⟩

def TransferQueues.Scheduled (queues : TransferQueues) : Prop :=
  queues.uploads.Scheduled maxConcurrentUploads ∧ queues.downloads.Scheduled maxConcurrentDownloads

instance (queues : TransferQueues) : Decidable queues.Scheduled := inferInstanceAs (Decidable (_ ∧ _))

/-- Fewer transfers than the limit run, or the map is as full as it looks. -/
def TransferQueue.HasPlace (limit : Nat) (queue : TransferQueue) : Prop :=
  queue.running.length < limit ∨ limit ≤ queue.active.length

/-- Where two transfers wait, the map has all other places taken, and not by the first one of the two. -/
def TransferQueue.Replaces (limit : Nat) (queue : TransferQueue) (serial : Nat) : Prop :=
  ∀ settled, queue.running.find? (fun transfer => transfer.serial = serial) = some settled →
    match queue.waiting with
    | first :: _ :: _ =>
        limit ≤ (deleteActive queue.active settled.transferId).length + 1 ∧
          first.transferId ∉ (deleteActive queue.active settled.transferId).map Transfer.transferId
    | _ => True

/-- No running transfer without an entry lets the loop start one too many. -/
def NoOrphanCounts (queues : TransferQueues) : TransferEvent → Prop
  | .uploadFile size _ => maxFileSize < size ∨ queues.uploads.HasPlace maxConcurrentUploads
  | .downloadFile _ => queues.downloads.HasPlace maxConcurrentDownloads
  | .uploadSettled serial => queues.uploads.Replaces maxConcurrentUploads serial
  | .downloadSettled serial => queues.downloads.Replaces maxConcurrentDownloads serial
  | .cancelTransfer _ => True

section ActiveMap

theorem setActive_keys (active : List Transfer) (transfer : Transfer) :
    (setActive active transfer).map Transfer.transferId =
      if transfer.transferId ∈ active.map Transfer.transferId then active.map Transfer.transferId
      else active.map Transfer.transferId ++ [transfer.transferId] := by
  unfold setActive
  split
  · rw [List.map_map]
    apply List.map_congr_left
    intro entry member
    simp only [Function.comp_apply]
    split
    · rename_i same
      exact same.symm
    · rfl
  · rw [List.map_append, List.map_singleton]

theorem setActive_nodup (active : List Transfer) (transfer : Transfer)
    (keys : (active.map Transfer.transferId).Nodup) :
    ((setActive active transfer).map Transfer.transferId).Nodup := by
  rw [setActive_keys]
  split
  · exact keys
  · rename_i fresh
    exact List.nodup_append.mpr ⟨keys, List.nodup_singleton _, fun key member other last same =>
      fresh (List.mem_singleton.mp last ▸ same ▸ member)⟩

theorem mem_setActive (active : List Transfer) (transfer entry : Transfer)
    (member : entry ∈ setActive active transfer) : entry ∈ active ∨ entry = transfer := by
  unfold setActive at member
  split at member
  · obtain ⟨old, found, rfl⟩ := List.mem_map.mp member
    split
    · exact Or.inr rfl
    · exact Or.inl found
  · rcases List.mem_append.mp member with old | new
    · exact Or.inl old
    · exact Or.inr (List.mem_singleton.mp new)

theorem setActive_length (active : List Transfer) (transfer : Transfer) :
    (setActive active transfer).length =
      if transfer.transferId ∈ active.map Transfer.transferId then active.length else active.length + 1 := by
  unfold setActive
  split
  · rw [List.length_map]
  · rw [List.length_append, List.length_singleton]

end ActiveMap

namespace TransferQueue

/-- Every entry of the map runs, and no serial number is seen twice. -/
structure Sound (limit next : Nat) (queue : TransferQueue) : Prop where
  keys : (queue.active.map Transfer.transferId).Nodup
  entries : queue.active ⊆ queue.running
  busy : queue.waiting = [] ∨ limit ≤ queue.running.length
  serials : (queue.started ++ queue.waiting.map Transfer.serial).Nodup
  old : ∀ serial ∈ queue.started ++ queue.waiting.map Transfer.serial, serial < next

variable {limit next : Nat} {queue : TransferQueue}

theorem empty_sound (limit next : Nat) : empty.Sound limit next :=
  ⟨List.nodup_nil, List.nil_subset _, Or.inl rfl, List.nodup_nil, fun _ member => nomatch member⟩

/-- The map never has more entries than transfers run. -/
theorem active_length_le {active running : List Transfer} (keys : (active.map Transfer.transferId).Nodup)
    (entries : active ⊆ running) : active.length ≤ running.length :=
  (List.Nodup.of_map _ keys).length_le_of_subset entries

/-- The loop keeps the map in order, and it ends with an empty queue or a full map. -/
theorem processQueue_sound (waiting active running : List Transfer) (started : List Nat)
    (keys : (active.map Transfer.transferId).Nodup) (entries : active ⊆ running)
    (serials : (started ++ waiting.map Transfer.serial).Nodup)
    (old : ∀ serial ∈ started ++ waiting.map Transfer.serial, serial < next) :
    (processQueue limit waiting active running started).Sound limit next := by
  induction waiting generalizing active running started with
  | nil => exact ⟨keys, entries, Or.inl rfl, serials, old⟩
  | cons transfer waiting ih =>
      have shape : started ++ (transfer :: waiting).map Transfer.serial =
          (started ++ [transfer.serial]) ++ waiting.map Transfer.serial := by simp
      rw [processQueue]
      split
      · rw [shape] at serials old
        refine ih _ _ _ (setActive_nodup active transfer keys) (fun entry member => ?_) serials old
        rcases mem_setActive active transfer entry member with present | rfl
        · exact List.mem_append_left _ (entries present)
        · exact List.mem_append_right _ List.mem_cons_self
      · rename_i full
        have size := active_length_le keys entries
        exact ⟨keys, entries, Or.inr (by dsimp only; omega), serials, old⟩

/-- The loop only adds to what runs. -/
theorem processQueue_running (waiting active running : List Transfer) (started : List Nat) :
    running.length ≤ (processQueue limit waiting active running started).running.length := by
  induction waiting generalizing active running started with
  | nil => exact Nat.le_refl _
  | cons transfer waiting ih =>
      rw [processQueue]
      split
      · have later := ih (setActive active transfer) (running ++ [transfer]) (started ++ [transfer.serial])
        rw [List.length_append] at later
        omega
      · exact Nat.le_refl _

/-- The loop starts a transfer exactly when one waits and the map has room. -/
theorem processQueue_starts (transfer : Transfer) (waiting active running : List Transfer) (started : List Nat)
    (room : active.length < limit) :
    running.length + 1 ≤ (processQueue limit (transfer :: waiting) active running started).running.length := by
  rw [processQueue, if_pos room]
  refine Nat.le_trans (Nat.le_of_eq ?_)
    (processQueue_running waiting (setActive active transfer) (running ++ [transfer]) (started ++ [transfer.serial]))
  rw [List.length_append, List.length_singleton]

theorem processQueue_full (waiting active running : List Transfer) (started : List Nat)
    (full : limit ≤ active.length) :
    processQueue limit waiting active running started = ⟨waiting, active, running, started⟩ := by
  cases waiting with
  | nil => rfl
  | cons transfer waiting => rw [processQueue, if_neg (by omega)]

theorem Sound.enqueue (sound : queue.Sound limit next) (transferId : Int) :
    (queue.enqueue limit ⟨next, transferId⟩).Sound limit (next + 1) := by
  have shape : queue.started ++ (queue.waiting ++ [(⟨next, transferId⟩ : Transfer)]).map Transfer.serial =
      (queue.started ++ queue.waiting.map Transfer.serial) ++ [next] := by simp
  apply processQueue_sound _ _ _ _ sound.keys sound.entries
  · rw [shape, List.nodup_append]
    refine ⟨sound.serials, List.nodup_singleton _, fun serial member other last same => ?_⟩
    have before := sound.old serial member
    obtain rfl := List.mem_singleton.mp last
    omega
  · rw [shape]
    intro serial member
    rcases List.mem_append.mp member with before | last
    · exact Nat.lt_succ_of_lt (sound.old serial before)
    · exact List.mem_singleton.mp last ▸ Nat.lt_succ_self next

theorem Sound.later (sound : queue.Sound limit next) : queue.Sound limit (next + 1) :=
  { sound with old := fun serial member => Nat.lt_succ_of_lt (sound.old serial member) }

/-- What is left in the map after a settlement still runs. -/
theorem Sound.deleteActive_subset (sound : queue.Sound limit next) (settled : Transfer) :
    deleteActive queue.active settled.transferId ⊆ queue.running.erase settled := by
  intro entry member
  obtain ⟨present, other⟩ := List.mem_filter.mp member
  have different : entry ≠ settled := by
    rintro rfl
    simp at other
  exact (List.mem_erase_of_ne different).mpr (sound.entries present)

theorem deleteActive_nodup (transferId : Int) (keys : (queue.active.map Transfer.transferId).Nodup) :
    ((deleteActive queue.active transferId).map Transfer.transferId).Nodup :=
  keys.sublist (List.filter_sublist.map _)

theorem Sound.settle (sound : queue.Sound limit next) (serial : Nat) :
    (queue.settle limit serial).Sound limit next := by
  unfold TransferQueue.settle
  split
  · exact sound
  · rename_i settled found
    exact processQueue_sound _ _ _ _ (deleteActive_nodup settled.transferId sound.keys)
      (sound.deleteActive_subset settled) sound.serials sound.old

theorem Sound.cancelActive (sound : queue.Sound limit next) (transferId : Int) :
    (queue.cancelActive transferId).Sound limit next :=
  { sound with
    keys := deleteActive_nodup transferId sound.keys
    entries := fun _ member => sound.entries (List.mem_filter.mp member).1 }

theorem Sound.cancelWaiting (sound : queue.Sound limit next) (transferId : Int) :
    (queue.cancelWaiting transferId).Sound limit next := by
  have fewer : (queue.cancelWaiting transferId).waiting.Sublist queue.waiting := List.eraseP_sublist
  have serials : (queue.started ++ (queue.cancelWaiting transferId).waiting.map Transfer.serial).Sublist
      (queue.started ++ queue.waiting.map Transfer.serial) := (List.Sublist.refl _).append (fewer.map _)
  refine ⟨sound.keys, sound.entries, ?_, sound.serials.sublist serials,
    fun serial member => sound.old serial (serials.subset member)⟩
  refine sound.busy.imp_left fun none_waits => ?_
  rw [none_waits] at fewer
  exact List.sublist_nil.mp fewer

theorem Sound.once (sound : queue.Sound limit next) : queue.started.Nodup :=
  (List.nodup_append.mp sound.serials).1

theorem Sound.prompt (sound : queue.Sound limit next) (room : queue.running.length < limit) : queue.waiting = [] :=
  sound.busy.resolve_right (by omega)

/-- In a sound queue only the number of running transfers can be wrong. -/
theorem Sound.scheduled_iff (sound : queue.Sound limit next) :
    queue.Scheduled limit ↔ queue.running.length ≤ limit :=
  ⟨Scheduled.bounded, fun bounded => ⟨bounded, sound.once, sound.prompt⟩⟩

/-- A new transfer keeps the limit exactly when there is a place for it, or none looks free. -/
theorem Sound.enqueue_bounded (sound : queue.Sound limit next) (bounded : queue.running.length ≤ limit)
    (transfer : Transfer) :
    (queue.enqueue limit transfer).running.length ≤ limit ↔ queue.HasPlace limit := by
  unfold TransferQueue.enqueue HasPlace
  rcases Nat.lt_or_ge queue.active.length limit with room | full
  · cases waits : queue.waiting with
    | nil =>
        rw [List.nil_append, processQueue, if_pos room, processQueue]
        simp only [List.length_append, List.length_singleton]
        omega
    | cons first rest =>
        have busy := sound.busy.resolve_left (by rw [waits]; exact List.cons_ne_nil _ _)
        have started := processQueue_starts first (rest ++ [transfer]) queue.active queue.running queue.started room
        rw [List.cons_append]
        omega
  · rw [processQueue_full _ _ _ _ full]
    exact iff_of_true bounded (Or.inr full)

/-- A settlement keeps the limit exactly when its place looks free for one transfer only. -/
theorem Sound.settle_bounded (sound : queue.Sound limit next) (bounded : queue.running.length ≤ limit) (serial : Nat) :
    (queue.settle limit serial).running.length ≤ limit ↔ queue.Replaces limit serial := by
  unfold TransferQueue.settle Replaces
  cases found : queue.running.find? (fun transfer => transfer.serial = serial) with
  | none => exact iff_of_true bounded fun _ none_found => nomatch none_found
  | some settled =>
      have member := List.mem_of_find?_eq_some found
      have positive := List.length_pos_of_mem member
      have left := List.length_erase_of_mem member
      have size := active_length_le (deleteActive_nodup settled.transferId sound.keys)
        (sound.deleteActive_subset settled)
      simp only [Option.some.injEq, forall_eq']
      match waits : queue.waiting with
      | [] =>
          rw [processQueue]
          exact iff_of_true (by dsimp only; omega) trivial
      | [first] =>
          rw [processQueue, if_pos (by omega), processQueue]
          refine iff_of_true ?_ trivial
          simp only [List.length_append, List.length_singleton]
          omega
      | first :: second :: rest =>
          have busy := sound.busy.resolve_left (by rw [waits]; exact List.cons_ne_nil _ _)
          have entered := setActive_length (deleteActive queue.active settled.transferId) first
          rw [processQueue, if_pos (by omega)]
          by_cases room : (setActive (deleteActive queue.active settled.transferId) first).length < limit
          · have started := processQueue_starts second rest _ (queue.running.erase settled ++ [first])
              (queue.started ++ [first.serial]) room
            rw [List.length_append, List.length_singleton] at started
            refine iff_of_false (by omega) fun ⟨others, fresh⟩ => ?_
            rw [if_neg fresh] at entered
            omega
          · rw [processQueue_full _ _ _ _ (by omega)]
            refine iff_of_true ?_ ?_
            · simp only [List.length_append, List.length_singleton]
              omega
            · split at entered
              · omega
              · rename_i fresh
                exact ⟨by omega, fresh⟩

end TransferQueue

namespace TransferQueues

/-- Both queues are sound, and the next serial number is new to them. -/
structure Sound (queues : TransferQueues) : Prop where
  uploads : queues.uploads.Sound maxConcurrentUploads queues.nextSerial
  downloads : queues.downloads.Sound maxConcurrentDownloads queues.nextSerial

theorem sound_new : new.Sound := ⟨TransferQueue.empty_sound _ _, TransferQueue.empty_sound _ _⟩

theorem Sound.handle {queues : TransferQueues} (sound : queues.Sound) (event : TransferEvent) :
    (queues.handle event).1.Sound := by
  obtain ⟨uploads, downloads⟩ := sound
  cases event with
  | uploadFile size transferId =>
      simp only [TransferQueues.handle, uploadFile]
      split
      · exact ⟨uploads, downloads⟩
      · exact ⟨uploads.enqueue transferId, downloads.later⟩
  | downloadFile transferId => exact ⟨uploads.later, downloads.enqueue transferId⟩
  | uploadSettled serial => exact ⟨uploads.settle serial, downloads⟩
  | downloadSettled serial => exact ⟨uploads, downloads.settle serial⟩
  | cancelTransfer transferId =>
      simp only [TransferQueues.handle, cancelTransfer]
      split_ifs
      · exact ⟨uploads.cancelActive transferId, downloads⟩
      · exact ⟨uploads, downloads.cancelActive transferId⟩
      · exact ⟨uploads.cancelWaiting transferId, downloads⟩
      · exact ⟨uploads, downloads.cancelWaiting transferId⟩
      · exact ⟨uploads, downloads⟩

theorem Sound.scheduled_iff {queues : TransferQueues} (sound : queues.Sound) :
    queues.Scheduled ↔ queues.uploads.running.length ≤ maxConcurrentUploads ∧
      queues.downloads.running.length ≤ maxConcurrentDownloads :=
  and_congr sound.uploads.scheduled_iff sound.downloads.scheduled_iff

/-- A cancellation starts nothing and stops nothing. -/
theorem cancelTransfer_running (queues : TransferQueues) (transferId : Int) :
    (queues.cancelTransfer transferId).1.uploads.running = queues.uploads.running ∧
      (queues.cancelTransfer transferId).1.downloads.running = queues.downloads.running := by
  unfold cancelTransfer
  split_ifs <;> exact ⟨rfl, rfl⟩

/-- One event keeps the limits exactly when no orphan counts. -/
theorem Sound.handle_scheduled {queues : TransferQueues} (sound : queues.Sound) (scheduled : queues.Scheduled)
    (event : TransferEvent) : (queues.handle event).1.Scheduled ↔ NoOrphanCounts queues event := by
  rw [(sound.handle event).scheduled_iff]
  obtain ⟨uploading, downloading⟩ := sound.scheduled_iff.mp scheduled
  cases event with
  | uploadFile size transferId =>
      simp only [TransferQueues.handle, uploadFile, NoOrphanCounts]
      by_cases large : maxFileSize < size
      · rw [if_pos large]
        exact iff_of_true ⟨uploading, downloading⟩ (Or.inl large)
      · rw [if_neg large, or_iff_right large]
        exact (and_iff_left downloading).trans (sound.uploads.enqueue_bounded uploading _)
  | downloadFile transferId =>
      exact (and_iff_right uploading).trans (sound.downloads.enqueue_bounded downloading _)
  | uploadSettled serial =>
      exact (and_iff_left downloading).trans (sound.uploads.settle_bounded uploading serial)
  | downloadSettled serial =>
      exact (and_iff_right uploading).trans (sound.downloads.settle_bounded downloading serial)
  | cancelTransfer transferId =>
      obtain ⟨sameUploads, sameDownloads⟩ := cancelTransfer_running queues transferId
      simp only [TransferQueues.handle]
      rw [sameUploads, sameDownloads]
      exact iff_of_true ⟨uploading, downloading⟩ trivial

end TransferQueues

/-- The limits hold in every state of a run exactly as long as no orphan counts. -/
theorem transferQueues_scheduled_iff (events : List TransferEvent) :
    (∀ queues ∈ transferQueuesMachine.states .new events, queues.Scheduled) ↔
      transferQueuesMachine.Along NoOrphanCounts .new events :=
  transferQueuesMachine.states_iff_along NoOrphanCounts TransferQueues.Sound TransferQueues.Scheduled
    (fun _ event sound => sound.handle event)
    (fun _ event sound scheduled => sound.handle_scheduled scheduled event) .new events
    TransferQueues.sound_new (by decide)

/-- In every run each transfer starts once at most, and nothing waits while there is room. -/
theorem transferQueues_always (events : List TransferEvent) :
    ∀ queues ∈ transferQueuesMachine.states .new events,
      queues.uploads.started.Nodup ∧ queues.downloads.started.Nodup ∧
        (queues.uploads.running.length < maxConcurrentUploads → queues.uploads.waiting = []) ∧
        (queues.downloads.running.length < maxConcurrentDownloads → queues.downloads.waiting = []) := by
  intro queues visited
  have sound := transferQueuesMachine.states_always TransferQueues.Sound (fun _ event sound => sound.handle event)
    .new events TransferQueues.sound_new queues visited
  exact ⟨sound.uploads.once, sound.downloads.once, sound.uploads.prompt, sound.downloads.prompt⟩

/-- Four uploads run after the first one was cancelled. -/
theorem transferQueues_cancel_fails :
    ¬ ∀ queues ∈ transferQueuesMachine.states .new
        [.uploadFile 1 1, .uploadFile 1 2, .uploadFile 1 3, .cancelTransfer 1, .uploadFile 1 4],
      queues.Scheduled := by
  decide

end SecureChat.Web
