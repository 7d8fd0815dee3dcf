import SecureChat.Library.MachineInt
import SecureChat.Construction.WebSocket.FileTransfer
import SecureChat.Library.Slots

namespace SecureChat.WebSocket
open Library

/-- An upload waits for chunks as long as its file is open, a download has its task in the thread pool. -/
def InProgress (manager : TransferManager) (context : TransferContext) : Prop :=
  if context.upload then context.handle ≠ .closed else context.transferId ∈ manager.tasks

instance (manager : TransferManager) (context : TransferContext) :
    Decidable (InProgress manager context) := by
  unfold InProgress
  infer_instance

def slotInProgress (manager : TransferManager) (slot : Option TransferContext) : Bool :=
  slot.any fun context => decide (InProgress manager context)

/-- Every slot that is taken belongs to a transfer in progress, the slots are counted,
and a table without a free slot has all its transfers in progress. -/
structure SlotsSound (maxTransfers : UInt32) (manager : TransferManager) : Prop where
  progress : ∀ context, some context ∈ manager.transfers → InProgress manager context
  active : manager.activeTransfers.toNat = manager.transfers.countP Option.isSome
  refused : freeSlot manager = none →
    manager.transfers.countP (slotInProgress manager) = maxTransfers.toNat

/-- What holds of the table in every run. -/
structure TableInvariant (maxTransfers : UInt32) (manager : TransferManager) : Prop where
  size : manager.transfers.length = maxTransfers.toNat
  active : manager.activeTransfers.toNat = manager.transfers.countP Option.isSome
  distinct : (manager.transfers.filterMap (Option.map TransferContext.transferId)).Nodup
  issued : ∀ context, some context ∈ manager.transfers → context.transferId < manager.nextTransferId
  queued : ∀ transferId ∈ manager.tasks, transferId < manager.nextTransferId
  opened : ∀ context, some context ∈ manager.transfers → context.upload = true → context.handle ≠ .closed
  apart : ∀ context, some context ∈ manager.transfers → context.upload = true →
    context.transferId ∉ manager.tasks

/-- A call that puts no transfer into the table. -/
inductive TableKept (manager next : TransferManager) : Prop
  | keep (transfers : next.transfers = manager.transfers)
      (active : next.activeTransfers = manager.activeTransfers) (tasks : next.tasks = manager.tasks)
      (counter : manager.nextTransferId ≤ next.nextTransferId)
  | change (slot : Nat) (old new : TransferContext) (found : manager.transfers[slot]? = some (some old))
      (same : new.transferId = old.transferId) (kind : new.upload = old.upload)
      (handle : old.upload = true → old.handle ≠ .closed → new.handle ≠ .closed)
      (transfers : next.transfers = manager.transfers.set slot (some new))
      (active : next.activeTransfers = manager.activeTransfers) (tasks : next.tasks = manager.tasks)
      (counter : next.nextTransferId = manager.nextTransferId)
  | remove (slot : Nat) (old : TransferContext) (found : manager.transfers[slot]? = some (some old))
      (transfers : next.transfers = manager.transfers.set slot none)
      (active : next.activeTransfers = manager.activeTransfers - 1) (tasks : next.tasks = manager.tasks)
      (counter : next.nextTransferId = manager.nextTransferId)

/-- A call that puts a transfer into a free slot. Only a download can have a task. -/
structure TablePut (manager next : TransferManager) (slot : Nat) (context : TransferContext)
    (started : Bool) : Prop where
  free : manager.transfers[slot]? = some none
  fresh : context.transferId = manager.nextTransferId
  opened : context.upload = true → context.handle ≠ .closed
  kind : started = true → context.upload = false
  transfers : next.transfers = manager.transfers.set slot (some context)
  active : next.activeTransfers = manager.activeTransfers + 1
  tasks : next.tasks = if started then manager.tasks ++ [context.transferId] else manager.tasks
  counter : next.nextTransferId = manager.nextTransferId + 1

section Handlers

variable (sha256 : List UInt8 → List UInt8) (manager : TransferManager)

theorem freeSlot_spec {slot : Nat} (found : freeSlot manager = some slot) :
    manager.transfers[slot]? = some none := by
  obtain ⟨inside, free, -⟩ := List.findIdx?_eq_some_iff_getElem.mp found
  rw [List.getElem?_eq_getElem inside, Option.isNone_iff_eq_none.mp free]

theorem set_same {Slot : Type} (slots : List Slot) (slot : Nat) (value : Slot)
    (found : slots[slot]? = some value) : slots.set slot value = slots := by
  obtain ⟨inside, rfl⟩ := List.getElem?_eq_some_iff.mp found
  exact List.set_getElem_self inside

theorem handleFileUploadRequest_table (request : UploadRequest) :
    TableKept manager (handleFileUploadRequest manager request).1 ∨
      ∃ slot, TablePut manager (handleFileUploadRequest manager request).1 slot
        (uploadContext manager request) false := by
  unfold handleFileUploadRequest
  split
  · exact .inl (.keep rfl rfl rfl (Nat.le_refl _))
  · split
    · exact .inl (.keep rfl rfl rfl (Nat.le_refl _))
    · split
      · exact .inl (.keep rfl rfl rfl (Nat.le_refl _))
      · dsimp only
        split
        · exact .inl (.keep rfl rfl rfl (Nat.le_succ _))
        · rename_i slot found
          have free := freeSlot_spec _ found
          split
          · refine .inl (.keep ?_ ?_ rfl (Nat.le_succ _))
            · show (manager.transfers.set slot _).set slot none = manager.transfers
              rw [List.set_set]
              exact set_same manager.transfers slot none free
            · exact UInt32.add_sub_cancel ..
          · exact .inr ⟨slot, free, rfl, fun _ => nofun, nofun, rfl, rfl, rfl, rfl⟩

/-- A download takes a slot exactly when nothing stops it before. -/
def downloadTakesSlot (request : DownloadRequest) : Bool :=
  (manager.files (downloadPath request.filename)).isSome && request.callocOk && request.opens &&
    (freeSlot manager).isSome

theorem handleFileDownloadRequest_refused (request : DownloadRequest)
    (refused : downloadTakesSlot manager request = false) :
    TableKept manager (handleFileDownloadRequest manager request).1 := by
  unfold handleFileDownloadRequest
  unfold downloadTakesSlot at refused
  cases stat : manager.files (downloadPath request.filename) with
  | none => exact .keep rfl rfl rfl (Nat.le_refl _)
  | some content =>
      dsimp only
      split
      · exact .keep rfl rfl rfl (Nat.le_refl _)
      · split
        · exact .keep rfl rfl rfl (Nat.le_succ _)
        · rename_i opened
          split
          · exact .keep rfl rfl rfl (Nat.le_succ _)
          · rename_i slot found
            have free : freeSlot manager = some slot := found
            simp_all

theorem handleFileDownloadRequest_taken (request : DownloadRequest)
    (taken : downloadTakesSlot manager request = true) :
    ∃ slot fileSize, TablePut manager (handleFileDownloadRequest manager request).1 slot
      (downloadContext manager request fileSize) request.taskAdded := by
  unfold downloadTakesSlot at taken
  rw [Bool.and_eq_true, Bool.and_eq_true, Bool.and_eq_true] at taken
  obtain ⟨⟨⟨present, allocated⟩, opened⟩, room⟩ := taken
  obtain ⟨content, stat⟩ := Option.isSome_iff_exists.mp present
  obtain ⟨slot, free⟩ := Option.isSome_iff_exists.mp room
  have again : freeSlot { manager with nextTransferId := manager.nextTransferId + 1 } = some slot := free
  refine ⟨slot, UInt64.ofNat content.length, ?_⟩
  unfold handleFileDownloadRequest
  simp only [stat, allocated, opened, again]
  exact ⟨freeSlot_spec manager free, rfl, nofun, fun _ => rfl, rfl, rfl, rfl, rfl⟩

/-- The transfer that a chunk call finds is its own. -/
theorem findTransfer_spec {call : UploadChunk} {slot : Nat} {context : TransferContext}
    (found : findTransfer manager call = some (slot, context)) :
    manager.transfers[slot]? = some (some context) ∧ context.transferId = call.transferId ∧
      context.clientId = call.clientId := by
  unfold findTransfer at found
  cases place : manager.transfers.findIdx? (ownedBy call) with
  | none => rw [place] at found; cases found
  | some index =>
      obtain ⟨inside, owned, -⟩ := List.findIdx?_eq_some_iff_getElem.mp place
      rw [place] at found
      dsimp only at found
      rw [List.getElem?_eq_getElem inside, Option.join_some] at found
      cases held : manager.transfers[index] with
      | none => rw [held] at owned; cases owned
      | some other =>
          rw [held, Option.map_some, Option.some.injEq, Prod.mk.injEq] at found
          obtain ⟨rfl, rfl⟩ := found
          rw [held] at owned
          refine ⟨by rw [List.getElem?_eq_getElem inside, held], ?_⟩
          simpa [ownedBy] using owned

/-- What `fwrite` leaves alone. -/
theorem fwriteChunk_spec {context after : TransferContext} {next : TransferManager} {data : List UInt8}
    {limit written : Nat} (result : fwriteChunk manager context data limit = some (written, next, after)) :
    next = { manager with files := next.files } ∧ after = { context with handle := after.handle } ∧
      (context.handle ≠ .closed → after.handle ≠ .closed) ∧
      ∀ path ≠ context.filepath, next.files path = manager.files path := by
  unfold fwriteChunk at result
  split at result
  · split at result
    · obtain ⟨-, rfl, rfl⟩ := result
      exact ⟨rfl, rfl, id, fun _ _ => rfl⟩
    · cases result
  · obtain ⟨-, rfl, rfl⟩ := result
    exact ⟨rfl, rfl, id, fun _ _ => rfl⟩
  · obtain ⟨-, rfl, rfl⟩ := result
    exact ⟨rfl, rfl, fun _ => nofun, fun _ other => if_neg other⟩

/-- An accepted chunk changes its transfer or ends it. -/
theorem acceptChunk_table {next : TransferManager} {slot : Nat} {context after : TransferContext}
    (place : manager.transfers[slot]? = some (some context)) (call : UploadChunk) (data : List UInt8)
    (same : next = { manager with files := next.files })
    (fields : after = { context with handle := after.handle })
    (handle : context.handle ≠ .closed → after.handle ≠ .closed) :
    TableKept manager (acceptChunk sha256 next slot after call data).1 := by
  have identifier : after.transferId = context.transferId := by rw [fields]
  have kind : after.upload = context.upload := by rw [fields]
  have transfers : next.transfers = manager.transfers := by rw [same]
  have active : next.activeTransfers = manager.activeTransfers := by rw [same]
  have tasks : next.tasks = manager.tasks := by rw [same]
  have counter : next.nextTransferId = manager.nextTransferId := by rw [same]
  have changed : (setTransfer next slot (countChunk after call)).transfers =
      manager.transfers.set slot (some (countChunk after call)) := by
    rw [← transfers]
    rfl
  unfold acceptChunk
  dsimp only
  split
  · unfold completeUpload
    split
    · exact .change slot context (countChunk after call) place identifier kind (fun _ => handle) changed active tasks
        counter
    · refine .remove slot context place ?_ ?_ tasks counter
      · show (next.transfers.set slot _).set slot none = _
        rw [List.set_set, transfers]
      · show next.activeTransfers - 1 = _
        rw [active]
  · exact .change slot context (countChunk after call) place identifier kind (fun _ => handle) changed active tasks
      counter

theorem handleFileUploadChunk_table (call : UploadChunk) :
    TableKept manager (handleFileUploadChunk sha256 manager call).1 := by
  unfold handleFileUploadChunk
  split
  · exact .keep rfl rfl rfl (Nat.le_refl _)
  · rename_i slot context found
    have place := (findTransfer_spec manager found).1
    split
    · exact .keep rfl rfl rfl (Nat.le_refl _)
    · split
      · exact .keep rfl rfl rfl (Nat.le_refl _)
      · split
        · exact .keep rfl rfl rfl (Nat.le_refl _)
        · rename_i written next after result
          obtain ⟨same, fields, handle, -⟩ := fwriteChunk_spec manager result
          split
          · exact .change slot context after place (by rw [fields]) (by rw [fields]) (fun _ => handle)
              (by rw [same]; rfl) (by rw [same]; rfl) (by rw [same]; rfl) (by rw [same]; rfl)
          · exact acceptChunk_table sha256 manager place call _ same fields handle

end Handlers

section Table

variable {maxTransfers : UInt32} {manager next : TransferManager}

theorem countP_lt_of_free {slot : Nat} (free : manager.transfers[slot]? = some none) :
    manager.transfers.countP Option.isSome < manager.transfers.length := by
  apply Nat.lt_of_le_of_ne List.countP_le_length
  intro full
  have taken := List.countP_eq_length.mp full none (List.mem_of_getElem? free)
  cases taken

namespace TableKept

theorem tasks_eq (step : TableKept manager next) : next.tasks = manager.tasks := by
  cases step <;> assumption

theorem counter_le (step : TableKept manager next) : manager.nextTransferId ≤ next.nextTransferId := by
  cases step with
  | keep _ _ _ counter => exact counter
  | change _ _ _ _ _ _ _ _ _ _ counter => exact Nat.le_of_eq counter.symm
  | remove _ _ _ _ _ _ counter => exact Nat.le_of_eq counter.symm

theorem length_eq (step : TableKept manager next) : next.transfers.length = manager.transfers.length := by
  cases step with
  | keep transfers => rw [transfers]
  | change _ _ _ _ _ _ _ transfers => rw [transfers, List.length_set]
  | remove _ _ _ transfers => rw [transfers, List.length_set]

/-- Every transfer in the table was there before. -/
theorem origin (step : TableKept manager next) (context : TransferContext)
    (held : some context ∈ next.transfers) : ∃ old, some old ∈ manager.transfers ∧
      old.transferId = context.transferId ∧ old.upload = context.upload ∧
      (old.upload = true → old.handle ≠ .closed → context.handle ≠ .closed) := by
  cases step with
  | keep transfers => exact ⟨context, transfers ▸ held, rfl, rfl, fun _ => id⟩
  | change slot old new found same kind handle transfers =>
      rw [transfers] at held
      rcases List.mem_or_eq_of_mem_set held with member | changed
      · exact ⟨context, member, rfl, rfl, fun _ => id⟩
      · cases changed
        exact ⟨old, List.mem_of_getElem? found, same.symm, kind.symm, handle⟩
  | remove slot old found transfers =>
      rw [transfers] at held
      exact ⟨context, (List.mem_or_eq_of_mem_set held).resolve_right nofun, rfl, rfl, fun _ => id⟩

/-- The counter follows the slots that are taken. -/
theorem counts (step : TableKept manager next)
    (counted : manager.activeTransfers.toNat = manager.transfers.countP Option.isSome) :
    next.activeTransfers.toNat = next.transfers.countP Option.isSome := by
  cases step with
  | keep transfers active =>
      rw [transfers, active]
      exact counted
  | change slot old new found _ _ _ transfers active =>
      have taken := set_countP manager.transfers Option.isSome slot (some old) (some new) found
      simp only [Option.isSome_some, if_true, Nat.add_right_cancel_iff] at taken
      rw [transfers, active, taken]
      exact counted
  | remove slot old found transfers active =>
      have taken := set_countP manager.transfers Option.isSome slot (some old) none found
      simp only [Option.isSome_some, Option.isSome_none, if_true, Bool.false_eq_true, if_false,
        Nat.add_zero] at taken
      rw [transfers, active, decrement32 _ (by omega), counted, ← taken, Nat.add_sub_cancel]

theorem distinct (step : TableKept manager next)
    (apart : (manager.transfers.filterMap (Option.map TransferContext.transferId)).Nodup) :
    (next.transfers.filterMap (Option.map TransferContext.transferId)).Nodup := by
  cases step with
  | keep transfers =>
      rw [transfers]
      exact apart
  | change slot old new found same _ _ transfers =>
      have moved := set_filterMap manager.transfers (Option.map TransferContext.transferId) slot (some old)
        (some new) found
      simp only [Option.map_some, Option.toList_some, same, List.singleton_append] at moved
      rw [transfers]
      exact (List.Perm.cons_inv moved).nodup_iff.mpr apart
  | remove slot old found transfers =>
      have moved := set_filterMap manager.transfers (Option.map TransferContext.transferId) slot (some old)
        none found
      simp only [Option.map_some, Option.toList_some, Option.map_none, Option.toList_none,
        List.singleton_append, List.nil_append] at moved
      rw [transfers]
      exact (List.nodup_cons.mp (moved.nodup_iff.mpr apart)).2

/-- A call that puts no transfer into the table keeps what holds of it. -/
theorem invariant (step : TableKept manager next) (before : TableInvariant maxTransfers manager) :
    TableInvariant maxTransfers next where
  size := step.length_eq.trans before.size
  active := step.counts before.active
  distinct := step.distinct before.distinct
  issued context held := by
    obtain ⟨old, there, same, -, -⟩ := step.origin context held
    rw [← same]
    exact Nat.lt_of_lt_of_le (before.issued old there) step.counter_le
  queued transferId waits := by
    rw [step.tasks_eq] at waits
    exact Nat.lt_of_lt_of_le (before.queued transferId waits) step.counter_le
  opened context held uploads := by
    obtain ⟨old, there, -, kind, handle⟩ := step.origin context held
    rw [← kind] at uploads
    exact handle uploads (before.opened old there uploads)
  apart context held uploads := by
    obtain ⟨old, there, same, kind, -⟩ := step.origin context held
    rw [← kind] at uploads
    rw [step.tasks_eq, ← same]
    exact before.apart old there uploads

end TableKept

/-- A transfer that is put into the table has an identifier that the table does not know. -/
theorem TableInvariant.unknown (invariant : TableInvariant maxTransfers manager) :
    manager.nextTransferId ∉ manager.transfers.filterMap (Option.map TransferContext.transferId) := by
  intro known
  obtain ⟨held, member, shown⟩ := List.mem_filterMap.mp known
  obtain ⟨other, rfl, same⟩ := Option.map_eq_some_iff.mp shown
  exact absurd (invariant.issued other member) (same ▸ Nat.lt_irrefl _)

/-- The tasks after a call that puts a transfer into the table. -/
theorem TablePut.mem_tasks {slot : Nat} {context : TransferContext} {started : Bool}
    (step : TablePut manager next slot context started) (transferId : Nat) :
    transferId ∈ next.tasks ↔
      transferId ∈ manager.tasks ∨ transferId = context.transferId ∧ started = true := by
  rw [step.tasks]
  cases started <;> simp

/-- A call that puts a transfer into the table keeps what holds of it. -/
theorem TablePut.invariant {slot : Nat} {context : TransferContext} {started : Bool}
    (step : TablePut manager next slot context started) (invariant : TableInvariant maxTransfers manager) :
    TableInvariant maxTransfers next := by
  have waiting := fun transferId => (step.mem_tasks transferId).mp
  obtain ⟨free, fresh, opened, kind, transfers, active, -, counter⟩ := step
  have moved := set_filterMap manager.transfers (Option.map TransferContext.transferId) slot none
    (some context) free
  have counted := set_countP manager.transfers Option.isSome slot none (some context) free
  have room := countP_lt_of_free free
  have small := maxTransfers.toNat_lt
  have unknown := invariant.unknown
  rw [invariant.size] at room
  rw [← fresh] at unknown
  refine ⟨?_, ?_, ?_, ?_, ?_, ?_, ?_⟩
  · rw [transfers, List.length_set]; exact invariant.size
  · have occupied := invariant.active
    simp only [Option.isSome_none, Option.isSome_some, Bool.false_eq_true, if_false, if_true,
      Nat.add_zero] at counted
    rw [transfers, active, increment32 _ (by omega), occupied, counted]
  · rw [transfers]
    exact moved.nodup_iff.mpr (List.nodup_cons.mpr ⟨unknown, invariant.distinct⟩)
  · intro other held
    rw [transfers] at held
    rw [counter]
    rcases List.mem_or_eq_of_mem_set held with member | same
    · exact Nat.lt_succ_of_lt (invariant.issued other member)
    · rw [Option.some.inj same, fresh]
      exact Nat.lt_succ_self _
  · intro transferId queued
    rw [counter]
    rcases waiting transferId queued with before | ⟨same, -⟩
    · exact Nat.lt_succ_of_lt (invariant.queued transferId before)
    · rw [same, fresh]
      exact Nat.lt_succ_self _
  · intro other held uploads
    rw [transfers] at held
    rcases List.mem_or_eq_of_mem_set held with member | same
    · exact invariant.opened other member uploads
    · cases same
      exact opened uploads
  · intro other held uploads queued
    rw [transfers] at held
    rcases waiting _ queued with before | ⟨same, begun⟩
    · rcases List.mem_or_eq_of_mem_set held with member | new
      · exact invariant.apart other member uploads before
      · cases new
        have := invariant.queued _ before
        omega
    · rcases List.mem_or_eq_of_mem_set held with member | new
      · have := invariant.issued other member
        omega
      · cases new
        exact nomatch (kind begun).symm.trans uploads

theorem TableInvariant.forget (invariant : TableInvariant maxTransfers manager) (transferId : Nat) :
    TableInvariant maxTransfers (forgetTask manager transferId) where
  size := invariant.size
  active := invariant.active
  distinct := invariant.distinct
  issued := invariant.issued
  queued other waits := invariant.queued other (List.mem_filter.mp waits).1
  opened := invariant.opened
  apart context held uploads waits := invariant.apart context held uploads (List.mem_filter.mp waits).1

/-- A task that is done leaves its transfer in the slot, or it does not find it. -/
theorem processFileDownload_cases (invariant : TableInvariant maxTransfers manager) (transferId : Nat)
    (waits : transferId ∈ manager.tasks) :
    ((∀ context, some context ∈ manager.transfers → context.transferId ≠ transferId) ∧
        (processFileDownload manager transferId).1 = { forgetTask manager transferId with crashed := true }) ∨
      ∃ slot old, (forgetTask manager transferId).transfers[slot]? = some (some old) ∧
        old.transferId = transferId ∧ old.upload = false ∧
        (processFileDownload manager transferId).1 = setTransfer (forgetTask manager transferId) slot
          (finishDownload (forgetTask manager transferId) old) := by
  unfold processFileDownload
  rw [if_neg (not_not_intro waits)]
  dsimp only
  cases place : (forgetTask manager transferId).transfers.findIdx? (heldBy transferId) with
  | none =>
      refine .inl ⟨?_, rfl⟩
      intro context held same
      have missed := List.findIdx?_eq_none_iff.mp place _ held
      simp [heldBy, same] at missed
  | some slot =>
      obtain ⟨inside, holds, -⟩ := List.findIdx?_eq_some_iff_getElem.mp place
      cases held : (forgetTask manager transferId).transfers[slot] with
      | none => rw [held] at holds; cases holds
      | some old =>
          have found : (forgetTask manager transferId).transfers[slot]? = some (some old) := by
            rw [List.getElem?_eq_getElem inside, held]
          have same : old.transferId = transferId := by
            rw [held] at holds
            simpa [heldBy] using holds
          have kind : old.upload = false := by
            rw [← Bool.not_eq_true]
            intro uploads
            exact invariant.apart old (List.mem_of_getElem? found) uploads (same ▸ waits)
          refine .inr ⟨slot, old, found, same, kind, ?_⟩
          simp only [found, Option.join_some]

/-- A download task keeps what holds of the table. -/
theorem TableInvariant.processFileDownload (invariant : TableInvariant maxTransfers manager)
    (transferId : Nat) : TableInvariant maxTransfers (processFileDownload manager transferId).1 := by
  by_cases waits : transferId ∈ manager.tasks
  · have forgotten := invariant.forget transferId
    rcases processFileDownload_cases invariant transferId waits with
      ⟨-, result⟩ | ⟨slot, old, found, -, download, result⟩
    · have kept : TableKept (forgetTask manager transferId)
          { forgetTask manager transferId with crashed := true } := .keep rfl rfl rfl (Nat.le_refl _)
      rw [result]
      exact kept.invariant forgotten
    · have kept : TableKept (forgetTask manager transferId) (setTransfer (forgetTask manager transferId) slot
          (finishDownload (forgetTask manager transferId) old)) :=
        .change slot old (finishDownload (forgetTask manager transferId) old) found rfl rfl
          (fun uploads => nomatch download.symm.trans uploads) rfl rfl rfl rfl
      rw [result]
      exact kept.invariant forgotten
  · unfold WebSocket.processFileDownload
    rw [if_pos waits]
    exact invariant

/-- What holds of the table holds in every run. -/
theorem TableInvariant.transferStep (sha256 : List UInt8 → List UInt8)
    (invariant : TableInvariant maxTransfers manager) (input : TransferInput) :
    TableInvariant maxTransfers (transferStep sha256 manager input).1 := by
  cases input with
  | uploadRequest request =>
      rcases handleFileUploadRequest_table manager request with kept | ⟨slot, put⟩
      · exact kept.invariant invariant
      · exact put.invariant invariant
  | uploadChunk call => exact (handleFileUploadChunk_table sha256 manager call).invariant invariant
  | downloadRequest request =>
      cases takes : downloadTakesSlot manager request with
      | false => exact (handleFileDownloadRequest_refused manager request takes).invariant invariant
      | true =>
          obtain ⟨slot, fileSize, put⟩ := handleFileDownloadRequest_taken manager request takes
          exact put.invariant invariant
  | downloadTask transferId => exact invariant.processFileDownload transferId

theorem tableInvariant_init (maxTransfers : UInt32) (files : List UInt8 → Option (List UInt8)) :
    TableInvariant maxTransfers (fileTransferManagerInit maxTransfers files) := by
  have empty : ∀ context, some context ∉ List.replicate maxTransfers.toNat (none : Option TransferContext) :=
    fun context held => nomatch List.eq_of_mem_replicate held
  refine ⟨List.length_replicate, ?_, ?_, ?_, ?_, ?_, ?_⟩
  · exact (List.countP_eq_zero.mpr fun slot held => by rw [List.eq_of_mem_replicate held]; nofun).symm
  · have nothing : (List.replicate maxTransfers.toNat (none : Option TransferContext)).filterMap
        (Option.map TransferContext.transferId) = [] := by simp
    exact nothing ▸ List.nodup_nil
  · exact fun context held => absurd held (empty context)
  · exact fun transferId waits => nomatch waits
  · exact fun context held => absurd held (empty context)
  · exact fun context held => absurd held (empty context)

end Table

section Progress

variable {maxTransfers : UInt32} {manager next : TransferManager}

/-- The transfers in progress decide about the rest. -/
theorem slotsSound_iff (invariant : TableInvariant maxTransfers manager) :
    SlotsSound maxTransfers manager ↔
      ∀ context, some context ∈ manager.transfers → InProgress manager context := by
  refine ⟨SlotsSound.progress, fun progress => ⟨progress, invariant.active, fun full => ?_⟩⟩
  rw [← invariant.size, List.countP_eq_length]
  intro slot held
  have taken := List.findIdx?_eq_none_iff.mp full slot held
  cases slot with
  | none => cases taken
  | some context => exact decide_eq_true (progress context held)

theorem TableKept.progress (step : TableKept manager next) (invariant : TableInvariant maxTransfers manager)
    (progress : ∀ context, some context ∈ manager.transfers → InProgress manager context) :
    ∀ context, some context ∈ next.transfers → InProgress next context := by
  intro context held
  unfold InProgress
  cases kind : context.upload with
  | true => exact (step.invariant invariant).opened context held kind
  | false =>
      obtain ⟨old, there, same, download, -⟩ := step.origin context held
      have queued := progress old there
      rw [InProgress, download, kind, same] at queued
      rw [step.tasks_eq]
      exact queued

/-- A transfer that is put into the table is in progress, unless it is a download without a task. -/
theorem TablePut.progress_iff {slot : Nat} {context : TransferContext} {started : Bool}
    (step : TablePut manager next slot context started) (invariant : TableInvariant maxTransfers manager)
    (progress : ∀ context, some context ∈ manager.transfers → InProgress manager context) :
    (∀ context, some context ∈ next.transfers → InProgress next context) ↔
      (context.upload = false → started = true) := by
  have inside := (List.getElem?_eq_some_iff.mp step.free).1
  constructor
  · intro later download
    have queued := later context (step.transfers ▸ List.mem_set inside _)
    rw [InProgress, download] at queued
    rcases (step.mem_tasks _).mp queued with before | ⟨-, begun⟩
    · have old := invariant.queued _ before
      rw [step.fresh] at old
      exact absurd old (Nat.lt_irrefl _)
    · exact begun
  · intro begun other held
    rw [step.transfers] at held
    rcases List.mem_or_eq_of_mem_set held with member | same
    · have before := progress other member
      unfold InProgress at before ⊢
      cases kind : other.upload with
      | true => simpa [kind] using before
      | false => exact (step.mem_tasks _).mpr (.inl (by simpa [kind] using before))
    · cases same
      unfold InProgress
      cases kind : context.upload with
      | true => exact step.opened kind
      | false => exact (step.mem_tasks _).mpr (.inr ⟨rfl, begun kind⟩)

/-- A task that is done leaves a transfer behind that is not in progress. -/
theorem processFileDownload_progress_iff (invariant : TableInvariant maxTransfers manager) (transferId : Nat)
    (progress : ∀ context, some context ∈ manager.transfers → InProgress manager context) :
    (∀ context, some context ∈ (processFileDownload manager transferId).1.transfers →
        InProgress (processFileDownload manager transferId).1 context) ↔
      (transferId ∈ manager.tasks →
        ∀ context, some context ∈ manager.transfers → context.transferId ≠ transferId) := by
  by_cases waits : transferId ∈ manager.tasks
  · rcases processFileDownload_cases invariant transferId waits with
      ⟨absent, result⟩ | ⟨slot, old, found, same, download, result⟩
    · rw [result]
      refine iff_of_true (fun context held => ?_) (fun _ => absent)
      have before := progress context held
      unfold InProgress at before ⊢
      cases kind : context.upload with
      | true => simpa [kind] using before
      | false =>
          rw [kind] at before
          exact List.mem_filter.mpr ⟨before, decide_eq_true (absent context held)⟩
    · have inside := (List.getElem?_eq_some_iff.mp found).1
      rw [result]
      refine iff_of_false (fun later => ?_) (fun absent => absent waits old (List.mem_of_getElem? found) same)
      have queued := later (finishDownload (forgetTask manager transferId) old) (List.mem_set inside _)
      rw [InProgress, if_neg (by rw [finishDownload, download]; exact Bool.false_ne_true)] at queued
      exact of_decide_eq_true (List.mem_filter.mp queued).2 same
  · have unchanged : (processFileDownload manager transferId).1 = manager := by
      unfold processFileDownload
      rw [if_pos waits]
    rw [unchanged]
    exact iff_of_true progress fun there => absurd there waits

end Progress

/-- A download that takes a slot gets its task, and no task of a download in the table is done. -/
def NoDownloadEnds (manager : TransferManager) : TransferInput → Prop
  | .downloadRequest request => manager.crashed = false → downloadTakesSlot manager request = true →
      request.taskAdded = true
  | .downloadTask transferId => manager.crashed = false → transferId ∈ manager.tasks →
      ∀ context, some context ∈ manager.transfers → context.transferId ≠ transferId
  | _ => True

section Run

variable (sha256 : List UInt8 → List UInt8) {maxTransfers : UInt32} {manager : TransferManager}

theorem transferMachine_invariant (input : TransferInput) (invariant : TableInvariant maxTransfers manager) :
    TableInvariant maxTransfers ((transferMachine sha256).step manager input).1 := by
  unfold transferMachine
  dsimp only
  split
  · exact invariant
  · exact invariant.transferStep sha256 input

/-- A step keeps every taken slot in progress exactly when it ends no download. -/
theorem slotsSound_step (input : TransferInput) (invariant : TableInvariant maxTransfers manager)
    (sound : SlotsSound maxTransfers manager) :
    SlotsSound maxTransfers ((transferMachine sha256).step manager input).1 ↔ NoDownloadEnds manager input := by
  have progress := sound.progress
  rw [slotsSound_iff (transferMachine_invariant sha256 input invariant)]
  cases crashed : manager.crashed with
  | true =>
      have still : ((transferMachine sha256).step manager input).1 = manager := by
        simp [transferMachine, crashed]
      rw [still]
      refine iff_of_true progress ?_
      cases input with
      | downloadRequest request => exact fun alive => nomatch crashed.symm.trans alive
      | downloadTask transferId => exact fun alive => nomatch crashed.symm.trans alive
      | _ => trivial
  | false =>
      have step : ((transferMachine sha256).step manager input).1 = (transferStep sha256 manager input).1 := by
        simp [transferMachine, crashed]
      rw [step]
      cases input with
      | uploadRequest request =>
          rcases handleFileUploadRequest_table manager request with kept | ⟨slot, put⟩
          · exact iff_of_true (kept.progress invariant progress) trivial
          · exact iff_of_true ((put.progress_iff invariant progress).mpr nofun) trivial
      | uploadChunk call =>
          exact iff_of_true ((handleFileUploadChunk_table sha256 manager call).progress invariant progress)
            trivial
      | downloadRequest request =>
          cases takes : downloadTakesSlot manager request with
          | false =>
              refine iff_of_true
                ((handleFileDownloadRequest_refused manager request takes).progress invariant progress) ?_
              exact fun _ taken => nomatch takes.symm.trans taken
          | true =>
              obtain ⟨slot, fileSize, put⟩ := handleFileDownloadRequest_taken manager request takes
              refine (put.progress_iff invariant progress).trans ?_
              exact ⟨fun begun _ _ => begun rfl, fun begun _ => begun crashed takes⟩
      | downloadTask transferId =>
          refine (processFileDownload_progress_iff invariant transferId progress).trans ?_
          exact ⟨fun absent _ => absent, fun absent => absent crashed⟩

end Run

/-- The slots are sound over a run exactly as long as no download ends and every download gets its task. -/
theorem transferMachine_slotsSound_iff (sha256 : List UInt8 → List UInt8) (maxTransfers : UInt32)
    (files : List UInt8 → Option (List UInt8)) (inputs : List TransferInput) :
    (∀ visited ∈ (transferMachine sha256).states (fileTransferManagerInit maxTransfers files) inputs,
        SlotsSound maxTransfers visited) ↔
      (transferMachine sha256).Along NoDownloadEnds (fileTransferManagerInit maxTransfers files) inputs := by
  have invariant := tableInvariant_init maxTransfers files
  have sound : SlotsSound maxTransfers (fileTransferManagerInit maxTransfers files) := by
    rw [slotsSound_iff invariant]
    exact fun context held => nomatch List.eq_of_mem_replicate held
  exact (transferMachine sha256).states_iff_along NoDownloadEnds (TableInvariant maxTransfers)
    (SlotsSound maxTransfers) (fun manager input invariant => transferMachine_invariant sha256 input invariant)
    (fun manager input invariant sound => slotsSound_step sha256 input invariant sound)
    (fileTransferManagerInit maxTransfers files) inputs invariant sound

/-- A file with one byte. -/
def onlyFile : List UInt8 → Option (List UInt8) :=
  fun path => if path = asciiBytes "uploads/a" then some [7] else none

/-- Nothing fails while the file is asked for. -/
def askFile : DownloadRequest := ⟨1, asciiBytes "a", false, Vector.replicate 32 0, true, true, true⟩

/-- A download that is done keeps the only slot, and the next one is refused for ever. -/
theorem transferMachine_keeps_slot :
    ((transferMachine id).run (fileTransferManagerInit 1 onlyFile)
        [.downloadRequest askFile, .downloadTask 1]).1.activeTransfers = 1 ∧
      ((transferMachine id).run (fileTransferManagerInit 1 onlyFile)
        [.downloadRequest askFile, .downloadTask 1]).1.tasks = [] ∧
      ((transferMachine id).run (fileTransferManagerInit 1 onlyFile)
        [.downloadRequest askFile, .downloadTask 1, .downloadRequest askFile]).2.getLast? =
          some (.returned (-1)) ∧
      ¬ ∀ visited ∈ (transferMachine id).states (fileTransferManagerInit 1 onlyFile)
        [.downloadRequest askFile, .downloadTask 1], SlotsSound 1 visited := by
  refine ⟨by decide, by decide, by decide, fun sound => ?_⟩
  have last := (sound ((transferMachine id).run (fileTransferManagerInit 1 onlyFile)
    [.downloadRequest askFile, .downloadTask 1]).1 (.tail _ (.tail _ (.head _)))).refused (by decide)
  revert last
  decide

end SecureChat.WebSocket
