import SecureChat.Proof.WebSocket.TransferSlots

namespace SecureChat.WebSocket
open Library

/-- The transfer that an output is about, if it says that a chunk was stored or that all is stored. -/
def reports : TransferOutput → Option Nat
  | .accepted transferId _ => some transferId
  | .sent _ (.fileUploadComplete transferId _ _ _) => some transferId
  | _ => none

/-- The chunk that was stored for a transfer. -/
def storedChunk (transferId : Nat) : TransferOutput → Option (List UInt8)
  | .accepted other chunk => if other = transferId then some chunk else none
  | _ => none

@[simp] theorem storedChunk_accepted (transferId : Nat) (chunk : List UInt8) :
    storedChunk transferId (.accepted transferId chunk) = some chunk := if_pos rfl

@[simp] theorem storedChunk_sent (transferId : Nat) (clientId : UInt64) (message : TransferMessage) :
    storedChunk transferId (.sent clientId message) = none := rfl

@[simp] theorem storedChunk_returned (transferId : Nat) (code : Int) :
    storedChunk transferId (.returned code) = none := rfl

def isComplete (transferId : Nat) : TransferOutput → Bool
  | .sent _ (.fileUploadComplete other _ _ _) => other = transferId
  | _ => false

/-- The chunk of the original file with this index. -/
def trueChunk (original : List UInt8) (chunkSize : UInt32) (index : Nat) : List UInt8 :=
  (original.drop (index * chunkSize.toNat)).take chunkSize.toNat

/-- What the client sends for a chunk. -/
def sealedChunk (context : TransferContext) (chunk : List UInt8) : List UInt8 :=
  if context.encrypted then encryptData chunk context.encryptionKey else chunk

/-- The call names the transfer, its client and the index that comes next. -/
def Expected (context : TransferContext) (manager : TransferManager) (call : UploadChunk) : Prop :=
  call.transferId = context.transferId ∧ call.clientId = context.clientId ∧
    ∃ current, some current ∈ manager.transfers ∧ current.transferId = context.transferId ∧
      call.chunkIndex = current.currentChunk

/-- The file holds the accepted chunks, its completion was reported once it is the original,
and no other call touches the transfer. -/
structure Assembled (sha256 : List UInt8 → List UInt8) (context : TransferContext) (original : List UInt8)
    (manager : TransferManager) (outputs : List TransferOutput) : Prop where
  stored : manager.files context.filepath =
    some (outputs.filterMap (storedChunk context.transferId)).flatten
  complete : outputs.countP (isComplete context.transferId) =
    if manager.files context.filepath = some original then 1 else 0
  foreign : ∀ call, ¬ Expected context manager call →
    ((transferMachine sha256).step manager (.uploadChunk call)).1.files context.filepath =
        manager.files context.filepath ∧
      (∀ current, current.transferId = context.transferId →
        (some current ∈ ((transferMachine sha256).step manager (.uploadChunk call)).1.transfers ↔
          some current ∈ manager.transfers)) ∧
      ∀ output ∈ ((transferMachine sha256).step manager (.uploadChunk call)).2,
        reports output ≠ some context.transferId

theorem writeFile_same (manager : TransferManager) (path content : List UInt8) :
    (writeFile manager path content).files path = some content := if_pos rfl

theorem encryptData_twice (data : List UInt8) (key : Vector UInt8 32) :
    decryptData (encryptData data key) key = data := by
  unfold decryptData encryptData
  rw [List.mapIdx_mapIdx]
  apply List.ext_getElem
  · simp
  · intro index inside there
    simp [UInt8.xor_assoc]

theorem encryptData_length (data : List UInt8) (key : Vector UInt8 32) :
    (encryptData data key).length = data.length := List.length_mapIdx

section Chunk

variable (sha256 : List UInt8 → List UInt8) (manager : TransferManager)

/-- What a chunk call does, whatever it carries: it changes the slot, the file and the reports of the
transfer that it finds. -/
structure ChunkEffect (context : TransferContext) (slot : Nat) (next : TransferManager)
    (outputs : List TransferOutput) : Prop where
  slots : ∃ value : Option TransferContext, next.transfers = manager.transfers.set slot value ∧
    ∀ after, value = some after →
      after.transferId = context.transferId ∧ after.filepath = context.filepath
  files : ∀ path, path ≠ context.filepath → next.files path = manager.files path
  about : ∀ output ∈ outputs, ∀ transferId, reports output = some transferId →
    transferId = context.transferId

theorem ChunkEffect.nothing {context : TransferContext} {slot : Nat}
    (found : manager.transfers[slot]? = some (some context)) (next : TransferManager)
    (transfers : next.transfers = manager.transfers) (files : next.files = manager.files)
    (outputs : List TransferOutput) (quiet : ∀ output ∈ outputs, reports output = none) :
    ChunkEffect manager context slot next outputs where
  slots := ⟨some context, by rw [transfers, set_same _ _ _ found], fun after same => by cases same; exact ⟨rfl, rfl⟩⟩
  files path _ := by rw [files]
  about output member transferId shown := by cases (quiet output member).symm.trans shown

theorem completeUpload_effect (slot : Nat) {context : TransferContext} (call : UploadChunk)
    (own : call.transferId = context.transferId) :
    (completeUpload sha256 manager slot context call).1.files = manager.files ∧
      ((completeUpload sha256 manager slot context call).1.transfers = manager.transfers ∨
        (completeUpload sha256 manager slot context call).1.transfers = manager.transfers.set slot none) ∧
      ∀ output ∈ (completeUpload sha256 manager slot context call).2, ∀ transferId,
        reports output = some transferId → transferId = context.transferId := by
  unfold completeUpload
  split
  · exact ⟨rfl, .inl rfl, fun output member => nomatch member⟩
  · refine ⟨rfl, .inr rfl, ?_⟩
    intro output member transferId shown
    simp only [List.mem_cons, List.not_mem_nil, or_false] at member
    rcases member with rfl | rfl
    · rw [← own]
      exact (Option.some.inj shown).symm
    · cases shown

theorem acceptChunk_effect {next : TransferManager} {slot : Nat} {context after : TransferContext}
    (call : UploadChunk) (data : List UInt8) (own : call.transferId = context.transferId)
    (transfers : next.transfers = manager.transfers)
    (files : ∀ path, path ≠ context.filepath → next.files path = manager.files path)
    (fields : after = { context with handle := after.handle }) :
    ChunkEffect manager context slot (acceptChunk sha256 next slot after call data).1
      (acceptChunk sha256 next slot after call data).2 := by
  have identifier : (countChunk after call).transferId = context.transferId := by
    show after.transferId = _
    rw [fields]
  have path : (countChunk after call).filepath = context.filepath := by
    show after.filepath = _
    rw [fields]
  have changed : (setTransfer next slot (countChunk after call)).transfers =
      manager.transfers.set slot (some (countChunk after call)) := by
    rw [← transfers]
    rfl
  have stored : ∀ transferId, reports (.accepted (countChunk after call).transferId data) = some transferId →
      transferId = context.transferId :=
    fun transferId shown => (Option.some.inj shown).symm.trans identifier
  unfold acceptChunk
  dsimp only
  split
  · obtain ⟨kept, slots, about⟩ := completeUpload_effect sha256 (setTransfer next slot (countChunk after call))
      slot call (own.trans identifier.symm)
    constructor
    · rcases slots with same | freed
      · exact ⟨some (countChunk after call), same.trans changed, fun _ same => by
          cases same; exact ⟨identifier, path⟩⟩
      · refine ⟨none, ?_, nofun⟩
        rw [freed, changed, List.set_set]
    · intro other different
      rw [kept]
      exact files other different
    · intro output member transferId shown
      rcases List.mem_cons.mp member with rfl | later
      · exact stored transferId shown
      · exact (about output later transferId shown).trans identifier
  · constructor
    · exact ⟨some (countChunk after call), changed, fun _ same => by cases same; exact ⟨identifier, path⟩⟩
    · exact files
    · intro output member transferId shown
      simp only [List.mem_cons, List.not_mem_nil, or_false] at member
      rcases member with rfl | rfl
      · exact stored transferId shown
      · cases shown

/-- A chunk call reaches no other transfer than the one that it finds. -/
theorem handleFileUploadChunk_effect {call : UploadChunk} {slot : Nat} {context : TransferContext}
    (found : findTransfer manager call = some (slot, context)) :
    ChunkEffect manager context slot (handleFileUploadChunk sha256 manager call).1
      (handleFileUploadChunk sha256 manager call).2 := by
  obtain ⟨place, own, -⟩ := findTransfer_spec manager found
  unfold handleFileUploadChunk
  rw [found]
  dsimp only
  split
  · exact .nothing manager place _ rfl rfl _ (by simp [reports])
  · split
    · exact .nothing manager place _ rfl rfl _ (by simp [reports])
    · split
      · exact .nothing manager place { manager with crashed := true } rfl rfl [] fun output member => nomatch member
      · rename_i written next after result
        obtain ⟨same, fields, -, files⟩ := fwriteChunk_spec manager result
        have transfers : next.transfers = manager.transfers := by rw [same]
        split
        · constructor
          · refine ⟨some after, congrArg (·.set slot (some after)) transfers, fun _ same => ?_⟩
            cases same
            exact ⟨by rw [fields], by rw [fields]⟩
          · exact files
          · intro output member transferId shown
            rw [List.mem_singleton.mp member] at shown
            cases shown
        · exact acceptChunk_effect sha256 manager call _ own.symm transfers files fields

end Chunk

/-- The transfer as it is after a number of chunks. -/
def afterChunks (context : TransferContext) (count : Nat) : TransferContext :=
  { context with
    bytesTransferred := UInt64.ofNat (count * context.chunkSize.toNat)
    currentChunk := UInt32.ofNat count
    handle := .writing (count * context.chunkSize.toNat) }

/-- Nothing else in the table has the identifier or the path of the transfer. -/
def Alone (context : TransferContext) (slot : Nat) (manager : TransferManager) : Prop :=
  ∀ other held, manager.transfers[other]? = some (some held) → other ≠ slot →
    held.transferId ≠ context.transferId ∧ held.filepath ≠ context.filepath

/-- The transfer has got some chunks and waits for more. -/
structure Waiting (context : TransferContext) (original : List UInt8) (slot count : Nat)
    (manager : TransferManager) (outputs : List TransferOutput) : Prop where
  place : manager.transfers[slot]? = some (some (afterChunks context count))
  short : count * context.chunkSize.toNat < original.length
  file : manager.files context.filepath = some (original.take (count * context.chunkSize.toNat))
  stored : (outputs.filterMap (storedChunk context.transferId)).flatten =
    original.take (count * context.chunkSize.toNat)
  silent : outputs.countP (isComplete context.transferId) = 0

/-- The transfer is over. -/
structure Finished (context : TransferContext) (original : List UInt8) (slot : Nat)
    (manager : TransferManager) (outputs : List TransferOutput) : Prop where
  place : manager.transfers[slot]? = some none
  file : manager.files context.filepath = some original
  stored : (outputs.filterMap (storedChunk context.transferId)).flatten = original
  once : outputs.countP (isComplete context.transferId) = 1

def Progress (context : TransferContext) (original : List UInt8) (slot : Nat)
    (manager : TransferManager) (outputs : List TransferOutput) : Prop :=
  Alone context slot manager ∧ ((∃ count, Waiting context original slot count manager outputs) ∨
    Finished context original slot manager outputs)

section Foreign

variable {sha256 : List UInt8 → List UInt8} {context : TransferContext} {slot : Nat}
  {manager : TransferManager}

theorem filterMap_storedChunk_of_quiet (outputs : List TransferOutput)
    (quiet : ∀ output ∈ outputs, reports output ≠ some context.transferId) :
    outputs.filterMap (storedChunk context.transferId) = [] ∧
      outputs.countP (isComplete context.transferId) = 0 := by
  rw [List.filterMap_eq_nil_iff, List.countP_eq_zero]
  constructor
  · intro output member
    have other := quiet output member
    unfold storedChunk
    split
    · rw [if_neg]
      rintro rfl
      exact other rfl
    · rfl
  · intro output member
    have other := quiet output member
    unfold isComplete
    split
    · rw [decide_eq_true_iff]
      rintro rfl
      exact other rfl
    · exact Bool.false_ne_true

/-- A call leaves the transfer alone. -/
structure Untouched (context : TransferContext) (slot : Nat) (manager next : TransferManager)
    (outputs : List TransferOutput) : Prop where
  place : next.transfers[slot]? = manager.transfers[slot]?
  alone : Alone context slot next
  file : next.files context.filepath = manager.files context.filepath
  quiet : ∀ output ∈ outputs, reports output ≠ some context.transferId

/-- A call that finds another slot does nothing to the transfer. -/
theorem ChunkEffect.foreign {held : TransferContext} {other : Nat} {next : TransferManager}
    {outputs : List TransferOutput} (effect : ChunkEffect manager held other next outputs)
    (alone : Alone context slot manager) (found : manager.transfers[other]? = some (some held))
    (different : other ≠ slot) : Untouched context slot manager next outputs := by
  obtain ⟨identifier, path⟩ := alone other held found different
  obtain ⟨value, transfers, kept⟩ := effect.slots
  refine ⟨?_, ?_, effect.files _ path.symm, ?_⟩
  · rw [transfers, List.getElem?_set_ne different]
  · intro place after there apart
    rw [transfers] at there
    by_cases same : other = place
    · subst same
      have inside := (List.getElem?_eq_some_iff.mp found).1
      rw [List.getElem?_set_self inside, Option.some.injEq] at there
      obtain ⟨again, same⟩ := kept after there
      rw [again, same]
      exact ⟨identifier, path⟩
    · rw [List.getElem?_set_ne same] at there
      exact alone place after there apart
  · intro output member shown
    exact identifier (effect.about output member _ shown).symm

theorem Alone.place {current : TransferContext} (alone : Alone context slot manager)
    (held : some current ∈ manager.transfers) (same : current.transferId = context.transferId) :
    manager.transfers[slot]? = some (some current) := by
  obtain ⟨other, there⟩ := List.mem_iff_getElem?.mp held
  by_cases different : other = slot
  · exact different ▸ there
  · exact absurd same (alone other current there different).1

/-- The slot of the transfer itself does not count. -/
theorem Alone.set (alone : Alone context slot manager) (value : Option TransferContext) :
    Alone context slot { manager with transfers := manager.transfers.set slot value } := by
  intro other held there different
  dsimp only at there
  rw [List.getElem?_set_ne (Ne.symm different)] at there
  exact alone other held there different

/-- A call leaves the transfer alone, or it finds it and brings the index that comes next. -/
theorem chunkStep_cases (sha256 : List UInt8 → List UInt8) (alone : Alone context slot manager)
    (call : UploadChunk) :
    Untouched context slot manager ((transferMachine sha256).step manager (.uploadChunk call)).1
        ((transferMachine sha256).step manager (.uploadChunk call)).2 ∨
      ∃ held, findTransfer manager call = some (slot, held) ∧ call.chunkIndex = held.currentChunk ∧
        (transferMachine sha256).step manager (.uploadChunk call) =
          handleFileUploadChunk sha256 manager call := by
  have still : ∀ outputs, (∀ output ∈ outputs, reports output = none) →
      Untouched context slot manager manager outputs :=
    fun outputs quiet => ⟨rfl, alone, rfl, fun output member shown => by
      cases (quiet output member).symm.trans shown⟩
  cases crashed : manager.crashed with
  | true =>
      have step : (transferMachine sha256).step manager (.uploadChunk call) = (manager, []) := by
        simp [transferMachine, crashed]
      rw [step]
      exact .inl (still [] (by rintro output ⟨⟩))
  | false =>
      have step : (transferMachine sha256).step manager (.uploadChunk call) =
          handleFileUploadChunk sha256 manager call := by
        simp [transferMachine, crashed, transferStep]
      rw [step]
      cases found : findTransfer manager call with
      | none =>
          have refused : handleFileUploadChunk sha256 manager call = (manager, [.returned (-1)]) := by
            unfold handleFileUploadChunk
            rw [found]
          rw [refused]
          exact .inl (still _ (by simp [reports]))
      | some pair =>
          obtain ⟨other, held⟩ := pair
          have place := (findTransfer_spec manager found).1
          by_cases different : other = slot
          · subst different
            by_cases next : call.chunkIndex = held.currentChunk
            · exact .inr ⟨held, rfl, next, rfl⟩
            · have refused : handleFileUploadChunk sha256 manager call = (manager, [.returned (-2)]) := by
                unfold handleFileUploadChunk
                rw [found]
                exact if_pos next
              rw [refused]
              exact .inl (still _ (by simp [reports]))
          · exact .inl ((handleFileUploadChunk_effect sha256 manager found).foreign alone place different)

end Foreign

section Own

variable (sha256 : List UInt8 → List UInt8) {context : TransferContext} {original : List UInt8} {slot count : Nat}
  {manager : TransferManager} {outputs : List TransferOutput}

theorem plainChunk_sealed (held : TransferContext) (call : UploadChunk) (chunk : List UInt8)
    (encrypted : held.encrypted = context.encrypted) (key : held.encryptionKey = context.encryptionKey)
    (carried : call.chunkData.val = sealedChunk context chunk) : plainChunk held call = chunk := by
  unfold plainChunk
  rw [encrypted, key, carried, sealedChunk]
  cases context.encrypted with
  | true => exact encryptData_twice chunk context.encryptionKey
  | false => rfl

theorem sealedChunk_length (context : TransferContext) (chunk : List UInt8) :
    (sealedChunk context chunk).length = chunk.length := by
  unfold sealedChunk
  split
  · exact encryptData_length chunk context.encryptionKey
  · rfl

/-- The writer of the transfer is behind the chunk. -/
def behindChunk (context : TransferContext) (count : Nat) (chunk : List UInt8) : TransferContext :=
  { afterChunks context count with handle := .writing (count * context.chunkSize.toNat + chunk.length) }

/-- An expected chunk is appended to the file. -/
theorem handleFileUploadChunk_own (waiting : Waiting context original slot count manager outputs)
    (call : UploadChunk) (found : findTransfer manager call = some (slot, afterChunks context count))
    (next : call.chunkIndex = (afterChunks context count).currentChunk)
    (carried : call.chunkData.val = sealedChunk context (trueChunk original context.chunkSize count))
    (allocated : call.mallocOk = true) (written : call.chunkData.val.length ≤ call.written) :
    handleFileUploadChunk sha256 manager call =
      acceptChunk sha256
        (writeFile manager context.filepath (original.take (count * context.chunkSize.toNat) ++
          trueChunk original context.chunkSize count)) slot
        (behindChunk context count (trueChunk original context.chunkSize count)) call
        (trueChunk original context.chunkSize count) := by
  have plain := plainChunk_sealed (afterChunks context count) call _ rfl rfl carried
  have again := plainChunk_sealed (behindChunk context count (trueChunk original context.chunkSize count)) call _
    rfl rfl carried
  have whole : (trueChunk original context.chunkSize count).take call.written =
      trueChunk original context.chunkSize count := by
    apply List.take_of_length_le
    rw [carried, sealedChunk_length] at written
    exact written
  have length : (original.take (count * context.chunkSize.toNat)).length = count * context.chunkSize.toNat := by
    rw [List.length_take]
    exact Nat.min_eq_left (Nat.le_of_lt waiting.short)
  have appended : fwriteChunk manager (afterChunks context count) (trueChunk original context.chunkSize count)
      call.written = some ((trueChunk original context.chunkSize count).length,
        writeFile manager context.filepath (original.take (count * context.chunkSize.toNat) ++
          trueChunk original context.chunkSize count),
        behindChunk context count (trueChunk original context.chunkSize count)) := by
    have ends := writeAt_end (0 : UInt8) (original.take (count * context.chunkSize.toNat))
      (trueChunk original context.chunkSize count)
    rw [length] at ends
    unfold fwriteChunk
    simp only [afterChunks, whole, waiting.file, Option.getD_some, ends]
    rfl
  unfold handleFileUploadChunk
  rw [found]
  dsimp only
  rw [if_neg (not_not_intro next), allocated, Bool.not_true, if_neg Bool.false_ne_true, plain, appended]
  dsimp only
  rw [again, if_neg (not_not_intro rfl)]

/-- Behind a chunk the file is known up to its end. -/
theorem take_trueChunk (original : List UInt8) (chunkSize : UInt32) (count : Nat) :
    original.take (count * chunkSize.toNat) ++ trueChunk original chunkSize count =
      original.take ((count + 1) * chunkSize.toNat) := by
  rw [trueChunk, Nat.succ_mul, List.take_add]

theorem trueChunk_length (original : List UInt8) (chunkSize : UInt32) (count : Nat) :
    (trueChunk original chunkSize count).length =
      min chunkSize.toNat (original.length - count * chunkSize.toNat) := by
  rw [trueChunk, List.length_take, List.length_drop]

theorem chunkSize_toNat (call : UploadChunk) : call.chunkSize.toUInt64.toNat = call.chunkData.val.length := by
  rw [UInt32.toNat_toUInt64, UploadChunk.chunkSize, UInt32.toNat_ofNat']
  exact Nat.mod_eq_of_lt call.chunkData.property

/-- The counter of bytes does not wrap. -/
theorem countChunk_bytes (call : UploadChunk) (chunk : List UInt8)
    (carried : call.chunkData.val = sealedChunk context chunk)
    (small : count * context.chunkSize.toNat + chunk.length < 2 ^ 64) :
    (countChunk (behindChunk context count chunk) call).bytesTransferred =
      UInt64.ofNat (count * context.chunkSize.toNat + chunk.length) := by
  apply UInt64.toNat_inj.mp
  show (UInt64.ofNat (count * context.chunkSize.toNat) + call.chunkSize.toUInt64).toNat = _
  rw [UInt64.toNat_add, chunkSize_toNat, carried, sealedChunk_length, UInt64.toNat_ofNat', UInt64.toNat_ofNat',
    Nat.mod_eq_of_lt small, Nat.mod_eq_of_lt (Nat.lt_of_le_of_lt (Nat.le_add_right ..) small),
    Nat.mod_eq_of_lt small]

/-- A chunk in front of the last one is counted. -/
theorem acceptChunk_more (next : TransferManager) (call : UploadChunk)
    (carried : call.chunkData.val = sealedChunk context (trueChunk original context.chunkSize count))
    (size : context.fileSize.toNat = original.length)
    (more : (count + 1) * context.chunkSize.toNat < original.length) :
    acceptChunk sha256 next slot
        (behindChunk context count (trueChunk original context.chunkSize count)) call
        (trueChunk original context.chunkSize count) =
      (setTransfer next slot (afterChunks context (count + 1)),
        [.accepted context.transferId (trueChunk original context.chunkSize count), .returned 0]) := by
  have full : (trueChunk original context.chunkSize count).length = context.chunkSize.toNat := by
    rw [Nat.succ_mul] at more
    rw [trueChunk_length]
    omega
  have small : count * context.chunkSize.toNat + (trueChunk original context.chunkSize count).length < 2 ^ 64 := by
    have := context.fileSize.toNat_lt
    rw [Nat.succ_mul] at more
    omega
  have bytes := countChunk_bytes call _ carried small
  rw [full, ← Nat.succ_mul] at bytes
  have counted : countChunk (behindChunk context count (trueChunk original context.chunkSize count)) call =
      afterChunks context (count + 1) := by
    have index : (UInt32.ofNat count + 1 : UInt32) = UInt32.ofNat (count + 1) := (UInt32.ofNat_add ..).symm
    have handle : FileHandle.writing (count * context.chunkSize.toNat +
        (trueChunk original context.chunkSize count).length) =
        .writing ((count + 1) * context.chunkSize.toNat) := by rw [full, Nat.succ_mul]
    have fields : countChunk (behindChunk context count (trueChunk original context.chunkSize count)) call =
        { context with
          bytesTransferred := (countChunk (behindChunk context count
            (trueChunk original context.chunkSize count)) call).bytesTransferred
          currentChunk := UInt32.ofNat count + 1
          handle := .writing (count * context.chunkSize.toNat +
            (trueChunk original context.chunkSize count).length) } := rfl
    rw [fields, bytes, index, handle]
    rfl
  unfold acceptChunk
  dsimp only
  rw [counted, if_neg]
  · rfl
  · rw [UInt64.le_iff_toNat_le]
    show ¬ context.fileSize.toNat ≤ (UInt64.ofNat ((count + 1) * context.chunkSize.toNat)).toNat
    rw [UInt64.toNat_ofNat', size, Nat.mod_eq_of_lt (by have := context.fileSize.toNat_lt; omega)]
    exact Nat.not_le_of_lt more

/-- The last chunk completes the upload. -/
theorem acceptChunk_last (slot : Nat) (next : TransferManager) (call : UploadChunk)
    (carried : call.chunkData.val = sealedChunk context (trueChunk original context.chunkSize count))
    (size : context.fileSize.toNat = original.length)
    (short : count * context.chunkSize.toNat < original.length)
    (last : original.length ≤ (count + 1) * context.chunkSize.toNat) :
    ∃ after fileHash,
      acceptChunk sha256 next slot
          (behindChunk context count (trueChunk original context.chunkSize count)) call
          (trueChunk original context.chunkSize count) =
        (releaseSlot (setTransfer next slot after) slot,
          [.accepted context.transferId (trueChunk original context.chunkSize count),
            .sent call.clientId (.fileUploadComplete call.transferId context.filename context.fileSize fileHash),
            .returned 0]) := by
  have rest : count * context.chunkSize.toNat + (trueChunk original context.chunkSize count).length =
      original.length := by
    rw [Nat.succ_mul] at last
    rw [trueChunk_length]
    omega
  have small := context.fileSize.toNat_lt
  rw [size, ← rest] at small
  have bytes := countChunk_bytes call _ carried small
  rw [rest] at bytes
  refine ⟨countChunk (behindChunk context count (trueChunk original context.chunkSize count)) call,
    if call.hashOpens then (next.files context.filepath).map sha256 else none, ?_⟩
  unfold acceptChunk
  dsimp only
  rw [if_pos]
  · unfold completeUpload
    rw [if_neg]
    · rfl
    · exact nofun
  · rw [bytes, UInt64.le_iff_toNat_le, UInt64.toNat_ofNat', Nat.mod_eq_of_lt (rest ▸ small)]
    exact Nat.le_of_eq size

/-- An expected chunk brings the transfer forward. -/
theorem Waiting.step (waiting : Waiting context original slot count manager outputs)
    (alone : Alone context slot manager) (size : context.fileSize.toNat = original.length)
    (call : UploadChunk) (found : findTransfer manager call = some (slot, afterChunks context count))
    (next : call.chunkIndex = (afterChunks context count).currentChunk)
    (carried : call.chunkData.val = sealedChunk context (trueChunk original context.chunkSize count))
    (allocated : call.mallocOk = true) (written : call.chunkData.val.length ≤ call.written) :
    Progress context original slot (handleFileUploadChunk sha256 manager call).1
      (outputs ++ (handleFileUploadChunk sha256 manager call).2) := by
  obtain ⟨place, own, -⟩ := findTransfer_spec manager found
  have inside := (List.getElem?_eq_some_iff.mp place).1
  rw [handleFileUploadChunk_own sha256 waiting call found next carried allocated written, take_trueChunk]
  by_cases more : (count + 1) * context.chunkSize.toNat < original.length
  · rw [acceptChunk_more sha256 _ call carried size more]
    refine ⟨alone.set _, .inl ⟨count + 1, ?_, more, ?_, ?_, ?_⟩⟩
    · exact List.getElem?_set_self inside
    · exact if_pos rfl
    · rw [List.filterMap_append, List.flatten_append, waiting.stored]
      simpa [List.filterMap_cons] using take_trueChunk original context.chunkSize count
    · rw [List.countP_append, waiting.silent]
      simp [isComplete]
  · have last := Nat.le_of_not_lt more
    have whole : original.take ((count + 1) * context.chunkSize.toNat) = original := List.take_of_length_le last
    obtain ⟨after, fileHash, result⟩ := acceptChunk_last sha256 slot
      (writeFile manager context.filepath (original.take ((count + 1) * context.chunkSize.toNat))) call carried
      size waiting.short last
    rw [result]
    have identifier : call.transferId = context.transferId := own.symm
    refine ⟨?_, .inr ⟨?_, ?_, ?_, ?_⟩⟩
    · have freed : (manager.transfers.set slot (some after)).set slot none = manager.transfers.set slot none :=
        List.set_set ..
      intro other held there different
      exact alone.set none other held (freed ▸ there) different
    · show ((manager.transfers.set slot (some after)).set slot none)[slot]? = _
      rw [List.set_set]
      exact List.getElem?_set_self inside
    · have file : (writeFile manager context.filepath
          (original.take ((count + 1) * context.chunkSize.toNat))).files context.filepath =
          some (original.take ((count + 1) * context.chunkSize.toNat)) := writeFile_same ..
      rw [whole] at file
      exact whole.symm ▸ file
    · rw [List.filterMap_append, List.flatten_append, waiting.stored]
      have joined := take_trueChunk original context.chunkSize count
      rw [whole] at joined
      simpa [List.filterMap_cons] using joined
    · rw [List.countP_append, waiting.silent]
      simp [isComplete, identifier]

end Own

section Run

variable (sha256 : List UInt8 → List UInt8) {context : TransferContext} {original : List UInt8} {slot : Nat}

theorem Untouched.progress {manager next : TransferManager} {outputs later : List TransferOutput}
    (untouched : Untouched context slot manager next later)
    (progress : Progress context original slot manager outputs) :
    Progress context original slot next (outputs ++ later) := by
  obtain ⟨nothing, silent⟩ := filterMap_storedChunk_of_quiet later untouched.quiet
  have stored : (outputs ++ later).filterMap (storedChunk context.transferId) =
      outputs.filterMap (storedChunk context.transferId) := by
    rw [List.filterMap_append, nothing, List.append_nil]
  have counted : (outputs ++ later).countP (isComplete context.transferId) =
      outputs.countP (isComplete context.transferId) := by
    rw [List.countP_append, silent, Nat.add_zero]
  refine ⟨untouched.alone, ?_⟩
  rcases progress.2 with ⟨count, waiting⟩ | finished
  · refine .inl ⟨count, untouched.place.trans waiting.place, waiting.short, untouched.file.trans waiting.file, ?_, ?_⟩
    · rw [stored]; exact waiting.stored
    · rw [counted]; exact waiting.silent
  · refine .inr ⟨untouched.place.trans finished.place, untouched.file.trans finished.file, ?_, ?_⟩
    · rw [stored]; exact finished.stored
    · rw [counted]; exact finished.once

/-- The number of chunks fits into the index. -/
theorem Waiting.index {manager : TransferManager} {outputs : List TransferOutput} {count : Nat}
    (waiting : Waiting context original slot count manager outputs)
    (positive : 0 < context.chunkSize.toNat) (bounded : original.length < 2 ^ 32) :
    (afterChunks context count).currentChunk.toNat = count := by
  show (UInt32.ofNat count).toNat = count
  rw [UInt32.toNat_ofNat']
  apply Nat.mod_eq_of_lt
  calc count ≤ count * context.chunkSize.toNat := Nat.le_mul_of_pos_right count positive
    _ < original.length := waiting.short
    _ < 2 ^ 32 := bounded

/-- A call that finds the transfer with the index that comes next is expected. -/
theorem Waiting.expected {manager : TransferManager} {outputs : List TransferOutput} {count : Nat}
    (waiting : Waiting context original slot count manager outputs) {call : UploadChunk}
    {held : TransferContext} (found : findTransfer manager call = some (slot, held))
    (next : call.chunkIndex = held.currentChunk) :
    held = afterChunks context count ∧ Expected context manager call := by
  obtain ⟨place, own, client⟩ := findTransfer_spec manager found
  have same : held = afterChunks context count := by
    rw [waiting.place] at place
    exact (Option.some.inj (Option.some.inj place)).symm
  subst same
  exact ⟨rfl, own.symm, client.symm, _, List.mem_of_getElem? waiting.place, rfl, next⟩

/-- The progress of a transfer is what it is about. -/
theorem Progress.assembled {manager : TransferManager} {outputs : List TransferOutput}
    (progress : Progress context original slot manager outputs) :
    Assembled sha256 context original manager outputs := by
  obtain ⟨alone, state⟩ := progress
  constructor
  · rcases state with ⟨count, waiting⟩ | finished
    · rw [waiting.file, waiting.stored]
    · rw [finished.file, finished.stored]
  · rcases state with ⟨count, waiting⟩ | finished
    · have unlike : original.take (count * context.chunkSize.toNat) ≠ original := by
        intro same
        have length := congrArg List.length same
        rw [List.length_take] at length
        have := waiting.short
        omega
      rw [waiting.silent, waiting.file, if_neg fun same => unlike (Option.some.inj same)]
    · rw [finished.once, finished.file, if_pos rfl]
  · intro call foreign
    rcases chunkStep_cases sha256 alone call with untouched | ⟨held, found, next, -⟩
    · refine ⟨untouched.file, fun current same => ?_, untouched.quiet⟩
      constructor
      · intro there
        have place := untouched.alone.place there same
        rw [untouched.place] at place
        exact List.mem_of_getElem? place
      · intro there
        have place := alone.place there same
        rw [← untouched.place] at place
        exact List.mem_of_getElem? place
    · rcases state with ⟨count, waiting⟩ | finished
      · exact absurd (waiting.expected found next).2 foreign
      · have place := (findTransfer_spec manager found).1
        rw [finished.place] at place
        cases place

/-- The state behind a request that was accepted. -/
theorem handleFileUploadRequest_accepted (manager : TransferManager) (request : UploadRequest)
    (accepted : .returned 0 ∈ (handleFileUploadRequest manager request).2) :
    request.fileSize ≤ maxFileSize ∧ request.chunkSize ≠ 0 ∧ ∃ slot, manager.transfers[slot]? = some none ∧
      (handleFileUploadRequest manager request).1 =
        writeFile (takeSlot { manager with nextTransferId := manager.nextTransferId + 1 } slot
          (uploadContext manager request)) (uploadContext manager request).filepath [] := by
  unfold handleFileUploadRequest at accepted ⊢
  split at accepted
  · simp at accepted
  · rename_i small
    rw [if_neg small]
    split at accepted
    · simp at accepted
    · rename_i allocated
      rw [if_neg allocated]
      split at accepted
      · cases accepted
      · rename_i divides
        rw [if_neg divides]
        dsimp only at accepted ⊢
        split at accepted
        · simp at accepted
        · rename_i slot found
          split at accepted
          · simp at accepted
          · rename_i opened
            refine ⟨UInt64.not_lt.mp small, divides, slot, freeSlot_spec _ found, ?_⟩
            rw [if_neg opened]

end Run

end SecureChat.WebSocket
