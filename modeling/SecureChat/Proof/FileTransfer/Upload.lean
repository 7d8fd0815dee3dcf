import SecureChat.Construction.FileTransfer.Upload
import SecureChat.Library.Chunks

namespace SecureChat.FileTransfer
open Library

/-- A session that is verified has got every chunk at least once. -/
def WholeUpload (session : UploadSession) : Prop :=
  session.status = .verifying →
    ∀ index < session.totalChunks, ∃ write ∈ session.tempFile, write.chunkIndex = index

/-- The bytes that were counted for one chunk. -/
def countedBytes (session : UploadSession) (index : Nat) : Nat :=
  classWeight (fun write : ChunkWrite => write.chunkIndex.toNat) (fun write => write.dataLength.toNat)
    session.tempFile index

/-- No chunk is counted with more bytes than it has. -/
def FitsChunk (config : UploadConfig) (session : UploadSession) (call : ChunkCall) : Prop :=
  call.chunkIndex < session.totalChunks →
    countedBytes session call.chunkIndex.toNat + call.dataLength.toNat ≤
      chunkLength session.totalBytes.toNat config.chunkSize.toNat call.chunkIndex.toNat

instance (config : UploadConfig) (session : UploadSession) (call : ChunkCall) :
    Decidable (FitsChunk config session call) := by
  unfold FitsChunk
  infer_instance

/-- The counter holds the bytes of all chunks, and none of them is above its length. -/
structure Counted (config : UploadConfig) (session : UploadSession) : Prop where
  chunks : session.totalChunks.toNat ≤
    (session.totalBytes.toNat + config.chunkSize.toNat - 1) / config.chunkSize.toNat
  inside : ∀ write ∈ session.tempFile, write.chunkIndex.toNat < session.totalChunks.toNat
  bytes : session.bytesTransferred.toNat =
    (session.tempFile.map fun write => write.dataLength.toNat).sum
  within : ∀ index < session.totalChunks.toNat,
    countedBytes session index ≤ chunkLength session.totalBytes.toNat config.chunkSize.toNat index

variable {config : UploadConfig} {session : UploadSession}

/-- Without an overflow the number of chunks is rounded up and cut to 32 bits. -/
theorem totalChunksOf_toNat (config : UploadConfig) (fileSize : UInt64)
    (room : fileSize.toNat + config.chunkSize.toNat ≤ 2 ^ 64) :
    (totalChunksOf config fileSize).toNat =
      (fileSize.toNat + config.chunkSize.toNat - 1) / config.chunkSize.toNat % 2 ^ 32 := by
  have one : (1 : UInt64).toNat = 1 := rfl
  have size := fileSize.toNat_lt
  have chunk := config.chunkSize.toNat_lt
  rw [totalChunksOf, UInt64.toNat_toUInt32, UInt64.toNat_div, UInt64.toNat_sub, UInt64.toNat_add,
    UInt32.toNat_toUInt64, one]
  rcases Nat.eq_zero_or_pos config.chunkSize.toNat with zero | positive
  · rw [zero, Nat.div_zero, Nat.div_zero]
  · congr 2
    omega

/-- With an overflow there are less chunks. -/
theorem totalChunksOf_le (config : UploadConfig) (fileSize : UInt64) :
    (totalChunksOf config fileSize).toNat ≤
      (fileSize.toNat + config.chunkSize.toNat - 1) / config.chunkSize.toNat := by
  by_cases room : fileSize.toNat + config.chunkSize.toNat ≤ 2 ^ 64
  · rw [totalChunksOf_toNat config fileSize room]
    exact Nat.mod_le _ _
  · have one : (1 : UInt64).toNat = 1 := rfl
    have size := fileSize.toNat_lt
    have chunk := config.chunkSize.toNat_lt
    rw [totalChunksOf, UInt64.toNat_toUInt32, UInt64.toNat_div, UInt64.toNat_sub, UInt64.toNat_add,
      UInt32.toNat_toUInt64, one]
    refine le_trans (Nat.mod_le _ _) (Nat.div_le_div_right ?_)
    omega

theorem beginUpload_counted (config : UploadConfig) (fileSize : UInt64) (status : TransferStatus)
    (encryptionEnabled compressionEnabled : Bool) (now : Int) :
    Counted config (beginUpload config fileSize status encryptionEnabled compressionEnabled now) where
  chunks := totalChunksOf_le config fileSize
  inside := by
    intro write member
    cases member
  bytes := rfl
  within := fun index _ => Nat.zero_le _

namespace Counted

/-- Every chunk was written once the counter has reached the size of the file. -/
theorem written (counted : Counted config session)
    (reached : session.totalBytes.toNat ≤ session.bytesTransferred.toNat) (index : UInt32)
    (valid : index < session.totalChunks) : ∃ write ∈ session.tempFile, write.chunkIndex = index := by
  have bound : index.toNat < session.totalChunks.toNat := UInt32.lt_iff_toNat_lt.mp valid
  rw [counted.bytes, ← sum_classWeight _ _ session.totalChunks.toNat session.tempFile counted.inside]
    at reached
  have full := chunks_full _ _ _ (countedBytes session) counted.within reached index.toNat bound
  have positive := chunkLength_pos _ _ index.toNat (Nat.lt_of_lt_of_le bound counted.chunks)
  rw [← full] at positive
  obtain ⟨write, member, same⟩ := exists_of_classWeight _ _ session.tempFile index.toNat positive
  exact ⟨write, member, UInt32.toNat_inj.mp same⟩

/-- A chunk that fits is added to the counter without overflow. -/
theorem takeChunk (counted : Counted config session) (write : ChunkWrite) (now : Int)
    (valid : write.chunkIndex < session.totalChunks)
    (fits : countedBytes session write.chunkIndex.toNat + write.dataLength.toNat ≤
      chunkLength session.totalBytes.toNat config.chunkSize.toNat write.chunkIndex.toNat) :
    Counted config (FileTransfer.takeChunk session write now) := by
  have inside : ∀ other ∈ session.tempFile ++ [write],
      other.chunkIndex.toNat < session.totalChunks.toNat :=
    List.forall_mem_append.mpr ⟨counted.inside,
      List.forall_mem_singleton.mpr (UInt32.lt_iff_toNat_lt.mp valid)⟩
  have within : ∀ index < session.totalChunks.toNat,
      countedBytes (FileTransfer.takeChunk session write now) index ≤
        chunkLength session.totalBytes.toNat config.chunkSize.toNat index := by
    intro index bound
    show classWeight _ _ (session.tempFile ++ [write]) index ≤ _
    rw [classWeight_append]
    split
    · rename_i same
      rw [← same]
      exact fits
    · exact counted.within index bound
  have added : ((session.tempFile ++ [write]).map fun write => write.dataLength.toNat).sum =
      session.bytesTransferred.toNat + write.dataLength.toNat := by
    rw [List.map_append, List.sum_append, counted.bytes, List.map_singleton, List.sum_singleton]
  have small : session.bytesTransferred.toNat + write.dataLength.toNat ≤ session.totalBytes.toNat := by
    rw [← added, ← sum_classWeight _ _ session.totalChunks.toNat _ inside]
    exact sum_amount_le within
  exact {
    chunks := counted.chunks
    inside := inside
    bytes := by
      show (session.bytesTransferred + write.dataLength.toUInt64).toNat =
        ((session.tempFile ++ [write]).map fun write => write.dataLength.toNat).sum
      rw [UInt64.toNat_add, UInt32.toNat_toUInt64, added, Nat.mod_eq_of_lt]
      exact Nat.lt_of_le_of_lt small session.totalBytes.toNat_lt
    within := within }

end Counted

/-- The last chunk turns up before the session is verified. -/
theorem takeChunk_whole (whole : WholeUpload session) (write : ChunkWrite) (now : Int)
    (counted : Counted config (takeChunk session write now)) :
    WholeUpload (takeChunk session write now) := by
  intro verified
  by_cases reached : session.totalBytes ≤ session.bytesTransferred + write.dataLength.toUInt64
  · exact counted.written (UInt64.le_iff_toNat_le.mp reached)
  · have same : (takeChunk session write now).status = session.status := if_neg reached
    rw [same] at verified
    intro index valid
    obtain ⟨other, member, found⟩ := whole verified index valid
    exact ⟨other, List.mem_append_left _ member, found⟩

/-- A chunk that is not written changes no count, and it does not verify the session. -/
theorem refuseChunk_whole (counted : Counted config session) (whole : WholeUpload session)
    (chunkIndex : UInt32) :
    Counted config (refuseChunk config session chunkIndex) ∧
      WholeUpload (refuseChunk config session chunkIndex) := by
  unfold refuseChunk
  dsimp only
  split
  · exact ⟨⟨counted.chunks, counted.inside, counted.bytes, counted.within⟩, whole⟩
  · exact ⟨⟨counted.chunks, counted.inside, counted.bytes, counted.within⟩, fun verified => nomatch verified⟩

/-- A call that fits keeps the counts and the upload whole. -/
theorem ftUploadChunk_whole (call : ChunkCall) (counted : Counted config session)
    (whole : WholeUpload session) (fits : FitsChunk config session call) :
    Counted config (ftUploadChunk config session call).2 ∧
      WholeUpload (ftUploadChunk config session call).2 := by
  unfold ftUploadChunk
  split
  · exact ⟨counted, whole⟩
  · split
    · exact ⟨counted, whole⟩
    · split
      · exact ⟨counted, whole⟩
      · split
        · exact ⟨counted, whole⟩
        · rename_i valid
          have bound : call.chunkIndex < session.totalChunks := UInt32.not_le.mp valid
          dsimp only
          split
          · have next (offset : Nat) (bytes : List UInt8) := counted.takeChunk
              ⟨call.chunkIndex, call.dataLength, offset, bytes⟩ call.now bound (fits bound)
            exact ⟨next _ _, takeChunk_whole whole _ call.now (next _ _)⟩
          · exact refuseChunk_whole counted whole call.chunkIndex

/-- In every run whose chunks fit a session is verified only when every chunk was written. -/
theorem uploadMachine_whole (config : UploadConfig) (fileSize : UInt64) (status : TransferStatus)
    (encryptionEnabled compressionEnabled : Bool) (now : Int) (unverified : status ≠ .verifying)
    (calls : List ChunkCall)
    (fits : (uploadMachine config).Along (FitsChunk config)
      (beginUpload config fileSize status encryptionEnabled compressionEnabled now) calls) :
    ∀ visited ∈ (uploadMachine config).states
      (beginUpload config fileSize status encryptionEnabled compressionEnabled now) calls,
      WholeUpload visited := by
  have kept := (uploadMachine config).states_invariant (FitsChunk config)
    (fun session => Counted config session ∧ WholeUpload session)
    (fun session call before fits => ftUploadChunk_whole call before.1 before.2 fits) _ calls
    ⟨beginUpload_counted config fileSize status encryptionEnabled compressionEnabled now,
      fun verified => absurd verified unverified⟩ fits
  exact fun visited member => (kept visited member).2

/-- Every call of the system succeeds for a chunk of four bytes. -/
def fourBytes (chunkIndex : UInt32) : ChunkCall where
  chunkIndex := chunkIndex
  data := some ⟨[1, 2, 3, 4], by decide⟩
  answers := ⟨true, true, true, true, (.success, []), (.success, []), 4⟩
  now := 0

/-- Two chunks of a file of eight bytes in the wrong order. -/
theorem uploadMachine_whole_unordered :
    (((uploadMachine ⟨4, 3⟩).run (beginUpload ⟨4, 3⟩ 8 .preparing false false 0)
      [fourBytes 1, fourBytes 0]).1).status = .verifying ∧
    ∀ visited ∈ (uploadMachine ⟨4, 3⟩).states (beginUpload ⟨4, 3⟩ 8 .preparing false false 0)
      [fourBytes 1, fourBytes 0], WholeUpload visited := by
  constructor
  · decide
  · apply uploadMachine_whole
    · decide
    · refine ⟨?_, ?_, trivial⟩ <;> decide

/-- The first chunk twice counts as the whole file. -/
theorem uploadMachine_repeated_chunk :
    ¬ ∀ (config : UploadConfig) (fileSize : UInt64) (status : TransferStatus)
      (encryptionEnabled compressionEnabled : Bool) (now : Int) (_ : status ≠ .verifying)
      (calls : List ChunkCall),
      ∀ visited ∈ (uploadMachine config).states
        (beginUpload config fileSize status encryptionEnabled compressionEnabled now) calls,
        WholeUpload visited := by
  intro always
  have whole := always ⟨4, 3⟩ 8 .preparing false false 0 (by decide) [fourBytes 0, fourBytes 0] _
    (List.mem_of_getElem? (i := 2) rfl) (by decide) 1 (by decide)
  revert whole
  decide

end SecureChat.FileTransfer
