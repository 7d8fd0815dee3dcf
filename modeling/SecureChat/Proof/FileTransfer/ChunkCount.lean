import SecureChat.Construction.FileTransfer.Transcode
import SecureChat.Proof.FileTransfer.Rebuild

namespace SecureChat.FileTransfer
open Library Finset

/-- The length of the chunk that `ft_read_chunk` reads for an index. -/
def readLength (config : UploadConfig) (session : UploadSession) (index : Nat) : Nat :=
  (readChunkSize config session (UInt32.ofNat index)).toNat

/-- The chunks of a session make up a file of some size. -/
structure ChunksCover (config : UploadConfig) (session : UploadSession) (size : Nat) : Prop where
  count : session.totalChunks.toNat = (size + config.chunkSize.toNat - 1) / config.chunkSize.toNat
  inside : ∀ index < session.totalChunks.toNat, index * config.chunkSize.toNat < size
  last : 0 < session.totalChunks.toNat →
    0 < readLength config session (session.totalChunks.toNat - 1) ∧
      readLength config session (session.totalChunks.toNat - 1) ≤ config.chunkSize.toNat
  whole : ∑ index ∈ range session.totalChunks.toNat, readLength config session index = size
  reads : ∀ source : SourceFile, source.bytes.length = size →
    ∀ index < session.totalChunks.toNat,
      (readBytes config session source (UInt32.ofNat index)).length = readLength config session index

section Session

variable (config : UploadConfig) (session : UploadSession) (size : Nat)

theorem chunkCount_fits_iff (positive : 0 < config.chunkSize.toNat) :
    (size + config.chunkSize.toNat - 1) / config.chunkSize.toNat < 2 ^ 32 ↔
      size ≤ (2 ^ 32 - 1) * config.chunkSize.toNat := by
  rw [Nat.div_lt_iff_lt_mul positive]
  omega

/-- Every index below the number of chunks is the one of a chunk with at least one byte. -/
theorem readLength_eq (positive : 0 < config.chunkSize.toNat) (bytes : session.totalBytes.toNat = size)
    (count : session.totalChunks.toNat = (size + config.chunkSize.toNat - 1) / config.chunkSize.toNat)
    (index : Nat) (valid : index < session.totalChunks.toNat) :
    readLength config session index = chunkLength size config.chunkSize.toNat index := by
  have small := Nat.lt_trans valid session.totalChunks.toNat_lt
  have number : (UInt32.ofNat index).toNat = index := by
    rw [UInt32.toNat_ofNat']
    exact Nat.mod_eq_of_lt small
  have before := (Nat.le_div_iff_mul_le positive).mp (Nat.succ_le_of_lt (count ▸ valid))
  have offset := offset_toNat config (UInt32.ofNat index)
  have lastIndex := decrement32 session.totalChunks (by omega)
  rw [number] at offset
  rw [Nat.succ_mul] at before
  unfold readLength readChunkSize chunkLength
  by_cases last : UInt32.ofNat index = session.totalChunks - 1
  · have place : index + 1 = session.totalChunks.toNat := by
      rw [← last, number] at lastIndex
      omega
    have reached := Nat.lt_div_mul_add positive (a := size + config.chunkSize.toNat - 1)
    rw [← count, ← place, Nat.succ_mul] at reached
    rw [if_pos last, UInt64.toNat_sub_of_le, bytes, offset]
    · omega
    · rw [UInt64.le_iff_toNat_le, bytes, offset]
      omega
  · have later : index + 2 ≤ session.totalChunks.toNat := by
      have different : index ≠ session.totalChunks.toNat - 1 := by
        intro same
        exact last (UInt32.toNat_inj.mp (number.trans (same.trans lastIndex.symm)))
      omega
    rw [count] at later
    have following := (Nat.le_div_iff_mul_le positive).mp later
    rw [Nat.add_mul] at following
    rw [if_neg last, UInt32.toNat_toUInt64]
    omega

/-- A session with the right number of chunks covers its file. -/
theorem chunksCover_of_count (positive : 0 < config.chunkSize.toNat)
    (bytes : session.totalBytes.toNat = size)
    (count : session.totalChunks.toNat = (size + config.chunkSize.toNat - 1) / config.chunkSize.toNat) :
    ChunksCover config session size where
  count := count
  inside := by
    intro index valid
    have before := (Nat.le_div_iff_mul_le positive).mp (Nat.succ_le_of_lt (count ▸ valid))
    rw [Nat.succ_mul] at before
    omega
  last := by
    intro some_chunk
    have valid : session.totalChunks.toNat - 1 < session.totalChunks.toNat := Nat.sub_one_lt_of_lt some_chunk
    rw [readLength_eq config session size positive bytes count _ valid]
    exact ⟨chunkLength_pos _ _ _ (count ▸ valid), Nat.min_le_left _ _⟩
  whole := by
    have reached := Nat.lt_div_mul_add positive (a := size + config.chunkSize.toNat - 1)
    calc ∑ index ∈ range session.totalChunks.toNat, readLength config session index
        = ∑ index ∈ range session.totalChunks.toNat, chunkLength size config.chunkSize.toNat index := by
          apply sum_congr rfl
          intro index member
          exact readLength_eq config session size positive bytes count index (mem_range.mp member)
      _ = min (session.totalChunks.toNat * config.chunkSize.toNat) size := sum_chunkLength _ _ _
      _ = size := by
          rw [count]
          omega
  reads := by
    intro source length index valid
    have small := Nat.lt_trans valid session.totalChunks.toNat_lt
    have number : (UInt32.ofNat index).toNat = index := by
      rw [UInt32.toNat_ofNat']
      exact Nat.mod_eq_of_lt small
    rw [readBytes, List.length_take, List.length_drop, number, length, ← readLength,
      readLength_eq config session size positive bytes count index valid, chunkLength]
    omega

/-- The number of chunks is right exactly when it fits into 32 bits. -/
theorem chunksCover_iff (positive : 0 < config.chunkSize.toNat)
    (bytes : session.totalBytes.toNat = size)
    (count : size ≤ (2 ^ 32 - 1) * config.chunkSize.toNat →
      session.totalChunks.toNat = (size + config.chunkSize.toNat - 1) / config.chunkSize.toNat) :
    ChunksCover config session size ↔ size ≤ (2 ^ 32 - 1) * config.chunkSize.toNat := by
  constructor
  · intro cover
    apply (chunkCount_fits_iff config size positive).mp
    rw [← cover.count]
    exact session.totalChunks.toNat_lt
  · exact fun fits => chunksCover_of_count config session size positive bytes (count fits)

end Session

section Sizes

variable (config : UploadConfig) (session : UploadSession) (source : SourceFile)

theorem ftell_toInt : source.ftell.toInt = source.bytes.length :=
  Int64.toInt_ofNat_of_lt source.fits

/-- The signed calculation is exact as long as the rounding does not leave the `long`. -/
theorem measureSource_totalChunks (positive : 0 < config.chunkSize.toNat)
    (room : source.bytes.length + config.chunkSize.toNat < 2 ^ 63) :
    (measureSource config session source.ftell).totalChunks.toNat =
      (source.bytes.length + config.chunkSize.toNat - 1) / config.chunkSize.toNat % 2 ^ 32 := by
  have chunk : config.chunkSize.toUInt64.toInt64.toInt = config.chunkSize.toNat := by
    have bound := config.chunkSize.toNat_lt
    rw [toInt64_toInt_small] <;> rw [UInt32.toNat_toUInt64]
    omega
  have one : (1 : Int64).toInt = 1 := rfl
  have sum : (source.ftell + config.chunkSize.toUInt64.toInt64 - 1).toInt =
      (source.bytes.length + config.chunkSize.toNat - 1 : Nat) := by
    rw [Int64.toInt_sub, Int64.toInt_add, ftell_toInt, chunk, one,
      Int.bmod_eq_of_le (n := source.bytes.length + config.chunkSize.toNat) (by omega) (by omega),
      Int.bmod_eq_of_le (by omega) (by omega)]
    omega
  have small : (source.bytes.length + config.chunkSize.toNat - 1) / config.chunkSize.toNat < 2 ^ 63 :=
    Nat.lt_of_le_of_lt (Nat.div_le_self _ _) (by omega)
  have quotient : ((source.ftell + config.chunkSize.toUInt64.toInt64 - 1) /
      config.chunkSize.toUInt64.toInt64).toInt =
        ((source.bytes.length + config.chunkSize.toNat - 1) / config.chunkSize.toNat : Nat) := by
    rw [Int64.toInt_div, sum, chunk, ← Int.ofNat_tdiv]
    generalize (source.bytes.length + config.chunkSize.toNat - 1) / config.chunkSize.toNat = count at small
    exact Int.bmod_eq_of_le (by omega) (by omega)
  have word := int64_toUInt64_toNat
    ((source.ftell + config.chunkSize.toUInt64.toInt64 - 1) / config.chunkSize.toUInt64.toInt64)
  rw [quotient] at word
  show (UInt64.toUInt32 _).toNat = _
  rw [UInt64.toNat_toUInt32]
  generalize (source.bytes.length + config.chunkSize.toNat - 1) / config.chunkSize.toNat = count
    at small word ⊢
  omega

theorem measureSource_totalBytes :
    (measureSource config session source.ftell).totalBytes = source.size := by
  apply UInt64.toNat_inj.mp
  have word := int64_toUInt64_toNat source.ftell
  have fits := source.fits
  rw [ftell_toInt] at word
  show source.ftell.toUInt64.toNat = _
  rw [size_toNat]
  omega

/-- A session that `ft_start_upload` has created and prepared is one whose upload begins. -/
theorem ftPrepareUpload_beginUpload (metadataFileSize : Option UInt64)
    (encryptionEnabled compressionEnabled : Bool) (created now : Int)
    (positive : 0 < config.chunkSize.toNat)
    (room : source.bytes.length + config.chunkSize.toNat < 2 ^ 63) :
    ftPrepareUpload config
        (ftCreateSessionFields config metadataFileSize encryptionEnabled compressionEnabled created)
        ⟨true, some source.ftell, now⟩ =
      (.success, beginUpload config source.size .preparing encryptionEnabled compressionEnabled now) := by
  let session := ftCreateSessionFields config metadataFileSize encryptionEnabled compressionEnabled created
  have bytes := measureSource_totalBytes config session source
  have chunks : (measureSource config session source.ftell).totalChunks = totalChunksOf config source.size := by
    apply UInt32.toNat_inj.mp
    have size := size_toNat source
    rw [measureSource_totalChunks config session source positive room,
      totalChunksOf_toNat config source.size (by omega), size]
  rw [beginUpload, ← chunks, ← bytes]
  rfl

end Sizes

section Accepted

variable (config : UploadConfig) (positive : 0 < config.chunkSize.toNat)
  (bounded : config.chunkSize.toNat ≤ 1024 * 1024 * 100)
include positive bounded

theorem ftCreateSessionFields_cover_iff (metadataFileSize : Option UInt64)
    (encryptionEnabled compressionEnabled : Bool) (now : Int) :
    ChunksCover config (ftCreateSessionFields config metadataFileSize encryptionEnabled compressionEnabled now)
        (metadataFileSize.getD 0).toNat ↔
      (metadataFileSize.getD 0).toNat ≤ (2 ^ 32 - 1) * config.chunkSize.toNat := by
  apply chunksCover_iff _ _ _ positive rfl
  intro fits
  have small := (chunkCount_fits_iff config _ positive).mpr fits
  cases metadataFileSize with
  | none =>
      show (0 : UInt32).toNat = ((0 : UInt64).toNat + config.chunkSize.toNat - 1) / config.chunkSize.toNat
      rw [UInt64.toNat_zero, Nat.zero_add, Nat.div_eq_of_lt (Nat.sub_one_lt_of_lt positive)]
      rfl
  | some fileSize =>
      have room : fileSize.toNat + config.chunkSize.toNat ≤ 2 ^ 64 := by
        change fileSize.toNat ≤ _ at fits
        omega
      show (totalChunksOf config fileSize).toNat = _
      rw [totalChunksOf_toNat config fileSize room]
      exact Nat.mod_eq_of_lt small

theorem measureSource_cover_iff (session : UploadSession) (source : SourceFile)
    (bytes : session.totalBytes = (measureSource config session source.ftell).totalBytes)
    (chunks : session.totalChunks = (measureSource config session source.ftell).totalChunks) :
    ChunksCover config session source.bytes.length ↔
      source.bytes.length ≤ (2 ^ 32 - 1) * config.chunkSize.toNat := by
  apply chunksCover_iff _ _ _ positive
  · rw [bytes, measureSource_totalBytes, size_toNat]
  · intro fits
    rw [chunks, measureSource_totalChunks config session source positive (by omega)]
    exact Nat.mod_eq_of_lt ((chunkCount_fits_iff config _ positive).mpr fits)

end Accepted

/-- With settings that are accepted, the chunks of a new session and of a prepared one cover their file
exactly when the number of chunks fits into 32 bits. -/
theorem sessions_cover_iff (config : Config) (accepted : ftValidateConfig config = .success) :
    (∀ (metadataFileSize : Option UInt64) (encryptionEnabled compressionEnabled : Bool) (now : Int),
      ChunksCover config.toUploadConfig (ftCreateSessionFields config.toUploadConfig metadataFileSize
          encryptionEnabled compressionEnabled now) (metadataFileSize.getD 0).toNat ↔
        (metadataFileSize.getD 0).toNat ≤ (2 ^ 32 - 1) * config.chunkSize.toNat) ∧
    (∀ (session : UploadSession) (source : SourceFile) (now : Int),
      ChunksCover config.toUploadConfig (ftPrepareUpload config.toUploadConfig session
          ⟨true, some source.ftell, now⟩).2 source.bytes.length ↔
        source.bytes.length ≤ (2 ^ 32 - 1) * config.chunkSize.toNat) ∧
    ∀ (session : UploadSession) (source : SourceFile) (now : Int),
      ChunksCover config.toUploadConfig (ftPrepareDownload config.toUploadConfig session
          ⟨true, some source.ftell, now⟩).2 source.bytes.length ↔
        source.bytes.length ≤ (2 ^ 32 - 1) * config.chunkSize.toNat := by
  obtain ⟨positive, bounded⟩ := ftValidateConfig_chunkSize config accepted
  refine ⟨ftCreateSessionFields_cover_iff config.toUploadConfig positive bounded, ?_, ?_⟩
  · intro session source now
    exact measureSource_cover_iff config.toUploadConfig positive bounded _ source rfl rfl
  · intro session source now
    exact measureSource_cover_iff config.toUploadConfig positive bounded _ source rfl rfl

/-- A file of seven chunks under the default settings. -/
theorem sessions_cover_iff_default :
    ftValidateConfig defaultConfig = .success ∧
      ChunksCover defaultConfig.toUploadConfig
        (ftCreateSessionFields defaultConfig.toUploadConfig (some 100000) true false 0) 100000 :=
  ⟨by decide, ((sessions_cover_iff defaultConfig (by decide)).1 (some 100000) true false 0).mpr (by decide)⟩

/-- With chunks of one byte a file of 4 GiB has no chunk at all. -/
theorem chunkCount_truncated :
    ¬ ∀ (config : Config) (_ : ftValidateConfig config = .success) (fileSize : UInt64)
      (_ : fileSize ≤ config.maxFileSize) (encryptionEnabled compressionEnabled : Bool) (now : Int),
      ChunksCover config.toUploadConfig (ftCreateSessionFields config.toUploadConfig (some fileSize)
        encryptionEnabled compressionEnabled now) fileSize.toNat := by
  intro always
  have cover := always ⟨⟨1, 3⟩, 30000, 100, true, 10 * 1024 * 1024 * 1024 * 1024⟩ (by decide)
    (2 ^ 32) (by decide) false false 0
  exact absurd cover.count (by decide)

end SecureChat.FileTransfer
