import Mathlib.Data.FinEnum
import SecureChat.Library.MachineInt
import SecureChat.Proof.FileTransfer.Upload
import SecureChat.Construction.FileTransfer.Transcode
import SecureChat.Library.Chunks

namespace SecureChat.FileTransfer
open Library

section Chunk

variable (primitives : Primitives) (key : TransferKey) (config : UploadConfig) (session : UploadSession)
  (source : SourceFile)

/-- What `ft_read_chunk` reads for an index. -/
def readBytes (index : UInt32) : List UInt8 :=
  (source.bytes.drop (index.toNat * config.chunkSize.toNat)).take (readChunkSize config session index).toNat

/-- What is left of it after its length was cut to 32 bits. -/
def cutBytes (index : UInt32) : List UInt8 :=
  (readBytes config session source index).take (UInt32.ofNat (readBytes config session source index).length).toNat

/-- The chunk has its full length, and it fits into the space that it gets on both sides. -/
def Passes (index : UInt32) : Prop :=
  (readBytes config session source index).length = (readChunkSize config session index).toNat ∧
    if session.encryptionEnabled then
      (primitives.aesEncrypt key.encryptionKey key.encryptionIv
        (cutBytes config session source index)).isSome = true
    else session.compressionEnabled = true →
      (primitives.deflate compressionLevel (cutBytes config session source index)).length =
        (cutBytes config session source index).length

instance (index : UInt32) : Decidable (Passes primitives key config session source index) := by
  unfold Passes
  infer_instance

theorem offset_toNat (index : UInt32) :
    (index.toUInt64 * config.chunkSize.toUInt64).toNat = index.toNat * config.chunkSize.toNat := by
  rw [UInt64.toNat_mul, UInt32.toNat_toUInt64, UInt32.toNat_toUInt64]
  apply Nat.mod_eq_of_lt
  calc index.toNat * config.chunkSize.toNat < 2 ^ 32 * 2 ^ 32 :=
        Nat.mul_lt_mul'' index.toNat_lt config.chunkSize.toNat_lt
    _ = 2 ^ 64 := rfl

end Chunk

section Whole

variable (config : UploadConfig) (source : SourceFile) (encryptionEnabled compressionEnabled : Bool)

theorem size_toNat : source.size.toNat = source.bytes.length := by
  rw [SourceFile.size, UInt64.toNat_ofNat']
  exact Nat.mod_eq_of_lt (Nat.lt_trans source.fits (by decide))

/-- The sizes that the configuration accepts. -/
theorem ftValidateConfig_chunkSize (config : Config) (accepted : ftValidateConfig config = .success) :
    0 < config.chunkSize.toNat ∧ config.chunkSize.toNat ≤ 1024 * 1024 * 100 := by
  unfold ftValidateConfig at accepted
  split at accepted
  · cases accepted
  · rename_i inside
    rw [not_or] at inside
    constructor
    · apply Nat.pos_of_ne_zero
      intro zero
      exact inside.1 (UInt32.toNat_inj.mp zero)
    · exact UInt32.le_iff_toNat_le.mp (UInt32.not_lt.mp inside.2)

end Whole

/-- Simple primitives. The stream for the letter a is the one of zlib. -/
def simplePrimitives : Primitives where
  aesEncrypt _ _ text := some (text ++ [0])
  aesDecrypt _ _ cipher := some cipher.dropLast
  deflate _ data := if data = [0x61] then [0x78, 0x9c, 0x4b, 0x04, 0, 0, 0x62, 0, 0x62] else 0 :: data
  inflate stream := if stream = [0x78, 0x9c, 0x4b, 0x04, 0, 0, 0x62, 0, 0x62] then some [0x61] else some stream.tail

/-- The settings of `DEFAULT_FT_CONFIG`. -/
def defaultConfig : Config :=
  ⟨⟨16384, 3⟩, 30000, 100, true, 100 * 1024 * 1024⟩

end SecureChat.FileTransfer
