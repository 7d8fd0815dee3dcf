/-
This file creates and prepares the sessions of transfers,
and it reads the chunks of a file and writes them into another one.
-/

import SecureChat.Construction.FileTransfer.Upload
import SecureChat.Library.Memory

namespace SecureChat.FileTransfer
open Library

/-- The settings that `ft_validate_config` checks. -/
structure Config extends UploadConfig where
  timeoutMs : UInt32
  maxConcurrentTransfers : UInt32
  verifyChecksum : Bool
  maxFileSize : UInt64
  deriving DecidableEq, Repr

def ftValidateConfig (config : Config) : ErrorCode :=
  if config.chunkSize = 0 ∨ 1024 * 1024 * 100 < config.chunkSize then .invalidParams
  else if 10 < config.maxRetries then .invalidParams
  else if config.timeoutMs = 0 ∨ 300000 < config.timeoutMs then .invalidParams
  else if config.maxConcurrentTransfers = 0 ∨ 1000 < config.maxConcurrentTransfers then .invalidParams
  else if config.maxFileSize = 0 ∨ 10 * 1024 * 1024 * 1024 * 1024 < config.maxFileSize then .invalidParams
  else .success

/-- AES-256-CBC of OpenSSL and the streams of zlib.
Encryption takes its length as an `int`, so it may refuse a text. -/
structure Primitives where
  aesEncrypt : List UInt8 → List UInt8 → List UInt8 → Option (List UInt8)
  aesDecrypt : List UInt8 → List UInt8 → List UInt8 → Option (List UInt8)
  deflate : Int → List UInt8 → List UInt8
  inflate : List UInt8 → Option (List UInt8)

/-- The key and the initialisation vector of a session. -/
structure TransferKey where
  encryptionKey : List UInt8
  encryptionIv : List UInt8
  deriving DecidableEq, Repr

/-- A file whose size is a `long`. -/
structure SourceFile where
  bytes : List UInt8
  fits : bytes.length < 2 ^ 63

def SourceFile.size (source : SourceFile) : UInt64 := UInt64.ofNat source.bytes.length

/-- The compression level that every session gets. -/
def compressionLevel : Int := 6

variable (primitives : Primitives) (key : TransferKey)

def ftEncryptData (plaintext : List UInt8) : ErrorCode × List UInt8 :=
  match primitives.aesEncrypt key.encryptionKey key.encryptionIv plaintext with
  | none => (.encryption, [])
  | some ciphertext => (.success, ciphertext)

/-- The output must fit into the space that the length parameter announces. -/
def ftCompressChunk (data : List UInt8) (compressedLen : UInt32) (level : Int) : ErrorCode × List UInt8 :=
  if (primitives.deflate level data).length ≤ compressedLen.toNat then
    (.success, primitives.deflate level data)
  else (.compression, [])

/-- What the system answers while a chunk is read. -/
structure ReadAnswers where
  opens : Bool
  seeks : Bool
  mallocOk : Bool
  reads : Bool
  outputMallocOk : Bool
  deriving DecidableEq, Repr

/-- The last chunk reaches up to the end of the file. -/
def readChunkSize (config : UploadConfig) (session : UploadSession) (chunkIndex : UInt32) : UInt64 :=
  if chunkIndex = session.totalChunks - 1 then
    session.totalBytes - chunkIndex.toUInt64 * config.chunkSize.toUInt64
  else config.chunkSize.toUInt64

/-- Encryption takes precedence over compression. All lengths are cut to 32 bits on the way. -/
def packChunk (session : UploadSession) (chunk : List UInt8) (answers : ReadAnswers) :
    ErrorCode × List UInt8 :=
  let processedLength := UInt32.ofNat chunk.length
  if session.encryptionEnabled then
    if !answers.outputMallocOk then (.memory, [])
    else ftEncryptData primitives key (chunk.take processedLength.toNat)
  else if session.compressionEnabled then
    if !answers.outputMallocOk then (.memory, [])
    else ftCompressChunk primitives (chunk.take processedLength.toNat) processedLength compressionLevel
  else (.success, chunk.take processedLength.toNat)

/-- The data goes to the temporary file of the reading session as well, whose content nothing here uses. -/
def ftReadChunk (config : UploadConfig) (session : UploadSession) (source : SourceFile)
    (chunkIndex : UInt32) (answers : ReadAnswers) : ErrorCode × List UInt8 :=
  let offset := chunkIndex.toUInt64 * config.chunkSize.toUInt64
  let chunkSize := readChunkSize config session chunkIndex
  if !answers.opens then (.fileNotFound, [])
  else if !answers.seeks then (.io, [])
  else if !answers.mallocOk then (.memory, [])
  else
    let chunk := (source.bytes.drop offset.toNat).take chunkSize.toNat
    if !answers.reads ∨ chunk.length ≠ chunkSize.toNat then (.io, [])
    else packChunk primitives key session chunk answers

end SecureChat.FileTransfer

namespace SecureChat.FileTransfer
open Library

/-- The fields that `ft_create_session` sets. Without metadata the size stays zero. -/
def ftCreateSessionFields (config : UploadConfig) (metadataFileSize : Option UInt64)
    (encryptionEnabled compressionEnabled : Bool) (now : Int) : UploadSession where
  status := .pending
  encryptionEnabled := encryptionEnabled
  compressionEnabled := compressionEnabled
  currentChunk := 0
  totalChunks := (metadataFileSize.map (totalChunksOf config)).getD 0
  bytesTransferred := 0
  totalBytes := metadataFileSize.getD 0
  retryCount := 0
  errorChunks := []
  lastActivityTime := now
  tempFile := []

/-- What the system answers while a session is prepared.
The file size is the result of `ftell`, and it is absent when the source file does not open. -/
structure PrepareAnswers where
  tempOpens : Bool
  fileSize : Option Int64
  now : Int
  deriving DecidableEq

/-- What `ftell` answers at the end of a file. -/
def SourceFile.ftell (source : SourceFile) : Int64 := Int64.ofNat source.bytes.length

/-- The size of a file is a `long`, and the calculation is one of this type. -/
def measureSource (config : UploadConfig) (session : UploadSession) (fileSize : Int64) : UploadSession :=
  let chunkSize := config.chunkSize.toUInt64.toInt64
  { session with
    totalBytes := fileSize.toUInt64
    totalChunks := ((fileSize + chunkSize - 1) / chunkSize).toUInt64.toUInt32 }

/-- The temporary file is made before the source file is opened. -/
def ftPrepareUpload (config : UploadConfig) (session : UploadSession) (answers : PrepareAnswers) :
    ErrorCode × UploadSession :=
  if !answers.tempOpens then (.io, session)
  else
    let session := { session with tempFile := [] }
    match answers.fileSize with
    | none => (.fileNotFound, session)
    | some fileSize =>
        (.success, { measureSource config session fileSize with
          status := .preparing
          lastActivityTime := answers.now })

/-- The temporary file is made at the end. -/
def ftPrepareDownload (config : UploadConfig) (session : UploadSession) (answers : PrepareAnswers) :
    ErrorCode × UploadSession :=
  match answers.fileSize with
  | none => (.fileNotFound, session)
  | some fileSize =>
      let session := measureSource config session fileSize
      if !answers.tempOpens then (.io, session)
      else
        (.success, { session with
          status := .preparing
          lastActivityTime := answers.now
          tempFile := [] })

end SecureChat.FileTransfer
