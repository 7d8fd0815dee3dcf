/-
This file takes the chunks of an upload.
-/

import Mathlib.Algebra.Group.Nat.Defs
import SecureChat.Construction.FileTransfer.Registry

namespace SecureChat.FileTransfer
open Library

inductive TransferStatus where
  | pending
  | preparing
  | transferring
  | paused
  | completed
  | failed
  | cancelled
  | verifying
  | cleanup
  deriving DecidableEq, Repr

/-- The settings of the manager that uploads use. -/
structure UploadConfig where
  chunkSize : UInt32
  maxRetries : UInt32
  deriving DecidableEq, Repr

/-- A chunk that `ft_write_chunk` has put into the temporary file.
The length is the one of the received data, and the bytes are those behind decryption. -/
structure ChunkWrite where
  chunkIndex : UInt32
  dataLength : UInt32
  offset : Nat
  bytes : List UInt8
  deriving DecidableEq, Repr

/-- The fields of a session that an upload uses, and what the temporary file has got. -/
structure UploadSession where
  status : TransferStatus
  encryptionEnabled : Bool
  compressionEnabled : Bool
  currentChunk : UInt32
  totalChunks : UInt32
  bytesTransferred : UInt64
  totalBytes : UInt64
  retryCount : UInt32
  errorChunks : List UInt32
  lastActivityTime : Int
  tempFile : List ChunkWrite
  deriving DecidableEq, Repr

/-- The array of failed chunks has this many places. -/
def errorChunkPlaces : Nat := 3 * 10

/-- The number of chunks is cut to 32 bits. -/
def totalChunksOf (config : UploadConfig) (fileSize : UInt64) : UInt32 :=
  ((fileSize + config.chunkSize.toUInt64 - 1) / config.chunkSize.toUInt64).toUInt32

/-- A session whose upload begins. -/
def beginUpload (config : UploadConfig) (fileSize : UInt64) (status : TransferStatus)
    (encryptionEnabled compressionEnabled : Bool) (now : Int) : UploadSession where
  status := status
  encryptionEnabled := encryptionEnabled
  compressionEnabled := compressionEnabled
  currentChunk := 0
  totalChunks := totalChunksOf config fileSize
  bytesTransferred := 0
  totalBytes := fileSize
  retryCount := 0
  errorChunks := []
  lastActivityTime := now
  tempFile := []

/-- What the system answers while a chunk is written. The counter is the result of `fwrite`. -/
structure WriteAnswers where
  opens : Bool
  creates : Bool
  seeks : Bool
  mallocOk : Bool
  decrypts : ErrorCode × List UInt8
  decompresses : ErrorCode × List UInt8
  bytesWritten : Nat
  deriving DecidableEq, Repr

/-- The arguments of `ft_upload_chunk`. The data may be a null pointer. -/
structure ChunkCall where
  chunkIndex : UInt32
  data : Option { bytes : List UInt8 // bytes.length < 2 ^ 32 }
  answers : WriteAnswers
  now : Int
  deriving DecidableEq

def ChunkCall.dataLength (call : ChunkCall) : UInt32 :=
  match call.data with
  | none => 0
  | some data => UInt32.ofNat data.val.length

/-- Decryption takes precedence over decompression. -/
def processChunk (session : UploadSession) (data : List UInt8) (answers : WriteAnswers) :
    ErrorCode × List UInt8 :=
  if session.encryptionEnabled then
    if !answers.mallocOk then (.memory, []) else answers.decrypts
  else if session.compressionEnabled then
    if !answers.mallocOk then (.memory, []) else answers.decompresses
  else (.success, data)

/-- The result and the bytes at their place, if all of them were written. -/
def ftWriteChunk (config : UploadConfig) (session : UploadSession) (chunkIndex : UInt32)
    (data : List UInt8) (answers : WriteAnswers) : ErrorCode × Nat × List UInt8 :=
  let offset := chunkIndex.toNat * config.chunkSize.toNat
  if !answers.opens && !answers.creates then (.io, offset, [])
  else if !answers.seeks then (.io, offset, [])
  else
    let (result, processed) := processChunk session data answers
    if result ≠ .success then (result, offset, [])
    else if answers.bytesWritten ≠ processed.length then (.io, offset, [])
    else (.success, offset, processed)

/-- A chunk counts with the length of the received data, whatever its index is. -/
def takeChunk (session : UploadSession) (write : ChunkWrite) (now : Int) : UploadSession :=
  let bytesTransferred := session.bytesTransferred + write.dataLength.toUInt64
  { session with
    bytesTransferred := bytesTransferred
    currentChunk := write.chunkIndex + 1
    status := if session.totalBytes ≤ bytesTransferred then .verifying else session.status
    lastActivityTime := now
    tempFile := session.tempFile ++ [write] }

/-- A failed chunk is noted as long as there is a place, and the upload fails after the last retry. -/
def refuseChunk (config : UploadConfig) (session : UploadSession) (chunkIndex : UInt32) : UploadSession :=
  let errorChunks := if session.errorChunks.length < errorChunkPlaces then
    session.errorChunks ++ [chunkIndex] else session.errorChunks
  if session.retryCount < config.maxRetries then
    { session with errorChunks := errorChunks, retryCount := session.retryCount + 1 }
  else { session with errorChunks := errorChunks, status := .failed }

def ftUploadChunk (config : UploadConfig) (session : UploadSession) (call : ChunkCall) :
    ErrorCode × UploadSession :=
  match call.data with
  | none => (.invalidParams, session)
  | some data =>
      if call.dataLength = 0 then (.invalidParams, session)
      else if session.status ≠ .transferring ∧ session.status ≠ .preparing then (.invalidState, session)
      else if session.totalChunks ≤ call.chunkIndex then (.invalidChunk, session)
      else
        let (result, offset, bytes) := ftWriteChunk config session call.chunkIndex data.val call.answers
        if result = .success then
          (.success, takeChunk session ⟨call.chunkIndex, call.dataLength, offset, bytes⟩ call.now)
        else (result, refuseChunk config session call.chunkIndex)

/-- One session that gets chunk after chunk. -/
def uploadMachine (config : UploadConfig) : Machine UploadSession ChunkCall ErrorCode where
  step session call :=
    ((ftUploadChunk config session call).2, [(ftUploadChunk config session call).1])

end SecureChat.FileTransfer
