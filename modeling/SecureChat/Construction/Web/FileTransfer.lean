/-
This file holds the chunk messages of the file transfers of the browser client.
-/

import Mathlib.Data.Finset.Insert
import SecureChat.Construction.Web.TextMessages

namespace SecureChat.Web
open Library Library.JsNumber

/-- The transfer identifier of two random parts. A big integer has no width of its own. -/
def generateTransferId (now random : Nat) : Nat := (now <<< 32) ||| random

def maxFileSize : Nat := 1024 * 1024 * 1024
def chunkSizeLimit : Nat := 16 * 1024

/-- The fields of an upload that its chunk messages show. -/
structure FileUpload where
  transferId : Int
  file : List UInt8
  totalChunks : Nat
  deriving DecidableEq

/-- The constructor counts the chunks of the file. -/
def FileUpload.new (transferId : Int) (file : List UInt8) : FileUpload :=
  ⟨transferId, file, (file.length + chunkSizeLimit - 1) / chunkSizeLimit⟩

/-- The digest as the bytes of its hexadecimal text. -/
def FileUpload.calculateChecksum (sha256 : List UInt8 → List UInt8) (data : List UInt8) : List UInt8 :=
  (sha256 data).flatMap fun byte => (hexByte byte).map fun letter => UInt8.ofNat letter.toNat

/-- The bytes of the file that a chunk index stands for. -/
def FileUpload.chunk (upload : FileUpload) (chunkIndex : Nat) : List UInt8 :=
  let start := chunkIndex * chunkSizeLimit
  sliceBytes start (min (start + chunkSizeLimit) upload.file.length) upload.file

/-- The body of a chunk message. The size of a chunk behind the end is negative, which is a range error. -/
def FileUpload.uploadChunk (sha256 : List UInt8 → List UInt8) (upload : FileUpload) (chunkIndex : Nat) :
    Option (List UInt8) :=
  if upload.file.length < chunkIndex * chunkSizeLimit then none else do
  let chunk := upload.chunk chunkIndex
  let chunkSize := chunk.length
  let view := List.replicate (8 + 4 + 4 + 4 + 4 + chunkSize + 64) 0
  let offset := 0
  let view ← setUint 8 offset upload.transferId view
  let offset := offset + 8
  let view ← setUint 4 offset chunkIndex view
  let offset := offset + 4
  let view ← setUint 4 offset chunkSize view
  let offset := offset + 4
  let view ← setUint 4 offset upload.totalChunks view
  let offset := offset + 4
  let view ← setUint 4 offset chunkSize view
  let offset := offset + 4
  let view ← setBytes offset chunk view
  let offset := offset + chunkSize
  setBytes offset ((FileUpload.calculateChecksum sha256 chunk).take 64) view

/-- The packed struct `file_transfer_chunk_t` with the data behind it. -/
structure FileTransferChunk where
  transferId : Nat
  chunkIndex : Nat
  chunkSize : Nat
  totalChunks : Nat
  dataLength : Nat
  data : List UInt8
  deriving DecidableEq

/-- A message as the struct lays it out, in network order. -/
def fileTransferChunk (message : List UInt8) : Option FileTransferChunk := do
  let transferId ← getUint 8 0 message
  let chunkIndex ← getUint 4 8 message
  let chunkSize ← getUint 4 12 message
  let totalChunks ← getUint 4 16 message
  let dataLength ← getUint 4 20 message
  some ⟨transferId, chunkIndex, chunkSize, totalChunks, dataLength, sliceBytes 24 (24 + dataLength) message⟩

/-- The fields of a download that its messages change. -/
structure FileDownload where
  transferId : Int
  fileSize : Nat
  bytesTransferred : Nat
  chunks : Nat → Option (List UInt8)
  receivedChunks : Finset Nat
  totalChunks : Nat

def FileDownload.new (transferId : Int) : FileDownload := ⟨transferId, 0, 0, fun _ => none, ∅, 0⟩

/-- The number of chunks is taken from the first message that tells it. -/
def FileDownload.handleDownloadChunk (download : FileDownload) (chunkIndex : Nat) (data : List UInt8) :
    Option FileDownload := do
  let chunkSize ← getUint 4 12 data
  let totalChunks ← getUint 4 16 data
  let chunkData := sliceBytes 20 (20 + chunkSize) data
  some { download with
    chunks := Function.update download.chunks chunkIndex (some chunkData)
    receivedChunks := insert chunkIndex download.receivedChunks
    bytesTransferred := download.bytesTransferred + chunkSize
    totalChunks := if download.totalChunks = 0 then totalChunks else download.totalChunks }

/-- The size as a big integer. -/
def readFileSize (data : List UInt8) : Option Nat := (getUint 8 8 data).map numberOfBigInt

def readTotalChunks (data : List UInt8) : Option Nat := getUint 4 16 data

/-- Any other status than 200 is an error. -/
def FileDownload.handleDownloadResponse (download : FileDownload) (status : Nat) (data : List UInt8) :
    Option FileDownload := do
  if status ≠ 200 then none else
  let fileSize ← readFileSize data
  let totalChunks ← readTotalChunks data
  some { download with fileSize := fileSize, totalChunks := totalChunks }

/-- The running downloads under their identifiers. -/
abbrev ActiveDownloads := Int → Option FileDownload

namespace FileTransferManager

def readStatus (data : List UInt8) : Option Nat := getUint 4 8 data

/-- The manager reads the identifier and the status, and the download reads the rest. -/
def handleDownloadResponse (active : ActiveDownloads) (data : List UInt8) : Option ActiveDownloads := do
  let transferId ← getUint 8 0 data
  let status ← readStatus data
  match active transferId with
  | none => some active
  | some download =>
      let download ← download.handleDownloadResponse status data
      some (Function.update active transferId (some download))

def handleDownloadChunk (active : ActiveDownloads) (data : List UInt8) : Option ActiveDownloads := do
  let transferId ← getUint 8 0 data
  let chunkIndex ← getUint 4 8 data
  match active transferId with
  | none => some active
  | some download =>
      let download ← download.handleDownloadChunk chunkIndex data
      some (Function.update active transferId (some download))

end FileTransferManager

end SecureChat.Web
