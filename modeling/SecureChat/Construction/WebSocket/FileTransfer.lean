/-
This file keeps the table of file transfers over WebSocket.
-/

import SecureChat.Construction.WebSocket.Session
import SecureChat.Library.Memory

namespace SecureChat.WebSocket
open Library

/-- What a transfer has opened. A writer knows its place in the file. -/
inductive FileHandle where
  | closed
  | reading
  | writing (position : Nat)
  deriving DecidableEq, Repr

/-- The fields of a transfer that some function reads. -/
structure TransferContext where
  transferId : Nat
  clientId : UInt64
  filename : List UInt8
  filepath : List UInt8
  fileSize : UInt64
  bytesTransferred : UInt64
  chunkSize : UInt32
  totalChunks : UInt32
  currentChunk : UInt32
  encryptionKey : Vector UInt8 32
  encrypted : Bool
  upload : Bool
  handle : FileHandle
  deriving DecidableEq

/-- The texts that are sent to a client, by their type and their data. -/
inductive TransferMessage where
  | fileUploadError (filename : List UInt8) (fileSize : UInt64)
  | fileUploadStarted (transferId : Nat) (filename : List UInt8) (fileSize : UInt64)
      (totalChunks chunkSize : UInt32) (encrypted : Bool)
  | fileEncryptionKey (transferId : Nat) (key : Vector UInt8 32)
  | fileUploadComplete (transferId : Nat) (filename : List UInt8) (fileSize : UInt64)
      (fileHash : Option (List UInt8))
  | fileDownloadError (filename : List UInt8)
  | fileDownloadStarted (transferId : Nat) (filename : List UInt8) (fileSize : UInt64)
      (totalChunks chunkSize : UInt32) (encrypted : Bool)
  deriving DecidableEq

inductive TransferOutput where
  | sent (clientId : UInt64) (message : TransferMessage)
  | accepted (transferId : Nat) (chunk : List UInt8)
  | returned (code : Int)
  deriving DecidableEq

/-- The manager, the files by their paths, and the downloads that wait in the thread pool.
The identifiers are taken from a counter of 64 bits, which no server ever exhausts. -/
structure TransferManager where
  transfers : List (Option TransferContext)
  activeTransfers : UInt32
  nextTransferId : Nat
  files : List UInt8 → Option (List UInt8)
  tasks : List Nat
  crashed : Bool

def maxFileSize : UInt64 := 100 * 1024 * 1024

def fileChunkSize : UInt32 := 16384

/-- The table begins empty. The file system may hold anything. -/
def fileTransferManagerInit (maxTransfers : UInt32) (files : List UInt8 → Option (List UInt8)) :
    TransferManager :=
  ⟨List.replicate maxTransfers.toNat none, 0, 1, files, [], false⟩

/-- A text that is cut to a buffer with its terminating zero. -/
def cutText (size : Nat) (text : List UInt8) : List UInt8 := text.take (size - 1)

/-- The key begins anew with every call. -/
def encryptData (data : List UInt8) (key : Vector UInt8 32) : List UInt8 :=
  data.mapIdx fun index byte => byte ^^^ key[index % 32]

def decryptData (data : List UInt8) (key : Vector UInt8 32) : List UInt8 := encryptData data key

def createTransferContext (manager : TransferManager) (clientId : UInt64) (filename : List UInt8)
    (fileSize : UInt64) (upload : Bool) : TransferContext where
  transferId := manager.nextTransferId
  clientId := clientId
  filename := cutText 256 filename
  filepath := []
  fileSize := fileSize
  bytesTransferred := 0
  chunkSize := fileChunkSize
  totalChunks := 0
  currentChunk := 0
  encryptionKey := Vector.replicate 32 0
  encrypted := false
  upload := upload
  handle := .closed

def freeSlot (manager : TransferManager) : Option Nat := manager.transfers.findIdx? Option.isNone

def takeSlot (manager : TransferManager) (slot : Nat) (context : TransferContext) : TransferManager :=
  { manager with
    transfers := manager.transfers.set slot (some context)
    activeTransfers := manager.activeTransfers + 1 }

def releaseSlot (manager : TransferManager) (slot : Nat) : TransferManager :=
  { manager with
    transfers := manager.transfers.set slot none
    activeTransfers := manager.activeTransfers - 1 }

def writeFile (manager : TransferManager) (path content : List UInt8) : TransferManager :=
  { manager with files := fun other => if other = path then some content else manager.files other }

/-- The number of chunks is cut to 32 bits. -/
def chunkTotal (fileSize : UInt64) (chunkSize : UInt32) : UInt32 :=
  ((fileSize + chunkSize.toUInt64 - 1) / chunkSize.toUInt64).toUInt32

/-- The arguments of `handle_file_upload_request`, the random key, and what the system answers. -/
structure UploadRequest where
  clientId : UInt64
  filename : List UInt8
  fileSize : UInt64
  encrypted : Bool
  chunkSize : UInt32
  key : Vector UInt8 32
  callocOk : Bool
  opens : Bool
  deriving DecidableEq

def uploadPath (clientId : UInt64) (filename : List UInt8) : List UInt8 :=
  cutText 512 (asciiBytes "uploads/client_" ++ asciiBytes (toString clientId.toNat) ++ asciiBytes "/" ++
    filename)

/-- The transfer that a request asks for. -/
def uploadContext (manager : TransferManager) (request : UploadRequest) : TransferContext :=
  { createTransferContext manager request.clientId request.filename request.fileSize true with
    encrypted := request.encrypted
    chunkSize := request.chunkSize
    totalChunks := chunkTotal request.fileSize request.chunkSize
    encryptionKey := if request.encrypted then request.key else Vector.replicate 32 0
    filepath := uploadPath request.clientId request.filename
    handle := .writing 0 }

/-- A chunk size of zero is divided by. -/
def handleFileUploadRequest (manager : TransferManager) (request : UploadRequest) :
    TransferManager × List TransferOutput :=
  if maxFileSize < request.fileSize then
    (manager, [.sent request.clientId (.fileUploadError request.filename request.fileSize), .returned (-1)])
  else if !request.callocOk then (manager, [.returned (-1)])
  else if request.chunkSize = 0 then ({ manager with crashed := true }, [])
  else
    let context := uploadContext manager request
    let manager := { manager with nextTransferId := manager.nextTransferId + 1 }
    match freeSlot manager with
    | none => (manager, [.returned (-1)])
    | some slot =>
        let taken := takeSlot manager slot context
        if !request.opens then (releaseSlot taken slot, [.returned (-1)])
        else
          let started := TransferOutput.sent request.clientId (.fileUploadStarted context.transferId
            request.filename request.fileSize context.totalChunks request.chunkSize request.encrypted)
          let keyed := if request.encrypted then
            [TransferOutput.sent request.clientId (.fileEncryptionKey context.transferId context.encryptionKey)]
            else []
          (writeFile taken context.filepath [], started :: keyed ++ [.returned 0])

/-- The arguments of `handle_file_upload_chunk` and what the system answers. -/
structure UploadChunk where
  clientId : UInt64
  transferId : Nat
  chunkIndex : UInt32
  chunkData : { bytes : List UInt8 // bytes.length < 2 ^ 32 }
  mallocOk : Bool
  written : Nat
  hashOpens : Bool
  deriving DecidableEq

def UploadChunk.chunkSize (call : UploadChunk) : UInt32 := UInt32.ofNat call.chunkData.val.length

def ownedBy (call : UploadChunk) : Option TransferContext → Bool
  | none => false
  | some context => context.transferId = call.transferId ∧ context.clientId = call.clientId

def findTransfer (manager : TransferManager) (call : UploadChunk) : Option (Nat × TransferContext) :=
  match manager.transfers.findIdx? (ownedBy call) with
  | none => none
  | some slot => (manager.transfers[slot]?.join).map fun context => (slot, context)

/-- A stream that is opened for reading takes nothing, and a null pointer takes no byte. -/
def fwriteChunk (manager : TransferManager) (context : TransferContext) (data : List UInt8) (written : Nat) :
    Option (Nat × TransferManager × TransferContext) :=
  match context.handle with
  | .closed => if data = [] then some (0, manager, context) else none
  | .reading => some (0, manager, context)
  | .writing position =>
      let bytes := data.take written
      let content := writeAt 0 ((manager.files context.filepath).getD []) position bytes
      some (bytes.length, writeFile manager context.filepath content,
        { context with handle := .writing (position + bytes.length) })

def setTransfer (manager : TransferManager) (slot : Nat) (context : TransferContext) : TransferManager :=
  { manager with transfers := manager.transfers.set slot (some context) }

/-- The end of an upload. Closing a null pointer ends the server. -/
def completeUpload (sha256 : List UInt8 → List UInt8) (manager : TransferManager) (slot : Nat)
    (context : TransferContext) (call : UploadChunk) : TransferManager × List TransferOutput :=
  if context.handle = .closed then ({ manager with crashed := true }, [])
  else
    let fileHash := if call.hashOpens then (manager.files context.filepath).map sha256 else none
    (releaseSlot manager slot, [.sent call.clientId (.fileUploadComplete call.transferId context.filename
      context.fileSize fileHash), .returned 0])

/-- The data of a chunk without its encryption. -/
def plainChunk (context : TransferContext) (call : UploadChunk) : List UInt8 :=
  if context.encrypted then decryptData call.chunkData.val context.encryptionKey else call.chunkData.val

def countChunk (context : TransferContext) (call : UploadChunk) : TransferContext :=
  { context with
    bytesTransferred := context.bytesTransferred + call.chunkSize.toUInt64
    currentChunk := context.currentChunk + 1 }

/-- The chunk is in the file. -/
def acceptChunk (sha256 : List UInt8 → List UInt8) (manager : TransferManager) (slot : Nat)
    (context : TransferContext) (call : UploadChunk) (data : List UInt8) :
    TransferManager × List TransferOutput :=
  let context := countChunk context call
  let manager := setTransfer manager slot context
  let accepted := TransferOutput.accepted context.transferId data
  if context.fileSize ≤ context.bytesTransferred then
    let (manager, outputs) := completeUpload sha256 manager slot context call
    (manager, accepted :: outputs)
  else (manager, [accepted, .returned 0])

def handleFileUploadChunk (sha256 : List UInt8 → List UInt8) (manager : TransferManager)
    (call : UploadChunk) : TransferManager × List TransferOutput :=
  match findTransfer manager call with
  | none => (manager, [.returned (-1)])
  | some (slot, context) =>
      if call.chunkIndex ≠ context.currentChunk then (manager, [.returned (-2)])
      else if !call.mallocOk then (manager, [.returned (-1)])
      else
        match fwriteChunk manager context (plainChunk context call) call.written with
        | none => ({ manager with crashed := true }, [])
        | some (written, manager, context) =>
            if written ≠ (plainChunk context call).length then
              (setTransfer manager slot context, [.returned (-1)])
            else acceptChunk sha256 manager slot context call (plainChunk context call)

/-- The arguments of `handle_file_download_request`, the random key, and what the system answers. -/
structure DownloadRequest where
  clientId : UInt64
  filename : List UInt8
  encrypted : Bool
  key : Vector UInt8 32
  callocOk : Bool
  opens : Bool
  taskAdded : Bool
  deriving DecidableEq

def downloadPath (filename : List UInt8) : List UInt8 := cutText 512 (asciiBytes "uploads/" ++ filename)

def downloadContext (manager : TransferManager) (request : DownloadRequest) (fileSize : UInt64) :
    TransferContext :=
  { createTransferContext manager request.clientId request.filename fileSize false with
    encrypted := request.encrypted
    chunkSize := fileChunkSize
    totalChunks := chunkTotal fileSize fileChunkSize
    encryptionKey := if request.encrypted then request.key else Vector.replicate 32 0
    filepath := downloadPath request.filename
    handle := .reading }

/-- Nobody asks whether the thread pool has taken the task. -/
def handleFileDownloadRequest (manager : TransferManager) (request : DownloadRequest) :
    TransferManager × List TransferOutput :=
  match manager.files (downloadPath request.filename) with
  | none => (manager, [.sent request.clientId (.fileDownloadError request.filename), .returned (-1)])
  | some content =>
      if !request.callocOk then (manager, [.returned (-1)])
      else
        let fileSize := UInt64.ofNat content.length
        let context := downloadContext manager request fileSize
        let manager := { manager with nextTransferId := manager.nextTransferId + 1 }
        if !request.opens then (manager, [.returned (-1)])
        else
          match freeSlot manager with
          | none => (manager, [.returned (-1)])
          | some slot =>
              let taken := takeSlot manager slot context
              let started := TransferOutput.sent request.clientId (.fileDownloadStarted context.transferId
                request.filename fileSize context.totalChunks fileChunkSize request.encrypted)
              let keyed := if request.encrypted then
                [TransferOutput.sent request.clientId
                  (.fileEncryptionKey context.transferId context.encryptionKey)]
                else []
              let tasks := if request.taskAdded then taken.tasks ++ [context.transferId] else taken.tasks
              ({ taken with tasks := tasks }, started :: keyed ++ [.returned 0])

def heldBy (transferId : Nat) : Option TransferContext → Bool
  | none => false
  | some context => context.transferId = transferId

/-- The thread pool is done with a task. -/
def forgetTask (manager : TransferManager) (transferId : Nat) : TransferManager :=
  { manager with tasks := manager.tasks.filter (· ≠ transferId) }

/-- The whole file was read, and it is closed. -/
def finishDownload (manager : TransferManager) (context : TransferContext) : TransferContext :=
  { context with
    bytesTransferred := context.bytesTransferred +
      UInt64.ofNat ((manager.files context.filepath).getD []).length
    handle := .closed }

/-- The task reads the file to its end and closes it. The transfer stays in its slot.
A task whose transfer was freed meanwhile uses freed memory. -/
def processFileDownload (manager : TransferManager) (transferId : Nat) :
    TransferManager × List TransferOutput :=
  if transferId ∉ manager.tasks then (manager, [])
  else
    let manager := forgetTask manager transferId
    match manager.transfers.findIdx? (heldBy transferId) with
    | none => ({ manager with crashed := true }, [])
    | some slot =>
        match manager.transfers[slot]?.join with
        | none => (manager, [])
        | some context => (setTransfer manager slot (finishDownload manager context), [])

inductive TransferInput where
  | uploadRequest (request : UploadRequest)
  | uploadChunk (call : UploadChunk)
  | downloadRequest (request : DownloadRequest)
  | downloadTask (transferId : Nat)
  deriving DecidableEq

def transferStep (sha256 : List UInt8 → List UInt8) (manager : TransferManager) :
    TransferInput → TransferManager × List TransferOutput
  | .uploadRequest request => handleFileUploadRequest manager request
  | .uploadChunk call => handleFileUploadChunk sha256 manager call
  | .downloadRequest request => handleFileDownloadRequest manager request
  | .downloadTask transferId => processFileDownload manager transferId

/-- The manager handles one call after the other, until the server crashes. -/
def transferMachine (sha256 : List UInt8 → List UInt8) :
    Machine TransferManager TransferInput TransferOutput where
  step manager input := if manager.crashed then (manager, []) else transferStep sha256 manager input

end SecureChat.WebSocket
