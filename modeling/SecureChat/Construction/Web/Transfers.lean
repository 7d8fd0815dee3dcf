/-
This file holds the file transfers of the browser client: the two queues of the manager,
and one upload and one download from the call of `start` on. Each event is handled with all
continuations that it sets free.
-/

import SecureChat.Library.Machine
import SecureChat.Construction.Web.FileTransfer
import Mathlib.Data.Finset.Card

namespace SecureChat.Web
open Library

/-- A transfer object. Two objects may have the same identifier, so each has a serial number as well. -/
structure Transfer where
  serial : Nat
  transferId : Int
  deriving DecidableEq, Repr

/-- One queue with its map of active transfers, which is keyed by the identifiers.
A transfer runs from the call of its `start` until the promise of this call settles. -/
structure TransferQueue where
  waiting : List Transfer
  active : List Transfer
  running : List Transfer
  started : List Nat
  deriving DecidableEq, Repr

def maxConcurrentUploads : Nat := 3
def maxConcurrentDownloads : Nat := 3

/-- An entry with the same identifier is replaced in its place. -/
def setActive (active : List Transfer) (transfer : Transfer) : List Transfer :=
  if transfer.transferId ∈ active.map Transfer.transferId then
    active.map fun entry => if entry.transferId = transfer.transferId then transfer else entry
  else active ++ [transfer]

def deleteActive (active : List Transfer) (transferId : Int) : List Transfer :=
  active.filter fun entry => entry.transferId ≠ transferId

namespace TransferQueue

def empty : TransferQueue := ⟨[], [], [], []⟩

/-- The loop starts waiting transfers as long as the map has fewer entries than the limit. -/
def processQueue (limit : Nat) : List Transfer → List Transfer → List Transfer → List Nat → TransferQueue
  | [], active, running, started => ⟨[], active, running, started⟩
  | transfer :: waiting, active, running, started =>
      if active.length < limit then
        processQueue limit waiting (setActive active transfer) (running ++ [transfer]) (started ++ [transfer.serial])
      else ⟨transfer :: waiting, active, running, started⟩

def enqueue (limit : Nat) (queue : TransferQueue) (transfer : Transfer) : TransferQueue :=
  processQueue limit (queue.waiting ++ [transfer]) queue.active queue.running queue.started

/-- A transfer that has completed and one that has failed are treated alike. -/
def settle (limit : Nat) (queue : TransferQueue) (serial : Nat) : TransferQueue :=
  match queue.running.find? fun transfer => transfer.serial = serial with
  | none => queue
  | some transfer =>
      processQueue limit queue.waiting (deleteActive queue.active transfer.transferId)
        (queue.running.erase transfer) queue.started

def isActive (queue : TransferQueue) (transferId : Int) : Bool :=
  transferId ∈ queue.active.map Transfer.transferId

/-- The entry goes, while the call of `start` goes on until it sees the cancellation. -/
def cancelActive (queue : TransferQueue) (transferId : Int) : TransferQueue :=
  { queue with active := deleteActive queue.active transferId }

def isWaiting (queue : TransferQueue) (transferId : Int) : Bool :=
  transferId ∈ queue.waiting.map Transfer.transferId

def cancelWaiting (queue : TransferQueue) (transferId : Int) : TransferQueue :=
  { queue with waiting := queue.waiting.eraseP fun transfer => transfer.transferId = transferId }

end TransferQueue

structure TransferQueues where
  uploads : TransferQueue
  downloads : TransferQueue
  nextSerial : Nat
  deriving DecidableEq, Repr

/-- The identifier of a new transfer is made of the time and of a random number. -/
inductive TransferEvent where
  | uploadFile (size : Nat) (transferId : Int)
  | downloadFile (transferId : Int)
  | uploadSettled (serial : Nat)
  | downloadSettled (serial : Nat)
  | cancelTransfer (transferId : Int)
  deriving DecidableEq, Repr

/-- What a call returns to its caller. -/
inductive TransferResult where
  | queued (transferId : Int)
  | tooLarge
  | cancelled (found : Bool)
  deriving DecidableEq, Repr

namespace TransferQueues

def new : TransferQueues := ⟨.empty, .empty, 0⟩

def uploadFile (queues : TransferQueues) (size : Nat) (transferId : Int) : TransferQueues × TransferResult :=
  if maxFileSize < size then (queues, .tooLarge)
  else ({ queues with
    uploads := queues.uploads.enqueue maxConcurrentUploads ⟨queues.nextSerial, transferId⟩
    nextSerial := queues.nextSerial + 1 }, .queued transferId)

def downloadFile (queues : TransferQueues) (transferId : Int) : TransferQueues × TransferResult :=
  ({ queues with
    downloads := queues.downloads.enqueue maxConcurrentDownloads ⟨queues.nextSerial, transferId⟩
    nextSerial := queues.nextSerial + 1 }, .queued transferId)

/-- Active transfers are looked for before waiting ones. No queue is processed. -/
def cancelTransfer (queues : TransferQueues) (transferId : Int) : TransferQueues × TransferResult :=
  if queues.uploads.isActive transferId then
    ({ queues with uploads := queues.uploads.cancelActive transferId }, .cancelled true)
  else if queues.downloads.isActive transferId then
    ({ queues with downloads := queues.downloads.cancelActive transferId }, .cancelled true)
  else if queues.uploads.isWaiting transferId then
    ({ queues with uploads := queues.uploads.cancelWaiting transferId }, .cancelled true)
  else if queues.downloads.isWaiting transferId then
    ({ queues with downloads := queues.downloads.cancelWaiting transferId }, .cancelled true)
  else (queues, .cancelled false)

def handle (queues : TransferQueues) : TransferEvent → TransferQueues × List TransferResult
  | .uploadFile size transferId => ((queues.uploadFile size transferId).1, [(queues.uploadFile size transferId).2])
  | .downloadFile transferId => ((queues.downloadFile transferId).1, [(queues.downloadFile transferId).2])
  | .uploadSettled serial =>
      ({ queues with uploads := queues.uploads.settle maxConcurrentUploads serial }, [])
  | .downloadSettled serial =>
      ({ queues with downloads := queues.downloads.settle maxConcurrentDownloads serial }, [])
  | .cancelTransfer transferId => ((queues.cancelTransfer transferId).1, [(queues.cancelTransfer transferId).2])

end TransferQueues

def transferQueuesMachine : Machine TransferQueues TransferEvent TransferResult := ⟨TransferQueues.handle⟩

inductive FileTransferStatus where
  | pending | preparing | transferring | paused | completed | failed | cancelled
  deriving DecidableEq, Repr

/-- What the call of `start` waits for: the answer to the request, or the last chunk. -/
inductive DownloadStage where
  | requesting | waiting | settled
  deriving DecidableEq, Repr

structure DownloadTask extends FileDownload where
  fileId : Nat
  targetPath : Option String
  status : FileTransferStatus
  stage : DownloadStage

inductive DownloadEvent where
  | requestSettled (answer : Except String Unit)
  | checkInterval
  | timeout
  | response (status : Nat) (data : List UInt8)
  | chunk (chunkIndex : Nat) (data : List UInt8)
  | pause
  | resume
  | cancel

/-- The file that is saved, or the error that `start` throws. -/
inductive DownloadOutput where
  | saved (name : String) (data : List UInt8)
  | thrown (error : String)
  deriving DecidableEq, Repr

namespace DownloadTask

def start (transferId : Int) (fileId : Nat) (targetPath : Option String) : DownloadTask :=
  { FileDownload.new transferId with
    fileId := fileId, targetPath := targetPath, status := .preparing, stage := .requesting }

def fail (task : DownloadTask) (error : String) : DownloadTask × List DownloadOutput :=
  ({ task with status := .failed, stage := .settled }, [.thrown error])

def presentChunk (task : DownloadTask) (i : Nat) : Except String (List UInt8) :=
  match task.chunks i with
  | none => .error s!"Missing chunk {i}"
  | some chunk => .ok chunk

/-- The chunks in the order of their indices. -/
def assembleFile (task : DownloadTask) : Except String (List UInt8) :=
  ((List.range task.totalChunks).mapM task.presentChunk).map List.flatten

/-- No target path, or an empty one, saves nothing. -/
def saveFile (task : DownloadTask) (data : List UInt8) : List DownloadOutput :=
  if task.targetPath.any (· ≠ "") then [.saved s!"downloaded_file_{task.fileId}" data] else []

/-- The number of received indices is all that is looked at. -/
def complete (task : DownloadTask) : Bool := task.receivedChunks.card = task.totalChunks ∧ task.totalChunks > 0

/-- The steps of `start` behind the wait. -/
def finish (task : DownloadTask) : DownloadTask × List DownloadOutput :=
  match task.assembleFile with
  | .error error => task.fail error
  | .ok data => ({ task with status := .completed, stage := .settled }, task.saveFile data)

/-- An error in a handler of a message leaves the download as it is. -/
def handle (task : DownloadTask) : DownloadEvent → DownloadTask × List DownloadOutput
  | .requestSettled answer =>
      if task.stage = .requesting then
        match answer with
        | .error error => task.fail error
        | .ok () => ({ task with status := .transferring, stage := .waiting }, [])
      else (task, [])
  | .checkInterval => if task.stage = .waiting ∧ task.complete = true then task.finish else (task, [])
  | .timeout => if task.stage = .waiting then task.fail "Download timeout" else (task, [])
  | .response status data =>
      match task.toFileDownload.handleDownloadResponse status data with
      | none => (task, [])
      | some download => ({ task with toFileDownload := download }, [])
  | .chunk chunkIndex data =>
      match task.toFileDownload.handleDownloadChunk chunkIndex data with
      | none => (task, [])
      | some download => ({ task with toFileDownload := download }, [])
  | .pause => ({ task with status := .paused }, [])
  | .resume => ({ task with status := .transferring }, [])
  | .cancel => ({ task with status := .cancelled }, [])

end DownloadTask

/-- What the call of `start` waits for. A paused upload waits for a timer in front of a chunk. -/
inductive UploadStage where
  | metadata
  | pausedAt (chunkIndex : Nat)
  | chunk (chunkIndex : Nat)
  | completion
  | settled
  deriving DecidableEq, Repr

structure UploadTask extends FileUpload where
  currentChunk : Nat
  bytesTransferred : Nat
  status : FileTransferStatus
  paused : Bool
  cancelled : Bool
  retryCount : Nat
  stage : UploadStage
  deriving DecidableEq

inductive UploadEvent where
  | settled (answer : Except String Unit)
  | timer
  | uploadResponse (status : Nat)
  | chunkResponse (chunkIndex : Nat) (status : Nat)
  | pause
  | resume
  | cancel

/-- A chunk that is sent once more, or an error that is thrown. -/
inductive UploadOutput where
  | retried (chunkIndex : Nat)
  | thrown (error : String)
  deriving DecidableEq, Repr

namespace UploadTask

def start (transferId : Int) (file : List UInt8) : UploadTask :=
  { FileUpload.new transferId file with
    currentChunk := 0, bytesTransferred := 0, status := .preparing, paused := false, cancelled := false,
    retryCount := 0, stage := .metadata }

def fail (task : UploadTask) (error : String) : UploadTask × List UploadOutput :=
  ({ task with status := .failed, stage := .settled }, [.thrown error])

/-- The loop in front of a chunk. The cancellation is looked at before the pause. -/
def uploadChunks (task : UploadTask) (chunkIndex : Nat) : UploadTask × List UploadOutput :=
  if chunkIndex < task.totalChunks then
    if task.cancelled then task.fail "Upload cancelled"
    else if task.paused then ({ task with stage := .pausedAt chunkIndex }, [])
    else ({ task with stage := .chunk chunkIndex }, [])
  else ({ task with stage := .completion }, [])

/-- The chunk was sent. -/
def advance (task : UploadTask) (chunkIndex : Nat) : UploadTask :=
  { task with
    currentChunk := chunkIndex + 1
    bytesTransferred := min task.file.length ((chunkIndex + 1) * chunkSizeLimit) }

def resumeStart (task : UploadTask) : UploadTask × List UploadOutput :=
  match task.stage with
  | .metadata => { task with status := .transferring }.uploadChunks 0
  | .chunk chunkIndex => (task.advance chunkIndex).uploadChunks (chunkIndex + 1)
  | .completion => ({ task with status := .completed, stage := .settled }, [])
  | .pausedAt _ => (task, [])
  | .settled => (task, [])

/-- A message is awaited in these stages. -/
def awaiting (task : UploadTask) : Bool :=
  match task.stage with
  | .metadata => true
  | .chunk _ => true
  | .completion => true
  | .pausedAt _ => false
  | .settled => false

def handle (task : UploadTask) : UploadEvent → UploadTask × List UploadOutput
  | .settled answer =>
      match answer with
      | .error error => if task.awaiting then task.fail error else (task, [])
      | .ok () => task.resumeStart
  | .timer =>
      match task.stage with
      | .pausedAt chunkIndex =>
          if task.cancelled then task.fail "Upload cancelled"
          else if task.paused then (task, [])
          else ({ task with stage := .chunk chunkIndex }, [])
      | _ => (task, [])
  | .uploadResponse status =>
      if status ≠ 200 then (task, [.thrown s!"Upload request failed with status: {status}"]) else (task, [])
  | .chunkResponse chunkIndex status =>
      if status ≠ 200 then
        let task := { task with retryCount := task.retryCount + 1 }
        if task.retryCount ≤ 3 then (task, [.retried chunkIndex])
        else (task, [.thrown s!"Chunk {chunkIndex} upload failed after {task.retryCount} retries"])
      else ({ task with retryCount := 0 }, [])
  | .pause => ({ task with paused := true, status := .paused }, [])
  | .resume => ({ task with paused := false, status := .transferring }, [])
  | .cancel => ({ task with cancelled := true, paused := false, status := .cancelled }, [])

end UploadTask

def uploadMachine : Machine UploadTask UploadEvent UploadOutput := ⟨UploadTask.handle⟩

end SecureChat.Web
