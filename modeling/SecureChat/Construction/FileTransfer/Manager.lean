/-
This file lets the manager look after one session while its chunks arrive.
-/

import SecureChat.Construction.FileTransfer.Transcode

namespace SecureChat.FileTransfer
open Library

/-- The list that a session is on. The manager looks at active sessions only. -/
inductive Place where
  | active
  | completed
  | destroyed
  deriving DecidableEq, Repr

/-- A session that the manager knows. The manager locks the mutex of a pending session twice,
and neither the manager nor the session goes on after that. -/
structure ManagedSession where
  session : UploadSession
  place : Place
  blocked : Bool
  tempExists : Bool
  completionCallback : Bool
  expectedChecksum : Bool
  deriving DecidableEq, Repr

/-- What the system answers while a session is processed. -/
structure ProcessAnswers where
  tempSize : Option UInt64
  checksum : ErrorCode
  renames : Bool
  now : Int
  deriving DecidableEq, Repr

def ftUpdateProgress (config : Config) (session : UploadSession) (tempSize : Option UInt64) :
    UploadSession :=
  match tempSize with
  | none => session
  | some size =>
      { session with
        bytesTransferred := size
        currentChunk := (size / config.chunkSize.toUInt64).toUInt32 }

def ManagedSession.setStatus (managed : ManagedSession) (status : TransferStatus) : ManagedSession :=
  { managed with session := { managed.session with status := status } }

def ManagedSession.touch (managed : ManagedSession) (now : Int) : ManagedSession :=
  { managed with session := { managed.session with lastActivityTime := now } }

/-- What happens to a session. The callbacks about progress and errors are left out. -/
inductive TransferEvent where
  | processed (found : TransferStatus)
  | completionCallback
  deriving DecidableEq, Repr

/-- A session that is completed is finished once more in every round. -/
def ftProcessSession (config : Config) (managed : ManagedSession) (answers : ProcessAnswers) :
    ErrorCode × ManagedSession × List TransferEvent :=
  match managed.session.status with
  | .pending => (.success, { managed with blocked := true }, [])
  | .transferring =>
      (.success, { managed with session := ftUpdateProgress config managed.session answers.tempSize }.touch
        answers.now, [])
  | .verifying =>
      if config.verifyChecksum ∧ managed.expectedChecksum then
        if answers.checksum = .success then
          (.success, (managed.setStatus .completed).touch answers.now, [])
        else (answers.checksum, (managed.setStatus .failed).touch answers.now, [])
      else (.success, (managed.setStatus .completed).touch answers.now, [])
  | .completed =>
      let events := if managed.completionCallback then [TransferEvent.completionCallback] else []
      if managed.tempExists && answers.renames then
        (.success, { managed with tempExists := false }.touch answers.now, events)
      else (.io, (managed.setStatus .failed).touch answers.now, events)
  | _ => (.success, managed.touch answers.now, [])

/-- The part of the loop of `ft_manager_thread_func` that is about one session. -/
def processStep (config : Config) (managed : ManagedSession) (answers : ProcessAnswers) :
    ManagedSession × List TransferEvent :=
  if managed.place ≠ .active ∨ managed.blocked then (managed, [])
  else
    let (result, next, events) := ftProcessSession config managed answers
    let events := TransferEvent.processed managed.session.status :: events
    if result ≠ .success then ({ next.setStatus .failed with place := .completed }, events)
    else (next, events)

def ftCheckTimeout (config : Config) (managed : ManagedSession) (now : Int) : ManagedSession :=
  if managed.place ≠ .active ∨ managed.blocked then managed
  else if (config.timeoutMs / 1000).toNat < now - managed.session.lastActivityTime then
    if managed.session.status = .transferring ∨ managed.session.status = .pending then
      managed.setStatus .failed
    else managed
  else managed

/-- Failed sessions are freed after a while. -/
def cleanupStep (managed : ManagedSession) (olderThan : Int) : ManagedSession :=
  if managed.place = .completed ∧ managed.session.lastActivityTime < olderThan then
    { managed with place := .destroyed, tempExists := false }
  else managed

/-- The arguments of `ft_download_chunk` and what the system answers. -/
structure DownloadCall where
  chunkIndex : UInt32
  source : SourceFile
  answers : ReadAnswers
  tempOpens : Bool
  now : Int

/-- A chunk call gets as far as the files. -/
def chunkAllowed (session : UploadSession) (chunkIndex : UInt32) : Bool :=
  (session.status = .transferring ∨ session.status = .preparing) ∧ chunkIndex < session.totalChunks

section Chunk

variable (primitives : Primitives) (key : TransferKey) (config : Config)

def ftDownloadChunk (session : UploadSession) (call : DownloadCall) : ErrorCode × UploadSession :=
  if session.status ≠ .transferring ∧ session.status ≠ .preparing then (.invalidState, session)
  else if session.totalChunks ≤ call.chunkIndex then (.invalidChunk, session)
  else
    let (result, data) := ftReadChunk primitives key config.toUploadConfig session call.source
      call.chunkIndex call.answers
    if result = .success then
      let write := ⟨call.chunkIndex, UInt32.ofNat data.length,
        call.chunkIndex.toNat * config.chunkSize.toNat, data⟩
      let next := takeChunk session write call.now
      (.success, { next with tempFile := if call.tempOpens then next.tempFile else session.tempFile })
    else (result, session)

def uploadStep (managed : ManagedSession) (call : ChunkCall) : ManagedSession :=
  if managed.place = .destroyed ∨ managed.blocked then managed
  else
    { managed with
      session := (ftUploadChunk config.toUploadConfig managed.session call).2
      tempExists := managed.tempExists ||
        (chunkAllowed managed.session call.chunkIndex && call.dataLength != 0 &&
          (call.answers.opens || call.answers.creates)) }

def downloadStep (managed : ManagedSession) (call : DownloadCall) : ManagedSession :=
  if managed.place = .destroyed ∨ managed.blocked then managed
  else
    let (result, next) := ftDownloadChunk primitives key config managed.session call
    { managed with
      session := next
      tempExists := managed.tempExists || (result == .success && call.tempOpens) }

/-- A round of the manager processes a session, checks its timeout and cleans up.
The chunk calls of other threads fall between these steps in any way. -/
inductive ManagerInput where
  | process (answers : ProcessAnswers)
  | checkTimeout (now : Int)
  | cleanup (now : Int)
  | uploadChunk (call : ChunkCall)
  | downloadChunk (call : DownloadCall)

def managerStep (managed : ManagedSession) : ManagerInput → ManagedSession × List TransferEvent
  | .process answers => processStep config managed answers
  | .checkTimeout now => (ftCheckTimeout config managed now, [])
  | .cleanup now => (cleanupStep managed (now - 3600), [])
  | .uploadChunk call => (uploadStep config managed call, [])
  | .downloadChunk call => (downloadStep primitives key config managed call, [])

/-- The status COMPLETED in the past, a round that found it, and the calls of the completion callback. -/
structure CompletionRecord where
  completed : Bool
  processed : Bool
  calls : Nat
  deriving DecidableEq, Repr

def CompletionRecord.note (record : CompletionRecord) (next : ManagedSession)
    (events : List TransferEvent) : CompletionRecord where
  completed := record.completed || next.session.status == .completed
  processed := record.processed || events.contains (.processed .completed)
  calls := record.calls + events.count .completionCallback

/-- The session together with the record of its completion. -/
def managerMachine : Machine (ManagedSession × CompletionRecord) ManagerInput TransferEvent where
  step state input :=
    let (next, events) := managerStep primitives key config state.1 input
    ((next, state.2.note next events), events)

end Chunk

/-- A session as `ft_start_upload` and `ft_start_download` leave it. -/
def startTransfer (config : Config) (fileSize : UInt64) (encryptionEnabled compressionEnabled
    completionCallback expectedChecksum : Bool) (now : Int) : ManagedSession where
  session := beginUpload config.toUploadConfig fileSize .preparing encryptionEnabled compressionEnabled now
  place := .active
  blocked := false
  tempExists := true
  completionCallback := completionCallback
  expectedChecksum := expectedChecksum

end SecureChat.FileTransfer
