/-
This file lets the manager look after all sessions while other threads create, prepare and use them.
-/

import SecureChat.Construction.FileTransfer.Manager
import SecureChat.Construction.FileTransfer.Transcode
import SecureChat.Library.Threads

namespace SecureChat.FileTransfer
open Library

/-- Whether the callbacks of a session are set and lock its mutex. They leave the list of sessions alone. -/
structure CallbackLocks where
  progress : Bool
  completion : Bool
  error : Bool
  deriving DecidableEq, Repr

/-- A session with its address. -/
structure RoundSession where
  address : Nat
  managed : ManagedSession
  callbacks : CallbackLocks
  deriving DecidableEq, Repr

/-- How far the manager has got in a round. It holds the mutex of the list while it processes. -/
inductive ManagerPhase where
  | idle
  | processing (rest : List Nat)
  | processed
  | checking (rest : List Nat)
  | stopped
  deriving DecidableEq, Repr

/-- The manager is blocked when it waits for a mutex that nobody will unlock. -/
structure ManagerRound where
  sessions : List RoundSession
  phase : ManagerPhase
  running : Bool
  blocked : Bool
  deriving DecidableEq, Repr

def ManagerPhase.holdsList : ManagerPhase → Bool
  | .processing _ => true
  | _ => false

namespace ManagerRound

def active (state : ManagerRound) : List Nat :=
  (state.sessions.filter fun session => session.managed.place = .active).map (·.address)

def find (state : ManagerRound) (address : Nat) : Option RoundSession :=
  state.sessions.find? (·.address = address)

def modify (state : ManagerRound) (address : Nat) (work : RoundSession → RoundSession) : ManagerRound :=
  { state with
    sessions := state.sessions.map fun session => if session.address = address then work session else session }

end ManagerRound

def RoundSession.work (work : ManagedSession → ManagedSession) (session : RoundSession) : RoundSession :=
  { session with managed := work session.managed }

/-- A thread waits for the mutex of the session while it holds it. -/
def RoundSession.block (session : RoundSession) : RoundSession :=
  session.work fun managed => { managed with blocked := true }

def callbackOps (locks : Bool) : List LockOp := if locks then [.lock, .unlock] else []

/-- Every way through `ft_prepare_upload` and `ft_prepare_download`. -/
def prepareOps : List LockOp := [.lock, .unlock]

/-- What the manager does with the mutex of a session while it processes the session.
The callback about a failure comes after the section. -/
def processOps (config : Config) (session : RoundSession) (answers : ProcessAnswers) : List LockOp :=
  let inner := match session.managed.session.status with
    | .pending => prepareOps
    | .transferring =>
        if answers.tempSize.isSome ∧ session.managed.session.totalBytes ≠ 0 then
          callbackOps session.callbacks.progress
        else []
    | .completed => callbackOps session.callbacks.completion
    | _ => []
  let after := if (ftProcessSession config session.managed answers).1 ≠ .success then
    callbackOps session.callbacks.error else []
  .lock :: (inner ++ .unlock :: after)

def timedOut (config : Config) (session : UploadSession) (now : Int) : Bool :=
  (config.timeoutMs / 1000).toNat < now - session.lastActivityTime

def timeoutOps (config : Config) (session : RoundSession) (now : Int) : List LockOp :=
  if timedOut config session.managed.session now then
    let status := session.managed.session.status
    .lock :: ((if status = .transferring ∨ status = .pending then callbackOps session.callbacks.error else []) ++
      [.unlock])
  else []

/-- The manager turns to one session. A session that is gone is passed over. -/
def ManagerRound.visit (state : ManagerRound) (address : Nat) (ops : RoundSession → List LockOp)
    (work : ManagedSession → ManagedSession) (next : ManagerPhase) : ManagerRound :=
  match state.find address with
  | none => { state with phase := next }
  | some session =>
      if LockOp.holds session.managed.blocked (ops session) = none then
        { state.modify address RoundSession.block with blocked := true }
      else { state.modify address (RoundSession.work work) with phase := next }

/-- The next step of `ft_manager_thread_func`. -/
def managerTurn (config : Config) (state : ManagerRound) (answers : ProcessAnswers) : ManagerRound :=
  if state.blocked then state
  else
    match state.phase with
    | .idle => { state with phase := if state.running then .processing state.active else .stopped }
    | .processing [] => { state with phase := .processed }
    | .processing (address :: rest) =>
        if !state.running then { state with phase := .processed }
        else
          state.visit address (processOps config · answers) (fun managed => (processStep config managed answers).1)
            (.processing rest)
    | .processed => { state with phase := .checking state.active }
    | .checking [] =>
        { state with
          sessions := state.sessions.map
            (RoundSession.work fun managed => cleanupStep managed (answers.now - 3600))
          phase := .idle }
    | .checking (address :: rest) =>
        state.visit address (timeoutOps config · answers.now) (fun managed => ftCheckTimeout config managed answers.now)
          (.checking rest)
    | .stopped => state

/-- Another thread calls a function with a session. It waits as well when the mutex is never unlocked. -/
def ManagerRound.call (state : ManagerRound) (address : Nat) (ops : RoundSession → List LockOp)
    (work : ManagedSession → ManagedSession) : ManagerRound :=
  match state.find address with
  | none => state
  | some session =>
      if session.managed.blocked then state
      else if LockOp.holds false (ops session) = none then state.modify address RoundSession.block
      else state.modify address (RoundSession.work work)

/-- A new session comes to the front of the list. Its callbacks are not set yet. -/
def newSession (config : Config) (address : Nat) (metadataFileSize : Option UInt64)
    (encryptionEnabled compressionEnabled : Bool) (now : Int) : RoundSession where
  address := address
  managed := {
    session := ftCreateSessionFields config.toUploadConfig metadataFileSize encryptionEnabled compressionEnabled now
    place := .active
    blocked := false
    tempExists := false
    completionCallback := false
    expectedChecksum := false }
  callbacks := ⟨false, false, false⟩

def prepareStep (config : Config) (download : Bool) (answers : PrepareAnswers) (managed : ManagedSession) :
    ManagedSession :=
  let prepare := if download then ftPrepareDownload else ftPrepareUpload
  { managed with
    session := (prepare config.toUploadConfig managed.session answers).2
    tempExists := managed.tempExists || (answers.tempOpens && (!download || answers.fileSize.isSome)) }

/-- What the system answers at the end of an upload. -/
structure CompleteAnswers where
  checksum : ErrorCode
  renames : Bool
  now : Int
  deriving DecidableEq, Repr

def ftCompleteUpload (config : Config) (managed : ManagedSession) (answers : CompleteAnswers) :
    ErrorCode × ManagedSession :=
  if config.verifyChecksum ∧ managed.expectedChecksum ∧ answers.checksum ≠ .success then (answers.checksum, managed)
  else if !(managed.tempExists && answers.renames) then (.io, managed)
  else (.success, { managed.setStatus .completed with tempExists := false }.touch answers.now)

section Chunk

variable (primitives : Primitives) (key : TransferKey) (config : Config)

/-- A call without data comes back before it locks. -/
def uploadOps (session : RoundSession) (call : ChunkCall) : List LockOp :=
  let (result, next) := ftUploadChunk config.toUploadConfig session.managed.session call
  if call.dataLength = 0 then []
  else if !chunkAllowed session.managed.session call.chunkIndex then [.lock, .unlock]
  else if result = .success then .lock :: (callbackOps session.callbacks.progress ++ [.unlock])
  else if next.status = .failed then .lock :: (callbackOps session.callbacks.error ++ [.unlock])
  else [.lock, .unlock]

def downloadOps (session : RoundSession) (call : DownloadCall) : List LockOp :=
  if (ftDownloadChunk primitives key config session.managed.session call).1 = .success then
    .lock :: (callbackOps session.callbacks.progress ++ [.unlock])
  else [.lock, .unlock]

def completeOps (session : RoundSession) (answers : CompleteAnswers) : List LockOp :=
  if (ftCompleteUpload config session.managed answers).1 = .success then
    .lock :: (callbackOps session.callbacks.completion ++ [.unlock])
  else [.lock, .unlock]

/-- The steps of the manager and of the other threads. A thread that creates or removes a session
waits for the mutex of the list, which the manager holds while it processes. -/
inductive RoundInput where
  | manager (answers : ProcessAnswers)
  | stop
  | create (address : Nat) (metadataFileSize : Option UInt64) (encryptionEnabled compressionEnabled : Bool)
      (now : Int)
  | prepare (address : Nat) (download : Bool) (answers : PrepareAnswers)
  | expectChecksum (address : Nat)
  | remove (address : Nat)
  | setCallbacks (address : Nat) (completionCallback : Bool) (callbacks : CallbackLocks)
  | uploadChunk (address : Nat) (call : ChunkCall)
  | downloadChunk (address : Nat) (call : DownloadCall)
  | completeUpload (address : Nat) (answers : CompleteAnswers)

/-- The manager does not meet a removed session any more. -/
def removeSession (state : ManagerRound) (address : Nat) : ManagerRound :=
  { state with
    sessions := state.sessions.filter (·.address ≠ address)
    phase := match state.phase with
      | .checking rest => .checking (rest.filter (· ≠ address))
      | phase => phase }

def roundStep (state : ManagerRound) : RoundInput → ManagerRound
  | .manager answers => managerTurn config state answers
  | .stop => { state with running := false }
  | .create address metadataFileSize encryptionEnabled compressionEnabled now =>
      if state.phase.holdsList ∨ (state.find address).isSome then state
      else
        { state with
          sessions := newSession config address metadataFileSize encryptionEnabled compressionEnabled now ::
            state.sessions }
  | .prepare address download answers =>
      state.call address (fun _ => prepareOps) (prepareStep config download answers)
  | .expectChecksum address =>
      state.modify address (RoundSession.work fun managed => { managed with expectedChecksum := true })
  | .remove address => if state.phase.holdsList then state else removeSession state address
  | .setCallbacks address completionCallback callbacks =>
      state.modify address fun session =>
        { session with
          managed := { session.managed with completionCallback := completionCallback }
          callbacks := callbacks }
  | .uploadChunk address call =>
      state.call address (uploadOps config · call) (uploadStep config · call)
  | .downloadChunk address call =>
      state.call address (downloadOps primitives key config · call) (downloadStep primitives key config · call)
  | .completeUpload address answers =>
      state.call address (completeOps config · answers) fun managed => (ftCompleteUpload config managed answers).2

/-- The manager together with all other threads. -/
def roundMachine : Machine ManagerRound RoundInput Empty where
  step state input := (roundStep primitives key config state input, [])

end Chunk

end SecureChat.FileTransfer
