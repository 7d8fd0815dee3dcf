/-
This file keeps the sessions of the file transfer manager.
-/

import SecureChat.Library.DoublyLinked
import SecureChat.Library.Machine

namespace SecureChat.FileTransfer
open Library

/-- The error codes that sessions and transfers use. -/
inductive ErrorCode where
  | success
  | invalidParams
  | fileNotFound
  | timeout
  | checksumMismatch
  | encryption
  | decryption
  | invalidState
  | memory
  | io
  | invalidChunk
  | transferNotFound
  | compression
  | decompression
  deriving DecidableEq, Repr

/-- The fields of a session that decide where it is kept. -/
structure Session where
  transferId : UInt64
  lastActivityTime : Int
  deriving DecidableEq, Repr

/-- One pair of links serves the hash table, the active list, and the completed list.
The counter bounds the length of every list without a cycle. -/
structure Registry where
  heap : Heap (Backlinked Session)
  table : Nat → Option Nat
  activeSessions : Option Nat
  completedSessions : Option Nat
  allocated : Nat

def emptyRegistry : Registry := ⟨fun _ => none, fun _ => none, none, none, 0⟩

def ftHashTableSize : Nat := 101

def ftHashTransferId (transferId : UInt64) : Nat := transferId.toNat % ftHashTableSize

/-- The loop over a list of sessions. The outer result is absent when a pointer dangles
or the list has a cycle. -/
def findSession (heap : Heap (Backlinked Session)) (transferId : UInt64) :
    Nat → Option Nat → Option (Option Nat)
  | _, none => some none
  | 0, some _ => none
  | fuel + 1, some current =>
      match heap current with
      | none => none
      | some cell =>
          if cell.value.data.transferId = transferId then some (some current)
          else findSession heap transferId fuel cell.next

def ftFindInSessionMap (registry : Registry) (transferId : UInt64) : Option (Option Nat) :=
  findSession registry.heap transferId registry.allocated (registry.table (ftHashTransferId transferId))

/-- The registry is absent after a write through a dangling pointer. -/
def ftAddToSessionMap (registry : Registry) (session : Nat) : Option Registry := do
  let cell ← registry.heap session
  let index := ftHashTransferId cell.value.data.transferId
  let heap ← linkFront registry.heap session (registry.table index)
  return { registry with heap := heap, table := Function.update registry.table index (some session) }

def ftRemoveFromSessionMap (registry : Registry) (transferId : UInt64) :
    Option (ErrorCode × Registry) := do
  let index := ftHashTransferId transferId
  match ← ftFindInSessionMap registry transferId with
  | none => return (.transferNotFound, registry)
  | some current =>
      let cell ← registry.heap current
      let (heap, head) ← unlinkCell registry.heap (registry.table index) cell
      return (.success, { registry with heap := heap, table := Function.update registry.table index head })

/-- What `ft_create_session` finds before it links the session. -/
structure CreateAnswers where
  pathGiven : Bool
  encryptionEnabled : Bool
  randBytes : Bool
  mutexInit : Bool
  condInit : Bool
  deriving DecidableEq, Repr

def CreateAnswers.result (answers : CreateAnswers) : ErrorCode :=
  if !answers.pathGiven then .invalidParams
  else if answers.encryptionEnabled && !answers.randBytes then .encryption
  else if !answers.mutexInit then .memory
  else if !answers.condInit then .memory
  else .success

/-- The session is linked into its bucket first and into the active list after that. -/
def ftCreateSession (allocator : Allocator (Backlinked Session)) (registry : Registry)
    (answers : CreateAnswers) (seed : Nat) (transferId : UInt64) (now : Int) :
    Option (ErrorCode × Registry) :=
  if !answers.pathGiven then some (.invalidParams, registry) else
  match allocator.malloc seed registry.heap with
  | none => some (.memory, registry)
  | some session =>
      if answers.result ≠ .success then some (answers.result, registry) else do
      let mapped ← ftAddToSessionMap { registry with
        heap := Function.update registry.heap session (some ⟨⟨⟨transferId, now⟩, none⟩, none⟩)
        allocated := registry.allocated + 1 } session
      let heap ← linkFront mapped.heap session mapped.activeSessions
      return (.success, { mapped with heap := heap, activeSessions := some session })

/-- The session is taken out of the table once more before it is freed. -/
def ftDestroySession (registry : Registry) (session : Nat) : Option Registry := do
  let cell ← registry.heap session
  let (_, registry) ← ftRemoveFromSessionMap registry cell.value.data.transferId
  return { registry with heap := Function.update registry.heap session none }

/-- A session that is in neither list is not destroyed. -/
def ftRemoveSession (registry : Registry) (transferId : UInt64) : Option (ErrorCode × Registry) := do
  let (result, registry) ← ftRemoveFromSessionMap registry transferId
  if result ≠ .success then return (result, registry)
  match ← findSession registry.heap transferId registry.allocated registry.activeSessions with
  | some session =>
      let cell ← registry.heap session
      let (heap, head) ← unlinkCell registry.heap registry.activeSessions cell
      let registry ← ftDestroySession { registry with heap := heap, activeSessions := head } session
      return (.success, registry)
  | none =>
      match ← findSession registry.heap transferId registry.allocated registry.completedSessions with
      | some session =>
          let cell ← registry.heap session
          let (heap, head) ← unlinkCell registry.heap registry.completedSessions cell
          let registry ← ftDestroySession { registry with heap := heap, completedSessions := head } session
          return (.success, registry)
      | none => return (.success, registry)

/-- The part of the manager's loop behind a session that `ft_process_session` fails for. -/
def moveToCompleted (registry : Registry) (transferId : UInt64) (now : Int) : Option Registry := do
  match ← findSession registry.heap transferId registry.allocated registry.activeSessions with
  | none => return registry
  | some current =>
      let cell ← registry.heap current
      let (heap, head) ← unlinkCell registry.heap registry.activeSessions cell
      let touched := Function.update heap current (some { cell with
        value := { cell.value with data := { cell.value.data with lastActivityTime := now } } })
      let heap ← linkFront touched current registry.completedSessions
      return { registry with heap := heap, activeSessions := head, completedSessions := some current }

/-- The loop reads the next pointer before the session is freed. -/
def cleanupLoop (olderThan : Int) : Nat → Registry → Option Nat → Option Registry
  | _, registry, none => some registry
  | 0, _, some _ => none
  | fuel + 1, registry, some current => do
      let cell ← registry.heap current
      let registry ← if cell.value.data.lastActivityTime < olderThan then do
          let (heap, head) ← unlinkCell registry.heap registry.completedSessions cell
          let (_, registry) ← ftRemoveFromSessionMap { registry with
            heap := heap, completedSessions := head } cell.value.data.transferId
          ftDestroySession registry current
        else some registry
      cleanupLoop olderThan fuel registry cell.next

def ftCleanupCompletedSessions (registry : Registry) (olderThan : Int) : Option Registry :=
  cleanupLoop olderThan registry.allocated registry registry.completedSessions

/-- The session behind the pointer that a lookup returns. -/
def ftGetSession (registry : Registry) (transferId : UInt64) : Option (Option Session) := do
  match ← ftFindInSessionMap registry transferId with
  | none => return none
  | some session => return some (← registry.heap session).value.data

/-- The sessions of a list, from its head to the null pointer. -/
def sessionsFrom (heap : Heap (Backlinked Session)) : Nat → Option Nat → Option (List Session)
  | _, none => some []
  | 0, some _ => none
  | fuel + 1, some current => do
      let cell ← heap current
      return cell.value.data :: (← sessionsFrom heap fuel cell.next)

inductive RegistryCall where
  | create (answers : CreateAnswers) (seed : Nat) (transferId : UInt64) (now : Int)
  | remove (transferId : UInt64)
  | fail (transferId : UInt64) (now : Int)
  | cleanup (olderThan : Int)
  deriving DecidableEq, Repr

/-- The result of a call that has one. -/
def registryStep (allocator : Allocator (Backlinked Session)) (registry : Registry) :
    RegistryCall → Option (ErrorCode × Registry)
  | .create answers seed transferId now => ftCreateSession allocator registry answers seed transferId now
  | .remove transferId => ftRemoveSession registry transferId
  | .fail transferId now => (moveToCompleted registry transferId now).map (.success, ·)
  | .cleanup olderThan => (ftCleanupCompletedSessions registry olderThan).map (.success, ·)

/-- The registry is absent after a call has used a dangling pointer or has not come back. -/
def registryMachine (allocator : Allocator (Backlinked Session)) :
    Machine (Option Registry) RegistryCall ErrorCode where
  step state call :=
    match state.bind fun registry => registryStep allocator registry call with
    | none => (none, [])
    | some (code, registry) => (some registry, [code])

end SecureChat.FileTransfer
