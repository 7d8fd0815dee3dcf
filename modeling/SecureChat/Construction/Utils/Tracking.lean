/-
This file allocates memory through the functions that track it.
-/

import Mathlib.Algebra.Group.Nat.Defs
import SecureChat.Construction.Utils.HashTable

namespace SecureChat.Utils.Tracking
open Library

/-- How far `pthread_once` has got. -/
inductive Once where
  | notRun
  | running
  | done
  deriving DecidableEq, Repr

/-- The reasons why a call never returns: a mutex that its thread holds already is locked once more,
or `pthread_once` is called inside of its own function. The last one stands for calls that nest too deeply. -/
inductive Stop where
  | deadlock
  | reentered
  | outOfFuel
  deriving DecidableEq, Repr

/-- A node of the tracking table: the pointer that is its key, the size of the block,
and the addresses of the node and of its copy of the key. -/
structure TrackedNode where
  pointer : Nat
  size : Nat
  node : Nat
  key : Nat
  deriving DecidableEq, Repr

/-- The tracking table, its mutex and its initialisation, with the blocks that the functions have handed out
and not freed. Within a call the requests to the C library are counted. -/
structure Tracker where
  once : Once
  locked : Bool
  table : Option (List TrackedNode)
  live : List Nat
  requests : Nat
  deriving DecidableEq, Repr

def freshTracker : Tracker := ⟨.notRun, false, none, [], 0⟩

/-- What the C library answers to the requests of one call. -/
abbrev MallocAnswers := Nat → Option Nat

def request (answers : MallocAnswers) (tracker : Tracker) : Option Nat × Tracker :=
  (answers tracker.requests, { tracker with requests := tracker.requests + 1 })

/-- `free` of a block that was handed out. -/
def Tracker.free (tracker : Tracker) (block : Nat) : Tracker := { tracker with live := tracker.live.erase block }

def lockTracking (tracker : Tracker) : Except Stop Tracker :=
  if tracker.locked then .error .deadlock else .ok { tracker with locked := true }

def unlockTracking (tracker : Tracker) : Tracker := { tracker with locked := false }

def sizeofHashTable : Nat := 40

def sizeofHashTableNode : Nat := 24

def sizeofPointer : Nat := 8

/-- The limit of `size_t`. -/
def sizeLimit : Nat := 2 ^ 64

/-- The length of a pointer that is printed with `%p`. -/
def pointerLength (pointer : Nat) : Nat := 2 + (Nat.toDigits 16 pointer).length

section Calls

-- `malloc` or `calloc` with the tracking that follows it in `utils_malloc` and `utils_calloc`.
variable (allocate : Nat → Tracker → Except Stop (Option Nat × Tracker))

def utilsMalloc (size : Nat) (tracker : Tracker) : Except Stop (Option Nat × Tracker) :=
  if size = 0 then .ok (none, tracker) else allocate size tracker

/-- The product of the sizes is checked for an overflow. -/
def utilsCalloc (count size : Nat) (tracker : Tracker) : Except Stop (Option Nat × Tracker) :=
  if count = 0 ∨ size = 0 then .ok (none, tracker)
  else if sizeLimit ≤ count * size then .ok (none, tracker)
  else allocate (count * size) tracker

/-- The string is given by its length. It may be a null pointer. -/
def utilsStrdup (length : Option Nat) (tracker : Tracker) : Except Stop (Option Nat × Tracker) :=
  match length with
  | none => .ok (none, tracker)
  | some length => utilsMalloc allocate (length + 1) tracker

/-- A table without room for its buckets goes back to the C library. -/
def hashTableCreate (size : Nat) (tracker : Tracker) : Except Stop (Option Nat × Tracker) := do
  match ← utilsMalloc allocate sizeofHashTable tracker with
  | (none, tracker) => .ok (none, tracker)
  | (some table, tracker) =>
      match ← utilsCalloc allocate (tableSize size) sizeofPointer tracker with
      | (none, tracker) => .ok (none, tracker.free table)
      | (some _, tracker) => .ok (some table, tracker)

/-- The table is set by the function that `pthread_once` runs. -/
def initMemoryTracking (tracker : Tracker) : Except Stop Tracker :=
  match tracker.once with
  | .done => .ok tracker
  | .running => .error .reentered
  | .notRun => do
      let (table, tracker) ← hashTableCreate allocate 1024 { tracker with once := .running }
      .ok { tracker with once := .done, table := table.map fun _ => [] }

/-- A null pointer in place of the table is refused. A new key needs a node and a copy of the key. -/
def hashTableInsert (pointer size : Nat) (tracker : Tracker) : Except Stop Tracker := do
  match tracker.table with
  | none => .ok tracker
  | some nodes =>
      if nodes.any (·.pointer = pointer) then
        .ok { tracker with
          table := some (nodes.map fun node => if node.pointer = pointer then { node with size := size } else node) }
      else
        match ← utilsMalloc allocate sizeofHashTableNode tracker with
        | (none, tracker) => .ok tracker
        | (some node, tracker) =>
            match ← utilsStrdup allocate (some (pointerLength pointer)) tracker with
            | (none, tracker) => .ok (tracker.free node)
            | (some key, tracker) => .ok { tracker with table := tracker.table.map (⟨pointer, size, node, key⟩ :: ·) }

/-- A block for which there is no record is not tracked. -/
def trackBlock (answers : MallocAnswers) (pointer size : Nat) (tracker : Tracker) : Except Stop Tracker := do
  match request answers tracker with
  | (none, tracker) => .ok tracker
  | (some _, tracker) =>
      let tracker ← lockTracking tracker
      let tracker ← hashTableInsert allocate pointer size tracker
      .ok (unlockTracking tracker)

end Calls

/-- The functions call each other. The fuel bounds how deeply they do. -/
def allocate (answers : MallocAnswers) : Nat → Nat → Tracker → Except Stop (Option Nat × Tracker)
  | 0, _, _ => .error .outOfFuel
  | fuel + 1, size, tracker =>
      match request answers tracker with
      | (none, tracker) => .ok (none, tracker)
      | (some pointer, tracker) => do
          let tracker ← initMemoryTracking (allocate answers fuel) tracker
          let tracker ← trackBlock (allocate answers fuel) answers pointer size tracker
          .ok (some pointer, { tracker with live := pointer :: tracker.live })

/-- The node and its copy of the key are freed with it. -/
def hashTableRemove (pointer : Nat) (tracker : Tracker) : Tracker :=
  match tracker.table.bind fun nodes => nodes.find? (·.pointer = pointer) with
  | none => tracker
  | some found =>
      { (tracker.free found.key).free found.node with
        table := tracker.table.map fun nodes => nodes.eraseP (·.pointer = pointer) }

section Interface

variable (answers : MallocAnswers) (fuel : Nat)

/-- The mutex is not taken as long as there is no table. -/
def untrack (pointer : Nat) (tracker : Tracker) : Except Stop Tracker :=
  match tracker.table with
  | none => .ok tracker
  | some _ => do
      let tracker ← lockTracking tracker
      .ok (unlockTracking (hashTableRemove pointer tracker))

def utilsFree (pointer : Option Nat) (tracker : Tracker) : Except Stop Tracker :=
  match pointer with
  | none => .ok tracker
  | some pointer => do
      let tracker ← initMemoryTracking (allocate answers fuel) tracker
      let tracker ← untrack pointer tracker
      .ok (tracker.free pointer)

/-- The old block is no longer tracked when the C library refuses the new one. -/
def utilsRealloc (pointer : Option Nat) (size : Nat) (tracker : Tracker) : Except Stop (Option Nat × Tracker) :=
  if size = 0 then do
    let tracker ← utilsFree answers fuel pointer tracker
    .ok (none, tracker)
  else
    match pointer with
    | none => utilsMalloc (allocate answers fuel) size tracker
    | some pointer => do
        let tracker ← initMemoryTracking (allocate answers fuel) tracker
        let tracker ← untrack pointer tracker
        match request answers tracker with
        | (none, tracker) => .ok (none, tracker)
        | (some renewed, tracker) => do
            let tracker ← match tracker.table with
              | none => .ok tracker
              | some _ => trackBlock (allocate answers fuel) answers renewed size tracker
            .ok (some renewed, { tracker.free pointer with live := renewed :: tracker.live.erase pointer })

/-- The calls of one thread. -/
inductive TrackerCall where
  | malloc (size : Nat)
  | calloc (count size : Nat)
  | realloc (pointer : Option Nat) (size : Nat)
  | strdup (length : Option Nat)
  | hashTableCreate (size : Nat)
  | free (pointer : Option Nat)
  deriving DecidableEq, Repr

def trackerCall (call : TrackerCall) (tracker : Tracker) : Except Stop Tracker :=
  let tracker := { tracker with requests := 0 }
  match call with
  | .malloc size => (utilsMalloc (allocate answers fuel) size tracker).map Prod.snd
  | .calloc count size => (utilsCalloc (allocate answers fuel) count size tracker).map Prod.snd
  | .realloc pointer size => (utilsRealloc answers fuel pointer size tracker).map Prod.snd
  | .strdup length => (utilsStrdup (allocate answers fuel) length tracker).map Prod.snd
  | .hashTableCreate size => (hashTableCreate (allocate answers fuel) size tracker).map Prod.snd
  | .free pointer => utilsFree answers fuel pointer tracker

end Interface

/-- A thread that does not come back from a call makes no further one. -/
def trackerMachine (fuel : Nat) : Machine (Except Stop Tracker) (TrackerCall × MallocAnswers) Empty where
  step state input := (state.bind (trackerCall input.2 fuel input.1), [])

end SecureChat.Utils.Tracking
