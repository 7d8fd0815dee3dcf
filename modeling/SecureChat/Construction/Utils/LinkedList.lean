/-
This file holds the doubly linked list of the server's utilities.
-/

import SecureChat.Library.DoublyLinked
import SecureChat.Library.Machine

namespace SecureChat.Utils
open Library

/-- A node without its next pointer. The data is a pointer that may be null. -/
abbrev ListNode := Backlinked (Option Nat)

/-- The list and the heap that holds its nodes. The data is freed if there is a function for it. -/
structure LinkedList where
  head : Option Nat
  tail : Option Nat
  size : Nat
  dataFreeFunction : Bool
  dataCompareFunction : Option (Option Nat → Option Nat → Int)
  heap : Heap ListNode

/-- What an operation returns to its caller. -/
inductive ListResult where
  | status (result : Int)
  | data (data : Option Nat)
  | cleared
  deriving DecidableEq, Repr

/-- The list after a call, the data that the call has freed, and its result. -/
structure ListReturn where
  list : LinkedList
  freed : List Nat
  result : ListResult

def listCreate (dataFreeFunction : Bool) (dataCompareFunction : Option (Option Nat → Option Nat → Int)) :
    LinkedList where
  head := none
  tail := none
  size := 0
  dataFreeFunction := dataFreeFunction
  dataCompareFunction := dataCompareFunction
  heap := fun _ => none

/-- A write through a dangling pointer has no result. -/
def setNext (heap : Heap ListNode) (address : Nat) (next : Option Nat) : Option (Heap ListNode) :=
  (heap address).map fun cell => Function.update heap address (some { cell with next := next })

/-- A write through a dangling pointer has no result. -/
def setPrev (heap : Heap ListNode) (address : Nat) (prev : Option Nat) : Option (Heap ListNode) :=
  (heap address).map fun cell =>
    Function.update heap address (some { cell with value := { cell.value with prev := prev } })

/-- The return is absent after an operation has used a dangling pointer. -/
def listAppend (allocator : Allocator ListNode) (list : LinkedList) (data : Option Nat) (seed : Nat) :
    Option ListReturn :=
  match allocator.malloc seed list.heap with
  | none => some ⟨list, [], .status (-1)⟩
  | some node => do
      let heap := Function.update list.heap node (some ⟨⟨data, list.tail⟩, none⟩)
      let linked ← match list.tail with
        | some tail => (setNext heap tail (some node)).map fun heap => { list with heap := heap }
        | none => some { list with heap := heap, head := some node }
      return ⟨{ linked with tail := some node, size := linked.size + 1 }, [], .status 0⟩

def listPrepend (allocator : Allocator ListNode) (list : LinkedList) (data : Option Nat) (seed : Nat) :
    Option ListReturn :=
  match allocator.malloc seed list.heap with
  | none => some ⟨list, [], .status (-1)⟩
  | some node => do
      let heap := Function.update list.heap node (some ⟨⟨data, none⟩, list.head⟩)
      let linked ← match list.head with
        | some head => (setPrev heap head (some node)).map fun heap => { list with heap := heap }
        | none => some { list with heap := heap, tail := some node }
      return ⟨{ linked with head := some node, size := linked.size + 1 }, [], .status 0⟩

/-- The loop that follows a number of next pointers. -/
def follow (heap : Heap ListNode) : Nat → Option Nat → Option (Option Nat)
  | 0, current => some current
  | _ + 1, none => none
  | count + 1, some address => do
      let cell ← heap address
      follow heap count cell.next

/-- The node is put behind the one that the loop has found. -/
def listInsert (allocator : Allocator ListNode) (list : LinkedList) (index : Nat) (data : Option Nat)
    (seed : Nat) : Option ListReturn :=
  if index ≥ list.size then listAppend allocator list data seed
  else if index = 0 then listPrepend allocator list data seed
  else do
    let current ← (← follow list.heap (index - 1) list.head)
    match allocator.malloc seed list.heap with
    | none => return ⟨list, [], .status (-1)⟩
    | some node =>
        let cell ← list.heap current
        let heap := Function.update list.heap node (some ⟨⟨data, some current⟩, cell.next⟩)
        let behind ← match cell.next with
          | some next => setPrev heap next (some node)
          | none => some heap
        let linked ← setNext behind current (some node)
        return ⟨{ list with heap := linked, size := list.size + 1 }, [], .status 0⟩

def listGet (list : LinkedList) (index : Nat) : Option ListReturn :=
  if index ≥ list.size then some ⟨list, [], .data none⟩
  else do
    let current ← (← follow list.heap index list.head)
    let cell ← list.heap current
    return ⟨list, [], .data cell.value.data⟩

def freedData (list : LinkedList) (data : Option Nat) : List Nat :=
  if list.dataFreeFunction then data.toList else []

/-- The neighbours of a node are linked to each other, or to the list where there is no neighbour. -/
def unlink (list : LinkedList) (cell : Cell ListNode) : Option LinkedList := do
  let front ← match cell.value.prev with
    | some prev => (setNext list.heap prev cell.next).map fun heap => { list with heap := heap }
    | none => some { list with head := cell.next }
  match cell.next with
  | some next => (setPrev front.heap next cell.value.prev).map fun heap => { front with heap := heap }
  | none => some { front with tail := cell.value.prev }

def listRemove (list : LinkedList) (index : Nat) : Option ListReturn :=
  if index ≥ list.size then some ⟨list, [], .status (-1)⟩
  else do
    let current ← (← follow list.heap index list.head)
    let cell ← list.heap current
    let unlinked ← unlink list cell
    return ⟨{ unlinked with heap := Function.update unlinked.heap current none, size := unlinked.size - 1 },
      freedData list cell.value.data, .status 0⟩

/-- The comparison function decides, or the equality of the pointers if there is none. -/
def dataMatches (dataCompareFunction : Option (Option Nat → Option Nat → Int)) (stored data : Option Nat) :
    Bool :=
  match dataCompareFunction with
  | some compare => compare stored data = 0
  | none => stored = data

/-- The loop that looks for the data. The outer result is absent when a pointer dangles
or the fuel is used up. -/
def findData (list : LinkedList) (data : Option Nat) : Nat → Option Nat → Nat → Option (Option Nat)
  | _, none, _ => some none
  | 0, some _, _ => none
  | fuel + 1, some address, index => do
      let cell ← list.heap address
      if dataMatches list.dataCompareFunction cell.value.data data then return some index
      else findData list data fuel cell.next (index + 1)

/-- Null data is refused. -/
def listRemoveData (list : LinkedList) (data : Option Nat) : Option ListReturn :=
  if data = none then some ⟨list, [], .status (-1)⟩
  else do
    match ← findData list data list.size list.head 0 with
    | none => return ⟨list, [], .status (-1)⟩
    | some index =>
        let removed ← listRemove list index
        return ⟨removed.list, removed.freed, .status 0⟩

/-- The loop that frees all nodes. -/
def clearNodes (list : LinkedList) : Nat → Heap ListNode → Option Nat → Option (Heap ListNode × List Nat)
  | _, heap, none => some (heap, [])
  | 0, _, some _ => none
  | fuel + 1, heap, some address => do
      let cell ← heap address
      let rest ← clearNodes list fuel (Function.update heap address none) cell.next
      return (rest.1, freedData list cell.value.data ++ rest.2)

def listClear (list : LinkedList) : Option ListReturn := do
  let cleared ← clearNodes list list.size list.heap list.head
  return ⟨{ list with heap := cleared.1, head := none, tail := none, size := 0 }, cleared.2, .cleared⟩

inductive ListOperation where
  | append (data : Option Nat) (seed : Nat)
  | prepend (data : Option Nat) (seed : Nat)
  | insert (index : Nat) (data : Option Nat) (seed : Nat)
  | get (index : Nat)
  | remove (index : Nat)
  | removeData (data : Option Nat)
  | clear
  deriving DecidableEq

/-- The calls of the free function and the result, in their order. -/
inductive ListOutput where
  | freed (data : Nat)
  | returned (result : ListResult)
  deriving DecidableEq, Repr

def applyListOperation (allocator : Allocator ListNode) (list : LinkedList) :
    ListOperation → Option ListReturn
  | .append data seed => listAppend allocator list data seed
  | .prepend data seed => listPrepend allocator list data seed
  | .insert index data seed => listInsert allocator list index data seed
  | .get index => listGet list index
  | .remove index => listRemove list index
  | .removeData data => listRemoveData list data
  | .clear => listClear list

def listMachine (allocator : Allocator ListNode) :
    Machine (Option LinkedList) ListOperation ListOutput where
  step state operation :=
    match state.bind fun list => applyListOperation allocator list operation with
    | none => (none, [])
    | some call => (some call.list, call.freed.map .freed ++ [.returned call.result])

end SecureChat.Utils
