/-
This file holds the hash table of the server's utilities.
-/

import SecureChat.Library.Machine
import SecureChat.Library.PointerChain

namespace SecureChat.Utils
open Library

/-- A string of C is given by the bytes in front of its end. -/
abbrev CString := { bytes : List UInt8 // 0 ∉ bytes }

/-- A string whose bytes are replaced one by one by other strings is a string. -/
theorem zero_notMem_flatMap {coding : UInt8 → List UInt8} (coded : ∀ {byte}, byte ≠ 0 → 0 ∉ coding byte)
    {bytes : List UInt8} (noZero : 0 ∉ bytes) : 0 ∉ bytes.flatMap coding := by
  rw [List.mem_flatMap]
  rintro ⟨byte, member, zero⟩
  refine coded ?_ zero
  rintro rfl
  exact noZero member

/-- The difference of the first two bytes that differ, where the end counts as zero. -/
def strcmp : List UInt8 → List UInt8 → Int
  | [], [] => 0
  | [], second :: _ => 0 - second.toNat
  | first :: _, [] => first.toNat
  | first :: rest, second :: others =>
      if first = second then strcmp rest others else first.toNat - second.toNat

/-- A node without its next pointer. A value is a pointer that may be null. -/
structure HashTableNode where
  key : CString
  value : Option Nat
  deriving DecidableEq

/-- The table and the heap that holds its nodes. The values are freed if there is a function for it. -/
structure HashTable where
  buckets : List (Option Nat)
  size : Nat
  count : Nat
  hashFunction : CString → Nat
  valueFreeFunction : Bool
  heap : Heap HashTableNode

def primes : List Nat :=
  [53, 97, 193, 389, 769, 1543, 3079, 6151, 12289, 24593, 49157, 98317, 196613, 393241]

/-- The first prime that is large enough, or the size itself. -/
def tableSize (size : Nat) : Nat := (primes.find? fun prime => size ≤ prime).getD size

/-- Characters are signed, and the sum wraps around. -/
def hashStringDjb2 (key : CString) : Nat :=
  let hashed : UInt64 := key.val.foldl (fun (hash : UInt64) (char : UInt8) =>
    ((hash <<< 5) + hash) + char.toInt8.toInt64.toUInt64) 5381
  hashed.toNat

def hashTableCreate (size : Nat) (hashFunction : Option (CString → Nat)) (valueFreeFunction : Bool) :
    HashTable where
  buckets := List.replicate (tableSize size) none
  size := tableSize size
  count := 0
  hashFunction := hashFunction.getD hashStringDjb2
  valueFreeFunction := valueFreeFunction
  heap := fun _ => none

def HashTable.index (table : HashTable) (key : CString) : Nat := table.hashFunction key % table.size

def HashTable.bucket (table : HashTable) (index : Nat) : Option Nat := (table.buckets[index]?).join

/-- A node that the loop over a bucket has found, and the one in front of it. -/
structure FoundNode where
  prev : Option Nat
  address : Nat
  cell : Cell HashTableNode

/-- The loop that the three operations share. It ends at the null pointer or at the key.
The outer result is absent when a pointer dangles or the fuel is used up. -/
def findNode (heap : Heap HashTableNode) (key : CString) :
    Nat → Option Nat → Option Nat → Option (Option FoundNode)
  | _, _, none => some none
  | 0, _, some _ => none
  | fuel + 1, prev, some address =>
      match heap address with
      | none => none
      | some cell =>
          if strcmp cell.value.key.val key.val = 0 then some (some ⟨prev, address, cell⟩)
          else findNode heap key fuel (some address) cell.next

/-- No bucket has more nodes than the table. -/
def HashTable.search (table : HashTable) (key : CString) : Option (Option FoundNode) :=
  findNode table.heap key table.count none (table.bucket (table.index key))

/-- What an operation returns to its caller. -/
inductive HashResult where
  | inserted (result : Int)
  | found (value : Option Nat)
  | removed (result : Int)
  | counted (count : Nat)
  deriving DecidableEq, Repr

/-- The calls of the free function and the result, in their order. -/
inductive HashOutput where
  | freed (value : Nat)
  | returned (result : HashResult)
  deriving DecidableEq, Repr

def freeValue (table : HashTable) (value : Option Nat) : List HashOutput :=
  if table.valueFreeFunction then value.toList.map .freed else []

/-- The table is absent after an operation has used a dangling pointer. -/
def hashTableInsert (allocator : Allocator HashTableNode) (table : HashTable) (key : Option CString)
    (value : Option Nat) (seed : Nat) : Option HashTable × List HashOutput :=
  match key with
  | none => (some table, [.returned (.inserted (-1))])
  | some key =>
      match table.search key with
      | none => (none, [])
      | some (some node) =>
          let updated := { node.cell with value := { node.cell.value with value := value } }
          (some { table with heap := Function.update table.heap node.address (some updated) },
            freeValue table node.cell.value.value ++ [.returned (.inserted 0)])
      | some none =>
          match allocator.malloc seed table.heap with
          | none => (some table, [.returned (.inserted (-1))])
          | some address =>
              let index := table.index key
              (some { table with
                heap := Function.update table.heap address (some ⟨⟨key, value⟩, table.bucket index⟩)
                buckets := table.buckets.set index (some address)
                count := table.count + 1 }, [.returned (.inserted 0)])

def hashTableLookup (table : HashTable) (key : Option CString) : Option HashTable × List HashOutput :=
  match key with
  | none => (some table, [.returned (.found none)])
  | some key =>
      match table.search key with
      | none => (none, [])
      | some (some node) => (some table, [.returned (.found node.cell.value.value)])
      | some none => (some table, [.returned (.found none)])

/-- The node is unlinked behind the one in front of it, or at the head of its bucket. -/
def unlinkNode (table : HashTable) (index : Nat) (node : FoundNode) : Option HashTable :=
  match node.prev with
  | none => some { table with buckets := table.buckets.set index node.cell.next }
  | some prev =>
      (table.heap prev).map fun cell =>
        { table with heap := Function.update table.heap prev (some { cell with next := node.cell.next }) }

def hashTableRemove (table : HashTable) (key : Option CString) : Option HashTable × List HashOutput :=
  match key with
  | none => (some table, [.returned (.removed (-1))])
  | some key =>
      match table.search key with
      | none => (none, [])
      | some none => (some table, [.returned (.removed (-1))])
      | some (some node) =>
          match unlinkNode table (table.index key) node with
          | none => (none, [])
          | some unlinked =>
              (some { unlinked with
                heap := Function.update unlinked.heap node.address none
                count := unlinked.count - 1 },
                freeValue table node.cell.value.value ++ [.returned (.removed 0)])

inductive HashOperation where
  | insert (key : Option CString) (value : Option Nat) (seed : Nat)
  | lookup (key : Option CString)
  | remove (key : Option CString)
  | count
  deriving DecidableEq

def hashMachine (allocator : Allocator HashTableNode) :
    Machine (Option HashTable) HashOperation HashOutput where
  step state operation :=
    match state with
    | none => (none, [])
    | some table =>
        match operation with
        | .insert key value seed => hashTableInsert allocator table key value seed
        | .lookup key => hashTableLookup table key
        | .remove key => hashTableRemove table key
        | .count => (some table, [.returned (.counted table.count)])

end SecureChat.Utils
