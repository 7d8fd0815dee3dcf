/-
This file holds the ring buffer of the server's utilities.
-/

import SecureChat.Library.Machine
import SecureChat.Library.Memory

namespace SecureChat.Utils
open Library

/-- The capacity is the size of an allocated block, so no sum of two positions wraps around. -/
structure RingBuffer where
  buffer : List UInt8
  capacity : Nat
  head : Nat
  tail : Nat
  size : Nat
  overwrite : Bool
  deriving DecidableEq

/-- The allocated bytes hold arbitrary values. -/
def ringBufferCreate (buffer : List UInt8) (overwrite : Bool) : RingBuffer where
  buffer := buffer
  capacity := buffer.length
  head := 0
  tail := 0
  size := 0
  overwrite := overwrite

/-- A copy out of a block is absent when it leaves the block. -/
def copyFrom (block : List UInt8) (offset count : Nat) : Option (List UInt8) :=
  if offset + count ≤ block.length then some ((block.drop offset).take count) else none

/-- A copy into a block is absent when it leaves the block. -/
def copyInto (block : List UInt8) (offset : Nat) (source : List UInt8) : Option (List UInt8) :=
  if offset + source.length ≤ block.length then some (memcpy block offset source) else none

/-- The head moves behind the written bytes, and the tail moves in front of the oldest byte that is left. -/
def RingBuffer.advance (rb : RingBuffer) (writeSize : Nat) : RingBuffer :=
  if rb.size + writeSize > rb.capacity then
    { rb with
      head := (rb.head + writeSize) % rb.capacity
      tail := (rb.tail + (rb.size + writeSize - rb.capacity)) % rb.capacity
      size := rb.capacity }
  else { rb with head := (rb.head + writeSize) % rb.capacity, size := rb.size + writeSize }

/-- The loop of a write. The result is absent when a copy leaves a block or the fuel is used up. -/
def writeLoop (src : List UInt8) (size : Nat) : Nat → RingBuffer → Nat → Option (RingBuffer × Nat)
  | fuel, rb, bytesWritten =>
      if bytesWritten < size then
        match fuel with
        | 0 => none
        | fuel + 1 =>
            let spaceToEnd := rb.capacity - rb.head
            let writeSize :=
              if size - bytesWritten < spaceToEnd then size - bytesWritten else spaceToEnd
            match copyFrom src bytesWritten writeSize with
            | none => none
            | some chunk =>
                match copyInto rb.buffer rb.head chunk with
                | none => none
                | some buffer =>
                    writeLoop src size fuel (RingBuffer.advance { rb with buffer := buffer } writeSize)
                      (bytesWritten + writeSize)
      else some (rb, bytesWritten)

/-- The data may be the null pointer. Each round of the loop copies a byte or more. -/
def ringBufferWrite (rb : RingBuffer) (data : Option (List UInt8)) : Option (RingBuffer × Nat) :=
  match data with
  | none => some (rb, 0)
  | some src =>
      if src.length = 0 then some (rb, 0)
      else
        let freeSpace := rb.capacity - rb.size
        let size := if rb.overwrite = false ∧ src.length > freeSpace then freeSpace else src.length
        writeLoop src size size rb 0

/-- The tail that a reading loop has reached and the bytes that it has copied. -/
structure ReadCursor where
  tail : Nat
  bytesRead : Nat
  dst : List UInt8

/-- The loop that read and peek share, on the tail of the buffer or on a copy of it. -/
def readLoop (rb : RingBuffer) (size : Nat) : Nat → ReadCursor → Option ReadCursor
  | fuel, cursor =>
      if cursor.bytesRead < size then
        match fuel with
        | 0 => none
        | fuel + 1 =>
            let spaceToEnd :=
              if rb.head > cursor.tail then rb.head - cursor.tail else rb.capacity - cursor.tail
            let readSize :=
              if size - cursor.bytesRead < spaceToEnd then size - cursor.bytesRead else spaceToEnd
            match copyFrom rb.buffer cursor.tail readSize with
            | none => none
            | some chunk =>
                readLoop rb size fuel
                  ⟨(cursor.tail + readSize) % rb.capacity, cursor.bytesRead + readSize, cursor.dst ++ chunk⟩
      else some cursor

/-- The bytes that a reader gets, at most as many as there are. -/
def readBytes (rb : RingBuffer) (size : Nat) : Option ReadCursor :=
  let size := if size > rb.size then rb.size else size
  readLoop rb size size ⟨rb.tail, 0, []⟩

/-- The result of a write is a count. The other results hold the copied bytes too. -/
inductive RingResult where
  | written (count : Nat)
  | read (count : Nat) (bytes : List UInt8)
  | peeked (count : Nat) (bytes : List UInt8)
  deriving DecidableEq, Repr

/-- The destination may be the null pointer. -/
def ringBufferRead (rb : RingBuffer) (data : Bool) (size : Nat) : Option (RingBuffer × RingResult) :=
  if data = false ∨ size = 0 then some (rb, .read 0 [])
  else
    match readBytes rb size with
    | none => none
    | some cursor =>
        some ({ rb with tail := cursor.tail, size := rb.size - cursor.bytesRead },
          .read cursor.bytesRead cursor.dst)

def ringBufferPeek (rb : RingBuffer) (data : Bool) (size : Nat) : Option (RingBuffer × RingResult) :=
  if data = false ∨ size = 0 then some (rb, .peeked 0 [])
  else
    match readBytes rb size with
    | none => none
    | some cursor => some (rb, .peeked cursor.bytesRead cursor.dst)

inductive RingOperation where
  | write (data : Option (List UInt8))
  | read (data : Bool) (size : Nat)
  | peek (data : Bool) (size : Nat)
  deriving DecidableEq

def applyOperation (rb : RingBuffer) : RingOperation → Option (RingBuffer × RingResult)
  | .write data => (ringBufferWrite rb data).map fun result => (result.1, .written result.2)
  | .read data size => ringBufferRead rb data size
  | .peek data size => ringBufferPeek rb data size

/-- The buffer is absent after a copy has left a block or a loop has not ended. -/
def ringMachine : Machine (Option RingBuffer) RingOperation RingResult where
  step state operation :=
    match state.bind fun rb => applyOperation rb operation with
    | none => (none, [])
    | some result => (some result.1, [result.2])

end SecureChat.Utils
