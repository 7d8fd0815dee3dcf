/-
This file holds the strings of the server's utilities: those that grow, the coding for URLs,
and the replacement of substrings.
-/

import Mathlib.Algebra.Group.Nat.Defs
import SecureChat.Construction.Utils.HashTable
import SecureChat.Construction.Utils.RingBuffer
import SecureChat.Library.JsonString
import SecureChat.Library.Search

namespace SecureChat.Utils
open Library

/-- Which sizes can be allocated, and what a new byte holds. -/
structure Allocation where
  succeeds : UInt64 → Bool
  arbitrary : UInt8

/-- The block of a `string_t` with its two counters. -/
structure DynamicString where
  data : List UInt8
  length : UInt64
  capacity : UInt64
  deriving DecidableEq

def sizeofString : UInt64 := 24

/-- The largest value of an `int`. -/
def intMax : Nat := 2 ^ 31 - 1

def stringCreate (allocation : Allocation) (initialCapacity : UInt64) : Option DynamicString :=
  let initialCapacity := if initialCapacity < 16 then 16 else initialCapacity
  if allocation.succeeds sizeofString ∧ allocation.succeeds initialCapacity then do
    let data ← copyInto (List.replicate initialCapacity.toNat allocation.arbitrary) 0 [0]
    some ⟨data, 0, initialCapacity⟩
  else none

def stringClear (str : DynamicString) : Option DynamicString := do
  let data ← copyInto str.data 0 [0]
  some { str with data := data, length := 0 }

/-- One turn of `while (new_capacity <= new_length)`. -/
def doubleCapacity (newLength newCapacity : UInt64) : Option (UInt64 ⊕ UInt64) :=
  if newCapacity ≤ newLength then some (.inl (newCapacity * 2)) else some (.inr newCapacity)

/-- Both append functions grow the block in this way.
There is no result if the loop does not end, and no string if the block cannot be had. -/
def growString (allocation : Allocation) (fuel : Nat) (str : DynamicString) (newLength : UInt64) :
    Option (Option DynamicString) :=
  if newLength + 1 > str.capacity then do
    let newCapacity ← loop (doubleCapacity newLength) fuel (str.capacity * 2)
    if allocation.succeeds newCapacity then
      some (some { str with
        data := realloc allocation.arbitrary str.data newCapacity.toNat
        capacity := newCapacity })
    else some none
  else some (some str)

def stringAppend (allocation : Allocation) (fuel : Nat) (str : DynamicString) (text : List UInt8) :
    Option (Int × DynamicString) := do
  let newLength := str.length + UInt64.ofNat text.length
  match ← growString allocation fuel str newLength with
  | none => some (-1, str)
  | some str =>
      let data ← copyInto str.data str.length.toNat text
      let data ← copyInto data newLength.toNat [0]
      some (0, { str with data := data, length := newLength })

/-- The bytes that `vsnprintf` writes to a buffer. -/
def printed (size : Nat) (text : List UInt8) : List UInt8 :=
  if size = 0 then [] else text.take (size - 1) ++ [0]

/-- The text is the formatted one. Its length has to fit into an `int`. -/
def stringAppendFormat (allocation : Allocation) (fuel : Nat) (str : DynamicString) (text : List UInt8) :
    Option (Int × DynamicString) := do
  if text.length > intMax then some (-1, str) else
  let newLength := str.length + UInt64.ofNat text.length
  match ← growString allocation fuel str newLength with
  | none => some (-1, str)
  | some str =>
      let data ← copyInto str.data str.length.toNat (printed (str.capacity - str.length).toNat text)
      some (0, { str with data := data, length := newLength })

/-- The string that a character and its end are. -/
def appendedChar (ch : UInt8) : List UInt8 := if ch = 0 then [] else [ch]

def stringAppendChar (allocation : Allocation) (fuel : Nat) (str : DynamicString) (ch : UInt8) :
    Option (Int × DynamicString) :=
  stringAppend allocation fuel str (appendedChar ch)

def stringGet (str : DynamicString) : List UInt8 := str.data.takeWhile (· ≠ 0)

inductive StringCall where
  | append (text : CString)
  | appendChar (ch : UInt8)
  | appendFormat (text : CString)
  | clear
  deriving DecidableEq

def StringCall.run (allocation : Allocation) (fuel : Nat) (str : DynamicString) :
    StringCall → Option (Int × DynamicString)
  | .append text => stringAppend allocation fuel str text.val
  | .appendChar ch => stringAppendChar allocation fuel str ch
  | .appendFormat text => stringAppendFormat allocation fuel str text.val
  | .clear => (stringClear str).map (0, ·)

/-- The string after several calls. -/
def runStringCalls (allocation : Allocation) (fuel : Nat) : DynamicString → List StringCall → Option DynamicString
  | str, [] => some str
  | str, call :: rest => do
      let (_, str) ← call.run allocation fuel str
      runStringCalls allocation fuel str rest

def percent : UInt8 := 0x25

def plus : UInt8 := 0x2B

def space : UInt8 := 0x20

/-- This is `isalnum` in the C locale. -/
def isAlnum (byte : UInt8) : Bool :=
  0x30 ≤ byte && byte ≤ 0x39 || 0x41 ≤ byte && byte ≤ 0x5A || 0x61 ≤ byte && byte ≤ 0x7A

/-- Letters, digits and the four marks `-`, `_`, `.` and `~`. -/
def unreserved (byte : UInt8) : Bool :=
  isAlnum byte || byte == 0x2D || byte == 0x5F || byte == 0x2E || byte == 0x7E

/-- The digits `0123456789ABCDEF`. -/
def upperHexDigit (number : UInt8) : UInt8 := if number < 10 then 0x30 + number else 0x37 + number

/-- What one character adds to the encoded string. -/
def urlEncodeByte (byte : UInt8) : List UInt8 :=
  if unreserved byte then [byte]
  else if byte = space then [plus]
  else [percent, upperHexDigit (byte >>> 4), upperHexDigit (byte &&& 15)]

/-- The byte that the two characters behind a percent sign stand for.
There is no result if one of them is read behind the end of the memory. -/
def readEscape (rest : List UInt8) : Option (Option UInt8) := do
  let first ← rest[0]?
  match hexValue first with
  | none => some none
  | some high =>
      let second ← rest[1]?
      match hexValue second with
      | none => some none
      | some low => some (some (UInt8.ofNat (high * 16 + low)))

/-- The loop over the memory from a pointer on. The first bytes belong to an escape. -/
def urlDecodeFrom : Nat → List UInt8 → Option (List UInt8)
  | _, [] => none
  | used + 1, _ :: rest => urlDecodeFrom used rest
  | 0, byte :: rest =>
      if byte = 0 then some []
      else if byte = percent then
        match readEscape rest with
        | none => none
        | some none => (urlDecodeFrom 0 rest).map (percent :: ·)
        | some (some char) => (urlDecodeFrom 2 rest).map (appendedChar char ++ ·)
      else if byte = plus then (urlDecodeFrom 0 rest).map (space :: ·)
      else (urlDecodeFrom 0 rest).map (byte :: ·)

theorem upperHexDigit_ne_zero {number : UInt8} (small : number.toNat < 16) : upperHexDigit number ≠ 0 := by
  have all : ∀ digit : Fin 16, upperHexDigit (UInt8.ofNat digit) ≠ 0 := by decide
  have digit := all ⟨number.toNat, small⟩
  rwa [UInt8.ofNat_toNat] at digit

theorem shiftRight_four_lt (byte : UInt8) : (byte >>> 4).toNat < 16 := by
  have shift : (byte >>> 4).toNat = byte.toNat >>> 4 := rfl
  have bound := byte.toNat_lt
  rw [shift, Nat.shiftRight_eq_div_pow]
  omega

theorem and_fifteen_lt (byte : UInt8) : (byte &&& 15).toNat < 16 := by
  have mask : (15 : UInt8).toNat = 2 ^ 4 - 1 := rfl
  rw [UInt8.toNat_and, mask, Nat.and_two_pow_sub_one_eq_mod]
  exact Nat.mod_lt _ (by decide)

theorem zero_notMem_urlEncodeByte {byte : UInt8} (nonzero : byte ≠ 0) : 0 ∉ urlEncodeByte byte := by
  have high := upperHexDigit_ne_zero (shiftRight_four_lt byte)
  have low := upperHexDigit_ne_zero (and_fifteen_lt byte)
  unfold urlEncodeByte
  split_ifs <;> simp [percent, plus, high.symm, low.symm, nonzero.symm]

/-- The encoded string is what the loop has appended. -/
def utilsUrlEncode (str : CString) : CString :=
  ⟨str.val.flatMap urlEncodeByte, zero_notMem_flatMap zero_notMem_urlEncodeByte str.property⟩

/-- The string is read from the memory that starts with it. -/
def utilsUrlDecode (memory : List UInt8) : Option (List UInt8) := urlDecodeFrom 0 memory

/-- The variables of the loop that counts, with the positions that it has found. -/
structure Counting where
  pos : Nat
  count : UInt64
  found : List Nat

def countTurn (str old : List UInt8) (state : Counting) : Option (Counting ⊕ UInt64 × List Nat) :=
  match firstOccurrenceFrom old str state.pos with
  | some pos => some (.inl ⟨pos + old.length, state.count + 1, state.found ++ [pos]⟩)
  | none => some (.inr (state.count, state.found))

/-- The variables of the loop that replaces, with the positions that it has found. -/
structure Replacing where
  block : List UInt8
  dest : Nat
  src : Nat
  found : List Nat

/-- A turn that writes behind the block fails. The last one is followed by the copy of the rest. -/
def replaceTurn (str old new : List UInt8) (state : Replacing) : Option (Replacing ⊕ List UInt8 × List Nat) :=
  match firstOccurrenceFrom old str state.src with
  | some pos => do
      let segment := (str.drop state.src).take (pos - state.src)
      let block ← copyInto state.block state.dest segment
      let block ← copyInto block (state.dest + segment.length) new
      some (.inl ⟨block, state.dest + segment.length + new.length, pos + old.length, state.found ++ [pos]⟩)
  | none => do
      let block ← copyInto state.block state.dest (str.drop state.src ++ [0])
      some (.inr (block, state.found))

/-- The allocated block, its size as it was asked for, and the occurrences that each loop has met. -/
structure Replacement where
  size : UInt64
  block : List UInt8
  counted : List Nat
  replaced : List Nat
  deriving DecidableEq

/-- There is no block of size zero. -/
def utilsMalloc (allocation : Allocation) (size : UInt64) : Option (List UInt8) :=
  if size ≠ 0 ∧ allocation.succeeds size then some (List.replicate size.toNat allocation.arbitrary) else none

def utilsStrdup (allocation : Allocation) (str : List UInt8) : Option (Option Replacement) :=
  let len := UInt64.ofNat str.length + 1
  match utilsMalloc allocation len with
  | none => some none
  | some block => do
      let block ← copyInto block 0 (str ++ [0])
      some (some ⟨len, block, [], []⟩)

/-- There is no result if a loop does not end or leaves the memory, and no replacement without a block. -/
def utilsStrreplace (allocation : Allocation) (fuel : Nat) (str old new : CString) : Option (Option Replacement) :=
  if old.val.length = 0 then utilsStrdup allocation str.val else do
  let (count, counted) ← loop (countTurn str.val old.val) fuel ⟨0, 0, []⟩
  let newStrLen := UInt64.ofNat str.val.length +
    count * (UInt64.ofNat new.val.length - UInt64.ofNat old.val.length)
  match utilsMalloc allocation (newStrLen + 1) with
  | none => some none
  | some result => do
      let (block, replaced) ← loop (replaceTurn str.val old.val new.val) fuel ⟨result, 0, 0, []⟩
      some (some ⟨newStrLen + 1, block, counted, replaced⟩)

end SecureChat.Utils
