/-
This file escapes strings for JSON and takes the escapes back.
-/

import SecureChat.Construction.Utils.HashTable
import SecureChat.Library.JsonString

namespace SecureChat.Utils
open Library

/-- The digits of `%04x` for a number below sixteen. -/
def lowerHexDigit (number : UInt8) : UInt8 := if number < 10 then 0x30 + number else 0x57 + number

/-- What one character adds to the escaped string. -/
def jsonEscapeByte (byte : UInt8) : List UInt8 :=
  if byte = 0x22 then [backslash, 0x22]
  else if byte = 0x5C then [backslash, 0x5C]
  else if byte = 0x08 then [backslash, 0x62]
  else if byte = 0x0C then [backslash, 0x66]
  else if byte = 0x0A then [backslash, 0x6E]
  else if byte = 0x0D then [backslash, 0x72]
  else if byte = 0x09 then [backslash, 0x74]
  else if byte < 0x20 then
    [backslash, 0x75, 0x30, 0x30, lowerHexDigit (byte / 16), lowerHexDigit (byte % 16)]
  else [byte]

/-- What stands for a letter behind a backslash. -/
def shortEscape (letter : UInt8) : Option UInt8 :=
  if letter = 0x22 then some 0x22
  else if letter = 0x5C then some 0x5C
  else if letter = 0x2F then some 0x2F
  else if letter = 0x62 then some 0x08
  else if letter = 0x66 then some 0x0C
  else if letter = 0x6E then some 0x0A
  else if letter = 0x72 then some 0x0D
  else if letter = 0x74 then some 0x09
  else none

/-- The number of the four hexadecimal digits that come next. -/
def readHexCode : List UInt8 → Option Nat
  | first :: second :: third :: fourth :: _ => do
      let first ← hexValue first
      let second ← hexValue second
      let third ← hexValue third
      let fourth ← hexValue fourth
      return ((first * 16 + second) * 16 + third) * 16 + fourth
  | _ => none

/-- The bytes that `string_append_char` appends. A zero byte is the end of an empty string. -/
def unicodeBytes (code : Nat) : List UInt8 :=
  if code = 0 then []
  else if code ≤ 0x7F then [UInt8.ofNat code]
  else if code ≤ 0x7FF then [UInt8.ofNat (0xC0 ||| (code >>> 6)), UInt8.ofNat (0x80 ||| (code &&& 0x3F))]
  else [UInt8.ofNat (0xE0 ||| (code >>> 12)), UInt8.ofNat (0x80 ||| ((code >>> 6) &&& 0x3F)),
    UInt8.ofNat (0x80 ||| (code &&& 0x3F))]

/-- What a letter behind a backslash adds, and how many bytes behind it are used up.
An unknown escape stands for itself. -/
def jsonEscapeValue (letter : UInt8) (tail : List UInt8) : List UInt8 × Nat :=
  match shortEscape letter with
  | some char => ([char], 0)
  | none =>
      if letter = 0x75 then
        match readHexCode tail with
        | some code => (unicodeBytes code, 4)
        | none => ([backslash, letter], 0)
      else ([backslash, letter], 0)

/-- The first bytes belong to an escape. A backslash at the end stands for itself. -/
def jsonUnescapeFrom : Nat → List UInt8 → List UInt8
  | _, [] => []
  | used + 1, _ :: rest => jsonUnescapeFrom used rest
  | 0, byte :: rest =>
      if byte = backslash then
        match rest with
        | [] => [backslash]
        | letter :: tail => (jsonEscapeValue letter tail).1 ++ jsonUnescapeFrom (jsonEscapeValue letter tail).2 tail
      else byte :: jsonUnescapeFrom 0 rest

theorem jsonUnescapeFrom_escape (letter : UInt8) (tail : List UInt8) :
    jsonUnescapeFrom 0 (backslash :: letter :: tail) =
      (jsonEscapeValue letter tail).1 ++ jsonUnescapeFrom (jsonEscapeValue letter tail).2 tail := by
  rw [jsonUnescapeFrom.eq_def]
  dsimp only
  rw [if_pos rfl]

theorem jsonUnescapeFrom_plain {byte : UInt8} (noBackslash : byte ≠ backslash) (rest : List UInt8) :
    jsonUnescapeFrom 0 (byte :: rest) = byte :: jsonUnescapeFrom 0 rest := by
  rw [jsonUnescapeFrom.eq_def]
  dsimp only
  rw [if_neg noBackslash]

theorem lowerHexDigit_ne_zero {number : UInt8} (small : number.toNat < 16) : lowerHexDigit number ≠ 0 := by
  have all : ∀ digit : Fin 16, lowerHexDigit (UInt8.ofNat digit) ≠ 0 := by decide
  have digit := all ⟨number.toNat, small⟩
  rwa [UInt8.ofNat_toNat] at digit

theorem zero_notMem_jsonEscapeByte {byte : UInt8} (nonzero : byte ≠ 0) : 0 ∉ jsonEscapeByte byte := by
  have high : lowerHexDigit (byte / 16) ≠ 0 := by
    refine lowerHexDigit_ne_zero ?_
    have bound := byte.toNat_lt
    rw [UInt8.toNat_div]
    exact Nat.div_lt_of_lt_mul bound
  have low : lowerHexDigit (byte % 16) ≠ 0 := by
    refine lowerHexDigit_ne_zero ?_
    rw [UInt8.toNat_mod]
    exact Nat.mod_lt _ (by decide)
  unfold jsonEscapeByte
  split_ifs <;> simp [backslash, high.symm, low.symm, nonzero.symm]

/-- A byte with a high bit is not the end of a string. -/
theorem ofNat_or_ne_zero {high : Nat} (set : high.testBit 7 = true) (low : Nat) :
    UInt8.ofNat (high ||| low) ≠ 0 := by
  intro zero
  have bit : (UInt8.ofNat (high ||| low)).toNat.testBit 7 = true := by
    rw [UInt8.toNat_ofNat', Nat.testBit_mod_two_pow, Nat.testBit_or, set]
    rfl
  rw [zero] at bit
  exact absurd bit (by decide)

theorem zero_notMem_unicodeBytes (code : Nat) : 0 ∉ unicodeBytes code := by
  have leading (high : Nat) (set : high.testBit 7 = true) (low : Nat) : 0 ≠ UInt8.ofNat (high ||| low) :=
    (ofNat_or_ne_zero set low).symm
  have following (low : Nat) : 0 ≠ UInt8.ofNat (0x80 ||| low) := leading 0x80 (by decide) low
  unfold unicodeBytes
  split_ifs with none ascii short
  · exact List.not_mem_nil
  · rw [List.mem_singleton]
    intro zero
    have value := congrArg UInt8.toNat zero
    rw [UInt8.toNat_ofNat', Nat.mod_eq_of_lt (by omega)] at value
    exact none value.symm
  · simp only [List.mem_cons, List.not_mem_nil, or_false, not_or]
    exact ⟨leading 0xC0 (by decide) _, following _⟩
  · simp only [List.mem_cons, List.not_mem_nil, or_false, not_or]
    exact ⟨leading 0xE0 (by decide) _, following _, following _⟩

theorem zero_notMem_jsonEscapeValue {letter : UInt8} (nonzero : letter ≠ 0) (tail : List UInt8) :
    0 ∉ (jsonEscapeValue letter tail).1 := by
  have itself : 0 ∉ [backslash, letter] := by simp [backslash, nonzero.symm]
  unfold jsonEscapeValue
  split
  · rename_i char known
    rw [List.mem_singleton]
    rintro rfl
    unfold shortEscape at known
    split_ifs at known
    all_goals exact absurd known (by decide)
  · split
    · split
      · exact zero_notMem_unicodeBytes _
      · exact itself
    · exact itself

theorem zero_notMem_jsonUnescapeFrom (used : Nat) {bytes : List UInt8} (noZero : 0 ∉ bytes) :
    0 ∉ jsonUnescapeFrom used bytes := by
  induction used, bytes using jsonUnescapeFrom.induct with
  | case1 used =>
      unfold jsonUnescapeFrom
      exact List.not_mem_nil
  | case2 used byte rest ih =>
      rw [jsonUnescapeFrom]
      exact ih (List.not_mem_of_not_mem_cons noZero)
  | case3 => simp [jsonUnescapeFrom, backslash]
  | case4 letter tail ih =>
      have behind := List.not_mem_of_not_mem_cons noZero
      rw [jsonUnescapeFrom_escape, List.mem_append, not_or]
      exact ⟨zero_notMem_jsonEscapeValue (List.ne_of_not_mem_cons behind).symm tail,
        ih (List.not_mem_of_not_mem_cons behind)⟩
  | case5 byte rest noBackslash ih =>
      rw [jsonUnescapeFrom_plain noBackslash, List.mem_cons, not_or]
      exact ⟨List.ne_of_not_mem_cons noZero, ih (List.not_mem_of_not_mem_cons noZero)⟩

/-- The escaped string is what the loop has appended. -/
def utilsJsonEscape (str : CString) : CString :=
  ⟨str.val.flatMap jsonEscapeByte, zero_notMem_flatMap zero_notMem_jsonEscapeByte str.property⟩

def utilsJsonUnescape (str : CString) : CString :=
  ⟨jsonUnescapeFrom 0 str.val, zero_notMem_jsonUnescapeFrom 0 str.property⟩

end SecureChat.Utils
