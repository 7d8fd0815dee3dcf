import Mathlib.Data.List.Basic
import Mathlib.Tactic.Common

namespace SecureChat.Library.Base64

def alphabet : List Char :=
  ['A', 'B', 'C', 'D', 'E', 'F', 'G', 'H', 'I', 'J', 'K', 'L', 'M', 'N', 'O', 'P',
    'Q', 'R', 'S', 'T', 'U', 'V', 'W', 'X', 'Y', 'Z', 'a', 'b', 'c', 'd', 'e', 'f',
    'g', 'h', 'i', 'j', 'k', 'l', 'm', 'n', 'o', 'p', 'q', 'r', 's', 't', 'u', 'v',
    'w', 'x', 'y', 'z', '0', '1', '2', '3', '4', '5', '6', '7', '8', '9', '+', '/']

def digitChar (digit : Nat) : Char := alphabet.getD digit 'A'

def charDigit (char : Char) : Option Nat := if char ∈ alphabet then some (alphabet.idxOf char) else none

/-- The digits of six bits that bytes are cut into. -/
def digits : List UInt8 → List Nat
  | [] => []
  | [a] => [a.toNat / 4, a.toNat % 4 * 16]
  | [a, b] => [a.toNat / 4, a.toNat % 4 * 16 + b.toNat / 16, b.toNat % 16 * 4]
  | a :: b :: c :: rest =>
      a.toNat / 4 :: (a.toNat % 4 * 16 + b.toNat / 16) :: (b.toNat % 16 * 4 + c.toNat / 64) :: c.toNat % 64 ::
        digits rest

/-- The bytes of a list of digits, without bits that fill no byte. -/
def bytes : List Nat → List UInt8
  | a :: b :: c :: d :: rest =>
      UInt8.ofNat (a * 4 + b / 16) :: UInt8.ofNat (b % 16 * 16 + c / 4) :: UInt8.ofNat (c % 4 * 64 + d) :: bytes rest
  | [a, b, c] => [UInt8.ofNat (a * 4 + b / 16), UInt8.ofNat (b % 16 * 16 + c / 4)]
  | [a, b] => [UInt8.ofNat (a * 4 + b / 16)]
  | _ => []

/-- How many signs fill the last group of four. -/
def padding (data : List UInt8) : Nat := (3 - data.length % 3) % 3

/-- `btoa`. -/
def encode (data : List UInt8) : List Char := (digits data).map digitChar ++ List.replicate (padding data) '='

def isSpace (char : Char) : Bool := char ∈ ['\t', '\n', '\x0c', '\r', ' ']

/-- At most two signs at the end of whole groups are left out. -/
def unpad (text : List Char) : List Char :=
  if text.length % 4 = 0 then
    if text.drop (text.length - 2) = ['=', '='] then text.take (text.length - 2)
    else if text.drop (text.length - 1) = ['='] then text.take (text.length - 1)
    else text
  else text

/-- `atob`, with nothing for a text that it refuses. -/
def decode (text : List Char) : Option (List UInt8) :=
  let stripped := unpad (text.filter fun char => !isSpace char)
  if stripped.length % 4 = 1 then none else (stripped.mapM charDigit).map bytes

theorem charDigit_digitChar {digit : Nat} (small : digit < 64) : charDigit (digitChar digit) = some digit := by
  have all : ∀ digit < 64, charDigit (digitChar digit) = some digit := by decide +kernel
  exact all digit small

theorem digitChar_mem (digit : Nat) : digitChar digit ∈ alphabet := by
  rw [digitChar, List.getD_eq_getElem?_getD]
  cases found : alphabet[digit]? with
  | none => decide +kernel
  | some char => exact List.mem_of_getElem? found

/-- No digit is a space or a filling sign. -/
theorem digitChar_plain (digit : Nat) : isSpace (digitChar digit) = false ∧ digitChar digit ≠ '=' := by
  have all : ∀ char ∈ alphabet, isSpace char = false ∧ char ≠ '=' := by
    have checked : alphabet.all (fun char => !isSpace char && char != '=') = true := by decide +kernel
    simpa using checked
  exact all _ (digitChar_mem digit)

theorem digits_lt (data : List UInt8) : ∀ digit ∈ digits data, digit < 64 := by
  fun_induction digits data with
  | case1 => simp
  | case2 a =>
      have first := a.toNat_lt
      simp
      omega
  | case3 a b =>
      have first := a.toNat_lt
      have second := b.toNat_lt
      simp
      omega
  | case4 a b c rest ih =>
      have first := a.toNat_lt
      have second := b.toNat_lt
      have third := c.toNat_lt
      simp only [List.mem_cons, forall_eq_or_imp]
      exact ⟨by omega, by omega, by omega, by omega, ih⟩

theorem ofNat_eq {value : Nat} {byte : UInt8} (same : value = byte.toNat) : UInt8.ofNat value = byte := by
  rw [same, UInt8.ofNat_toNat]

/-- The bytes come back from their digits. -/
theorem bytes_digits (data : List UInt8) : bytes (digits data) = data := by
  fun_induction digits data with
  | case1 => rfl
  | case2 a => rw [bytes, ofNat_eq (by omega : _ = a.toNat)]
  | case3 a b =>
      have second := b.toNat_lt
      rw [bytes, ofNat_eq (by omega : _ = a.toNat), ofNat_eq (by omega : _ = b.toNat)]
  | case4 a b c rest ih =>
      have second := b.toNat_lt
      have third := c.toNat_lt
      rw [bytes, ofNat_eq (by omega : _ = a.toNat), ofNat_eq (by omega : _ = b.toNat),
        ofNat_eq (by omega : _ = c.toNat), ih]

theorem length_digits (data : List UInt8) : ((digits data).length + padding data) % 4 = 0 ∧ padding data ≤ 2 := by
  have whole : ((digits data).length + padding data) % 4 = 0 := by
    fun_induction digits data with
    | case1 => rfl
    | case2 a => simp [padding]
    | case3 a b => simp [padding]
    | case4 a b c rest ih =>
        simp only [padding, List.length_cons] at ih ⊢
        omega
  exact ⟨whole, by unfold padding; omega⟩

/-- The filling signs of a text are left out. -/
theorem unpad_append {text : List Char} {count : Nat} (plain : '=' ∉ text)
    (whole : (text.length + count) % 4 = 0) (few : count ≤ 2) : unpad (text ++ List.replicate count '=') = text := by
  have absent : ∀ (size : Nat) (rest : List Char), text.drop size = '=' :: rest → False := by
    intro size rest same
    exact plain (List.mem_of_mem_drop (same ▸ List.mem_cons_self))
  obtain rfl | rfl | rfl : count = 0 ∨ count = 1 ∨ count = 2 := by omega
  · rw [List.replicate_zero, List.append_nil, unpad, if_pos (by simpa using whole), if_neg (absent _ _),
      if_neg (absent _ _)]
  · have nonempty : 0 < text.length := by omega
    have two : (text ++ ['=']).drop ((text ++ ['=']).length - 2) ≠ ['=', '='] := by
      intro same
      rw [List.length_append, List.length_singleton, List.drop_append_of_le_length (by omega)] at same
      cases last : text.drop (text.length + 1 - 2) with
      | nil =>
          have none := congrArg List.length last
          simp only [List.length_drop, List.length_nil] at none
          omega
      | cons char rest =>
          rw [last, List.cons_append, List.cons.injEq] at same
          exact absent _ rest (same.1 ▸ last)
    rw [List.replicate_one, unpad, if_pos (by simpa using whole), if_neg two]
    simp
  · rw [unpad, if_pos (by simpa using whole)]
    simp

theorem mapM_charDigit {values : List Nat} (small : ∀ digit ∈ values, digit < 64) :
    (values.map digitChar).mapM charDigit = some values := by
  induction values with
  | nil => rfl
  | cons digit values ih =>
      have first := charDigit_digitChar (small digit List.mem_cons_self)
      have later := ih fun digit member => small digit (List.mem_cons_of_mem _ member)
      rw [List.map_cons, List.mapM_cons, first, later]
      rfl

/-- Bytes are read back from their text. -/
theorem decode_encode (data : List UInt8) : decode (encode data) = some data := by
  obtain ⟨whole, few⟩ := length_digits data
  have plain : '=' ∉ (digits data).map digitChar := by
    intro member
    obtain ⟨digit, -, same⟩ := List.mem_map.mp member
    exact (digitChar_plain digit).2 same
  have kept : (encode data).filter (fun char => !isSpace char) = encode data := by
    rw [List.filter_eq_self]
    intro char member
    rcases List.mem_append.mp member with digit | fill
    · obtain ⟨value, -, rfl⟩ := List.mem_map.mp digit
      rw [(digitChar_plain value).1]
      rfl
    · rw [List.eq_of_mem_replicate fill]
      decide
  have read := mapM_charDigit (digits_lt data)
  have size : ((digits data).map digitChar).length % 4 ≠ 1 := by
    rw [List.length_map]
    omega
  rw [decode, kept, encode, unpad_append plain (by rwa [List.length_map]) few]
  rw [if_neg size, read, Option.map_some, bytes_digits]

end SecureChat.Library.Base64
