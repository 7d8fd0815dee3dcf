import Mathlib.Algebra.Group.Int.Defs
import Mathlib.Algebra.Group.Nat.Defs
import Mathlib.Data.List.Basic
import Mathlib.Tactic.Common

namespace SecureChat.Library

/-- The low bytes of a number, the least significant byte first. -/
def littleEndian : Nat → Nat → List UInt8
  | 0, _ => []
  | width + 1, value => UInt8.ofNat value :: littleEndian width (value / 256)

/-- The low bytes of a number in network order. -/
def bigEndian (width value : Nat) : List UInt8 := (littleEndian width value).reverse

def littleEndianValue : List UInt8 → Nat
  | [] => 0
  | byte :: rest => byte.toNat + 256 * littleEndianValue rest

/-- The number that bytes in network order stand for. -/
def bigEndianValue (bytes : List UInt8) : Nat := littleEndianValue bytes.reverse

@[simp] theorem littleEndian_length (width value : Nat) :
    (littleEndian width value).length = width := by
  induction width generalizing value with
  | zero => rfl
  | succ width ih => simp [littleEndian, ih]

@[simp] theorem bigEndian_length (width value : Nat) : (bigEndian width value).length = width := by
  simp [bigEndian]

theorem littleEndianValue_littleEndian (width value : Nat) (fits : value < 256 ^ width) :
    littleEndianValue (littleEndian width value) = value := by
  induction width generalizing value with
  | zero =>
      simp only [Nat.pow_zero, Nat.lt_one_iff] at fits
      simp [littleEndian, littleEndianValue, fits]
  | succ width ih =>
      have quotient : value / 256 < 256 ^ width := by
        rw [Nat.pow_succ] at fits
        omega
      rw [littleEndian, littleEndianValue, ih _ quotient, UInt8.toNat_ofNat']
      omega

/-- Network order loses nothing of a number that fits its width. -/
theorem bigEndianValue_bigEndian (width value : Nat) (fits : value < 256 ^ width) :
    bigEndianValue (bigEndian width value) = value := by
  rw [bigEndianValue, bigEndian, List.reverse_reverse]
  exact littleEndianValue_littleEndian width value fits

/-- Bytes are the number that they stand for. -/
theorem littleEndian_littleEndianValue (bytes : List UInt8) :
    littleEndian bytes.length (littleEndianValue bytes) = bytes := by
  induction bytes with
  | nil => rfl
  | cons byte rest ih =>
      have small := byte.toNat_lt
      have low : UInt8.ofNat (byte.toNat + 256 * littleEndianValue rest) = byte := by
        rw [← UInt8.toNat_inj, UInt8.toNat_ofNat']
        omega
      have high : (byte.toNat + 256 * littleEndianValue rest) / 256 = littleEndianValue rest := by omega
      rw [List.length_cons, littleEndianValue, littleEndian, low, high, ih]

theorem littleEndianValue_lt (bytes : List UInt8) : littleEndianValue bytes < 256 ^ bytes.length := by
  induction bytes with
  | nil => exact Nat.one_pos
  | cons byte rest ih =>
      have small := byte.toNat_lt
      rw [littleEndianValue, List.length_cons, Nat.pow_succ]
      omega

/-- A number in network order fits the width of its bytes. -/
theorem bigEndianValue_lt (bytes : List UInt8) : bigEndianValue bytes < 256 ^ bytes.length := by
  rw [← bytes.length_reverse]
  exact littleEndianValue_lt bytes.reverse

/-- Bytes stand for a number of their width exactly when they are its bytes. -/
theorem bigEndianValue_eq_iff (bytes : List UInt8) (value : Nat) (fits : value < 256 ^ bytes.length) :
    bigEndianValue bytes = value ↔ bytes = bigEndian bytes.length value := by
  constructor
  · intro same
    have written := littleEndian_littleEndianValue bytes.reverse
    rw [← same, bigEndian, bigEndianValue, ← bytes.length_reverse, written, List.reverse_reverse]
  · intro same
    rw [same, bigEndianValue_bigEndian _ _ fits]

/-- The bytes of an integer in network order, reduced to their width. -/
def uintBytes (width : Nat) (value : Int) : List UInt8 := bigEndian width (value % 256 ^ width).toNat

/-- The bytes from one position up to another one, cut to the buffer. -/
def sliceBytes (first last : Nat) (buffer : List UInt8) : List UInt8 := (buffer.drop first).take (last - first)

/-- A write outside of the buffer is an error. -/
def setBytes (offset : Nat) (bytes buffer : List UInt8) : Option (List UInt8) :=
  if offset + bytes.length ≤ buffer.length then
    some (buffer.take offset ++ bytes ++ buffer.drop (offset + bytes.length))
  else none

def setUint (width offset : Nat) (value : Int) (buffer : List UInt8) : Option (List UInt8) :=
  setBytes offset (uintBytes width value) buffer

/-- A read outside of the buffer is an error. -/
def getUint (width offset : Nat) (buffer : List UInt8) : Option Nat :=
  if offset + width ≤ buffer.length then some (bigEndianValue (sliceBytes offset (offset + width) buffer))
  else none

/-- Fields are written one behind the other. -/
def writeFields : Nat → List (List UInt8) → List UInt8 → Option (List UInt8)
  | _, [], buffer => some buffer
  | offset, field :: fields, buffer =>
      (setBytes offset field buffer).bind (writeFields (offset + field.length) fields)

@[simp] theorem uintBytes_length (width : Nat) (value : Int) : (uintBytes width value).length = width :=
  bigEndian_length _ _

/-- An integer that fits its width is written as it is. -/
theorem uintBytes_of_fits (width value : Nat) (fits : value < 256 ^ width) :
    uintBytes width value = bigEndian width value := by
  have power : ((256 ^ width : Nat) : Int) = 256 ^ width := Int.natCast_pow 256 width
  rw [uintBytes, ← power, ← Int.natCast_emod, Int.toNat_natCast, Nat.mod_eq_of_lt fits]

/-- What is read back of any integer is its residue. -/
theorem bigEndianValue_uintBytes_mod (width : Nat) (value : Int) :
    (bigEndianValue (uintBytes width value) : Int) = value % 256 ^ width := by
  have power : ((256 ^ width : Nat) : Int) = 256 ^ width := Int.natCast_pow 256 width
  have positive : (0 : Int) < 256 ^ width := Int.pow_pos (by decide)
  have nonneg := Int.emod_nonneg value (Int.ne_of_gt positive)
  have small := Int.emod_lt_of_pos value positive
  rw [uintBytes, bigEndianValue_bigEndian]
  · exact Int.toNat_of_nonneg nonneg
  · rw [← Int.ofNat_lt, Int.toNat_of_nonneg nonneg, power]
    exact small

/-- Bytes that were read as a number are written again as they were. -/
theorem uintBytes_bigEndianValue (bytes : List UInt8) :
    uintBytes bytes.length (bigEndianValue bytes) = bytes := by
  rw [uintBytes_of_fits _ _ (bigEndianValue_lt bytes), bigEndian, bigEndianValue]
  have written := littleEndian_littleEndianValue bytes.reverse
  rw [List.length_reverse] at written
  rw [written, List.reverse_reverse]

/-- A write at the end of what was written continues it. -/
theorem setBytes_continue (done bytes rest : List UInt8) (fits : bytes.length ≤ rest.length) :
    setBytes done.length bytes (done ++ rest) = some (done ++ bytes ++ rest.drop bytes.length) := by
  rw [setBytes, if_pos, List.take_left, List.drop_length_add_append]
  rw [List.length_append]
  omega

/-- A write puts new bytes in the place of old ones. -/
theorem setBytes_replace (front old bytes back : List UInt8) (offset : Nat) (start : front.length = offset)
    (size : bytes.length = old.length) :
    setBytes offset bytes (front ++ old ++ back) = some (front ++ bytes ++ back) := by
  obtain rfl := start
  have fits : bytes.length ≤ (old ++ back).length := by
    rw [size, List.length_append]
    exact Nat.le_add_right ..
  rw [List.append_assoc, setBytes_continue front bytes (old ++ back) fits, size, List.drop_left]

theorem writeFields_continue (fields : List (List UInt8)) (done rest : List UInt8)
    (fits : fields.flatten.length ≤ rest.length) :
    writeFields done.length fields (done ++ rest) =
      some (done ++ fields.flatten ++ rest.drop fields.flatten.length) := by
  induction fields generalizing done rest with
  | nil => simp [writeFields]
  | cons field fields ih =>
      rw [List.flatten_cons, List.length_append] at fits
      have later := ih (done ++ field) (rest.drop field.length) (by rw [List.length_drop]; omega)
      rw [List.length_append] at later
      rw [writeFields, setBytes_continue done field rest (by omega), Option.bind_some, later,
        List.flatten_cons, List.length_append, List.drop_drop, List.append_assoc done field]

/-- Fields that fit a zeroed buffer fill it from its start. -/
theorem writeFields_zero (fields : List (List UInt8)) (size : Nat) (fits : fields.flatten.length ≤ size) :
    writeFields 0 fields (List.replicate size 0) =
      some (fields.flatten ++ List.replicate (size - fields.flatten.length) 0) := by
  have written := writeFields_continue fields [] (List.replicate size 0) (by rwa [List.length_replicate])
  rwa [List.nil_append, List.nil_append, List.drop_replicate] at written

/-- Fields that do not fit make an error. -/
theorem writeFields_overflow (fields : List (List UInt8)) (offset : Nat) (buffer : List UInt8)
    (some_field : fields.flatten ≠ []) (long : buffer.length < offset + fields.flatten.length) :
    writeFields offset fields buffer = none := by
  induction fields generalizing offset buffer with
  | nil => exact absurd rfl some_field
  | cons field fields ih =>
      rw [List.flatten_cons, List.length_append] at long
      rw [writeFields]
      by_cases inside : offset + field.length ≤ buffer.length
      · have size : (buffer.take offset ++ field ++ buffer.drop (offset + field.length)).length =
            buffer.length := by
          simp only [List.length_append, List.length_take, List.length_drop]
          omega
        have rest : fields.flatten ≠ [] := by
          intro empty
          rw [empty, List.length_nil] at long
          omega
        rw [setBytes, if_pos inside, Option.bind_some]
        exact ih _ _ rest (by rw [size]; omega)
      · rw [setBytes, if_neg inside]
        rfl

/-- A field is found behind the fields in front of it. -/
theorem sliceBytes_field (front field back : List UInt8) (first last : Nat) (start : front.length = first)
    (size : first + field.length = last) : sliceBytes first last (front ++ field ++ back) = field := by
  obtain rfl := start
  obtain rfl := size
  rw [sliceBytes, List.append_assoc, List.drop_left, Nat.add_sub_cancel_left, List.take_left]

theorem getUint_field (front field back : List UInt8) (width offset : Nat) (start : front.length = offset)
    (size : field.length = width) :
    getUint width offset (front ++ field ++ back) = some (bigEndianValue field) := by
  rw [getUint, sliceBytes_field front field back offset _ start (by rw [size]), if_pos]
  rw [List.length_append, List.length_append, start, size]
  omega

/-- A list of fields around one of them. -/
theorem flatten_split (fields : List (List UInt8)) (index : Nat) (field : List UInt8)
    (found : fields[index]? = some field) :
    fields.flatten = (fields.take index).flatten ++ field ++ (fields.drop (index + 1)).flatten := by
  obtain ⟨inside, rfl⟩ := List.getElem?_eq_some_iff.mp found
  conv_lhs => rw [← List.take_append_drop index fields, List.drop_eq_getElem_cons inside]
  rw [List.flatten_append, List.flatten_cons, List.append_assoc]

/-- A field of a list of fields is found by the length of those in front of it. -/
theorem sliceBytes_flatten (fields : List (List UInt8)) (rest : List UInt8) (index first last : Nat)
    (field : List UInt8) (found : fields[index]? = some field)
    (start : (fields.take index).flatten.length = first) (size : first + field.length = last) :
    sliceBytes first last (fields.flatten ++ rest) = field := by
  rw [flatten_split fields index field found, List.append_assoc]
  exact sliceBytes_field _ _ _ first last start size

theorem getUint_flatten (fields : List (List UInt8)) (rest : List UInt8) (index width offset : Nat)
    (field : List UInt8) (found : fields[index]? = some field)
    (start : (fields.take index).flatten.length = offset) (size : field.length = width) :
    getUint width offset (fields.flatten ++ rest) = some (bigEndianValue field) := by
  rw [flatten_split fields index field found, List.append_assoc]
  exact getUint_field _ _ _ width offset start size

theorem sliceBytes_length (first width : Nat) (buffer : List UInt8) (inside : first + width ≤ buffer.length) :
    (sliceBytes first (first + width) buffer).length = width := by
  rw [sliceBytes, Nat.add_sub_cancel_left, List.length_take, List.length_drop]
  omega

/-- Neighbouring pieces are one piece. -/
theorem sliceBytes_append (first middle last : Nat) (buffer : List UInt8) (order : first ≤ middle)
    (later : middle ≤ last) :
    sliceBytes first middle buffer ++ sliceBytes middle last buffer = sliceBytes first last buffer := by
  obtain ⟨width, rfl⟩ := Nat.exists_eq_add_of_le order
  obtain ⟨more, rfl⟩ := Nat.exists_eq_add_of_le later
  rw [sliceBytes, sliceBytes, sliceBytes, Nat.add_sub_cancel_left, Nat.add_sub_cancel_left, Nat.add_assoc,
    Nat.add_sub_cancel_left, List.take_add, List.drop_drop]

theorem sliceBytes_whole (buffer : List UInt8) : sliceBytes 0 buffer.length buffer = buffer := by
  rw [sliceBytes, List.drop_zero, Nat.sub_zero, List.take_length]

end SecureChat.Library
