import SecureChat.Library.ByteOrder
import Mathlib.Logic.Function.Iterate

namespace SecureChat.Library.Crc

variable {width : Nat} (polynomial : BitVec width)

/-- One bit of a reflected CRC. -/
def bitStep (crc : BitVec width) : BitVec width :=
  if crc.getLsbD 0 then (crc >>> 1) ^^^ polynomial else crc >>> 1

def bitSteps (count : Nat) : BitVec width → BitVec width := (bitStep polynomial)^[count]

/-- A byte takes part with its lowest bit first. -/
def byteStep (crc : BitVec width) (byte : UInt8) : BitVec width :=
  bitSteps polynomial 8 (crc ^^^ byte.toBitVec.setWidth width)

def update (crc : BitVec width) (bytes : List UInt8) : BitVec width := bytes.foldl (byteStep polynomial) crc

/-- The entry of the table for a byte. -/
def tableEntry (byte : BitVec 8) : BitVec width := bitSteps polynomial 8 (byte.setWidth width)

/-- A byte is looked up in a table of 256 entries. -/
def tableStep (crc : BitVec width) (byte : UInt8) : BitVec width :=
  tableEntry polynomial ((crc ^^^ byte.toBitVec.setWidth width).setWidth 8) ^^^ (crc >>> 8)

/-- The checksum starts with all bits set and is inverted in the end. -/
def tableChecksum (bytes : List UInt8) : BitVec width :=
  ~~~ bytes.foldl (tableStep polynomial) (BitVec.allOnes width)

theorem bitSteps_succ (count : Nat) (crc : BitVec width) :
    bitSteps polynomial (count + 1) crc = bitSteps polynomial count (bitStep polynomial crc) :=
  Function.iterate_succ_apply ..

theorem bitSteps_add (first second : Nat) (crc : BitVec width) :
    bitSteps polynomial (first + second) crc =
      bitSteps polynomial first (bitSteps polynomial second crc) :=
  Function.iterate_add_apply ..

theorem bitStep_xor (first second : BitVec width) :
    bitStep polynomial (first ^^^ second) = bitStep polynomial first ^^^ bitStep polynomial second := by
  unfold bitStep
  rw [BitVec.getLsbD_xor, BitVec.ushiftRight_xor_distrib]
  cases first.getLsbD 0 with
  | false =>
      cases second.getLsbD 0 with
      | false => rfl
      | true => exact BitVec.xor_assoc ..
  | true =>
      cases second.getLsbD 0 with
      | false =>
          show (first >>> 1 ^^^ second >>> 1) ^^^ polynomial = (first >>> 1 ^^^ polynomial) ^^^ second >>> 1
          rw [BitVec.xor_assoc, BitVec.xor_comm (second >>> 1), BitVec.xor_assoc]
      | true =>
          show first >>> 1 ^^^ second >>> 1 =
            (first >>> 1 ^^^ polynomial) ^^^ (second >>> 1 ^^^ polynomial)
          rw [BitVec.xor_comm (second >>> 1), BitVec.xor_assoc, ← BitVec.xor_assoc polynomial,
            BitVec.xor_self, BitVec.zero_xor]

/-- Shifting a CRC is linear. -/
theorem bitSteps_xor (count : Nat) (first second : BitVec width) :
    bitSteps polynomial count (first ^^^ second) =
      bitSteps polynomial count first ^^^ bitSteps polynomial count second := by
  induction count generalizing first second with
  | zero => rfl
  | succ count ih => rw [bitSteps_succ, bitStep_xor, ih, bitSteps_succ, bitSteps_succ]

/-- As long as the shifted bits are zero, the polynomial takes no part. -/
theorem bitSteps_low (count : Nat) (crc : BitVec width) (low : ∀ index < count, crc.getLsbD index = false) :
    bitSteps polynomial count crc = crc >>> count := by
  induction count generalizing crc with
  | zero => exact (BitVec.ushiftRight_zero crc).symm
  | succ count ih =>
      have first : bitStep polynomial crc = crc >>> 1 := by
        rw [bitStep, low 0 (Nat.zero_lt_succ _)]
        rfl
      rw [bitSteps_succ, first, ih, ← BitVec.shiftRight_add, Nat.add_comm]
      intro index inside
      rw [BitVec.getLsbD_ushiftRight]
      exact low _ (by omega)

/-- Bits above the shifted ones only move down. -/
theorem bitSteps_shiftLeft (count value : Nat) (fits : value * 2 ^ count < 2 ^ width) :
    bitSteps polynomial count (BitVec.ofNat width (value * 2 ^ count)) = BitVec.ofNat width value := by
  have small : value < 2 ^ width :=
    Nat.lt_of_le_of_lt (Nat.le_mul_of_pos_right value (Nat.two_pow_pos count)) fits
  rw [bitSteps_low]
  · rw [← BitVec.toNat_inj, BitVec.toNat_ushiftRight, BitVec.toNat_ofNat, BitVec.toNat_ofNat,
      Nat.mod_eq_of_lt fits, Nat.mod_eq_of_lt small, Nat.shiftRight_eq_div_pow,
      Nat.mul_div_cancel _ (Nat.two_pow_pos count)]
  · intro index inside
    rw [BitVec.getLsbD_ofNat, Nat.testBit_mul_two_pow, decide_eq_false (Nat.not_le.mpr inside)]
    simp

/-- A byte that is looked up steps like one that is shifted. -/
theorem tableStep_eq (wide : 8 ≤ width) (crc : BitVec width) (byte : UInt8) :
    tableStep polynomial crc byte = byteStep polynomial crc byte := by
  have high : (byte.toBitVec.setWidth width) >>> 8 = BitVec.ofNat width 0 := by
    rw [← BitVec.toNat_inj, BitVec.toNat_ushiftRight, BitVec.toNat_setWidth, Nat.shiftRight_eq_div_pow]
    have small := byte.toBitVec.isLt
    have bound : 2 ^ 8 ≤ 2 ^ width := Nat.pow_le_pow_right (by decide) wide
    rw [Nat.mod_eq_of_lt (Nat.lt_of_lt_of_le small bound), Nat.div_eq_of_lt small]
    rfl
  have moved : crc >>> 8 = (crc ^^^ byte.toBitVec.setWidth width) >>> 8 := by
    rw [BitVec.ushiftRight_xor_distrib, high, BitVec.xor_zero]
  rw [tableStep, byteStep, tableEntry, moved]
  generalize crc ^^^ byte.toBitVec.setWidth width = mixed
  have parts : mixed = (mixed.setWidth 8).setWidth width ^^^ (mixed ^^^ (mixed.setWidth 8).setWidth width) := by
    rw [BitVec.xor_comm mixed, ← BitVec.xor_assoc, BitVec.xor_self, BitVec.zero_xor]
  have upper : ∀ index, (mixed ^^^ (mixed.setWidth 8).setWidth width).getLsbD index =
      (decide (8 ≤ index) && mixed.getLsbD index) := by
    intro index
    rw [BitVec.getLsbD_xor, BitVec.getLsbD_setWidth, BitVec.getLsbD_setWidth]
    by_cases inside : index < width
    · by_cases low : index < 8 <;> simp [inside, low, Nat.not_le.mpr, Nat.le_of_not_lt]
    · rw [BitVec.getLsbD_of_ge mixed index (Nat.le_of_not_lt inside)]
      simp
  have shifted : bitSteps polynomial 8 (mixed ^^^ (mixed.setWidth 8).setWidth width) = mixed >>> 8 := by
    rw [bitSteps_low]
    · apply BitVec.eq_of_getLsbD_eq
      intro index _
      rw [BitVec.getLsbD_ushiftRight, BitVec.getLsbD_ushiftRight, upper,
        decide_eq_true (Nat.le_add_right 8 index), Bool.true_and]
    · intro index inside
      rw [upper, decide_eq_false (Nat.not_le.mpr inside), Bool.false_and]
  conv_rhs => rw [parts]
  rw [bitSteps_xor, shifted]

theorem tableChecksum_eq (wide : 8 ≤ width) (bytes : List UInt8) :
    tableChecksum polynomial bytes = ~~~ update polynomial (BitVec.allOnes width) bytes := by
  have same : tableStep polynomial = byteStep polynomial := by
    funext crc byte
    exact tableStep_eq polynomial wide crc byte
  rw [tableChecksum, same]
  rfl

theorem update_append (crc : BitVec width) (first second : List UInt8) :
    update polynomial crc (first ++ second) = update polynomial (update polynomial crc first) second :=
  List.foldl_append

/-- A few bytes at once are mixed in as one number. -/
theorem update_eq_bitSteps (crc : BitVec width) (bytes : List UInt8) (short : 8 * bytes.length ≤ width) :
    update polynomial crc bytes =
      bitSteps polynomial (8 * bytes.length) (crc ^^^ BitVec.ofNat width (littleEndianValue bytes)) := by
  induction bytes generalizing crc with
  | nil => exact (BitVec.xor_zero).symm
  | cons byte rest ih =>
      rw [List.length_cons, Nat.mul_succ] at short
      have value := littleEndianValue_lt rest
      have power : 256 ^ rest.length = 2 ^ (8 * rest.length) := by rw [Nat.pow_mul]
      have fits : littleEndianValue rest * 2 ^ 8 < 2 ^ width := by
        calc littleEndianValue rest * 2 ^ 8 < 2 ^ (8 * rest.length) * 2 ^ 8 :=
              Nat.mul_lt_mul_of_pos_right (power ▸ value) (by decide)
          _ = 2 ^ (8 * rest.length + 8) := (Nat.pow_add ..).symm
          _ ≤ 2 ^ width := Nat.pow_le_pow_right (by decide) short
      have moved := bitSteps_shiftLeft polynomial 8 (littleEndianValue rest) fits
      have joined : byte.toBitVec.setWidth width ^^^ BitVec.ofNat width (littleEndianValue rest * 2 ^ 8) =
          BitVec.ofNat width (littleEndianValue (byte :: rest)) := by
        apply BitVec.eq_of_getLsbD_eq
        intro index inside
        rw [BitVec.getLsbD_xor, BitVec.getLsbD_setWidth, BitVec.getLsbD_ofNat, BitVec.getLsbD_ofNat,
          decide_eq_true inside, Nat.testBit_mul_two_pow, littleEndianValue, Nat.add_comm byte.toNat,
          show (256 : Nat) = 2 ^ 8 from rfl, Nat.testBit_two_pow_mul_add _ byte.toNat_lt, BitVec.getLsbD]
        by_cases low : index < 8
        · simp [low, Nat.not_le.mpr low]
        · simp [low, Nat.le_of_not_lt low, Nat.testBit_lt_two_pow
            (Nat.lt_of_lt_of_le byte.toNat_lt (Nat.pow_le_pow_right (by decide) (Nat.le_of_not_lt low)))]
      show update polynomial (byteStep polynomial crc byte) rest = _
      rw [ih _ (by omega), byteStep, ← moved, ← bitSteps_xor, ← bitSteps_add, BitVec.xor_assoc, joined,
        List.length_cons, Nat.mul_succ]

variable (top : polynomial.getLsbD (width - 1) = true)

include top

/-- With its highest bit the polynomial tells apart what a step has read. -/
theorem bitStep_injective : Function.Injective (bitStep polynomial) := by
  have highest : ∀ crc : BitVec width,
      (bitStep polynomial crc).getLsbD (width - 1) = crc.getLsbD 0 := by
    intro crc
    have outside : (crc >>> 1).getLsbD (width - 1) = false := by
      rw [BitVec.getLsbD_ushiftRight]
      exact BitVec.getLsbD_of_ge crc _ (by omega)
    unfold bitStep
    cases lowest : crc.getLsbD 0 with
    | false => exact outside
    | true =>
        rw [if_pos rfl, BitVec.getLsbD_xor, outside, top]
        rfl
  intro first second same
  have lowest : first.getLsbD 0 = second.getLsbD 0 := by
    rw [← highest first, same, highest second]
  have moved : first >>> 1 = second >>> 1 := by
    rw [bitStep, bitStep, lowest] at same
    split at same
    · exact BitVec.xor_left_inj polynomial |>.mp same
    · exact same
  apply BitVec.eq_of_getLsbD_eq
  intro index _
  cases index with
  | zero => exact lowest
  | succ index =>
      have bits := congrArg (BitVec.getLsbD · index) moved
      simpa only [BitVec.getLsbD_ushiftRight, Nat.add_comm 1] using bits

theorem bitSteps_injective (count : Nat) : Function.Injective (bitSteps polynomial count) :=
  Function.Injective.iterate (bitStep_injective polynomial top) count

theorem byteStep_injective (byte : UInt8) : Function.Injective (byteStep polynomial · byte) := by
  intro first second same
  have mixed := bitSteps_injective polynomial top 8 same
  exact (BitVec.xor_left_inj _).mp mixed

theorem update_injective (bytes : List UInt8) : Function.Injective (update polynomial · bytes) := by
  induction bytes with
  | nil => exact fun _ _ same => same
  | cons byte rest ih =>
      intro first second same
      have stepped : byteStep polynomial first byte = byteStep polynomial second byte := ih same
      exact byteStep_injective polynomial top byte stepped

/-- Bytes that fit into the checksum register change it, whatever follows them. -/
theorem update_inj (crc : BitVec width) (first second rest : List UInt8) (same : first.length = second.length)
    (short : 8 * first.length ≤ width) :
    update polynomial crc (first ++ rest) = update polynomial crc (second ++ rest) ↔ first = second := by
  refine ⟨fun equal => ?_, fun equal => by rw [equal]⟩
  rw [update_append, update_append] at equal
  have states := update_injective polynomial top rest equal
  rw [update_eq_bitSteps polynomial crc first short, update_eq_bitSteps polynomial crc second (same ▸ short),
    ← same] at states
  have mixed := (BitVec.xor_right_inj crc).mp (bitSteps_injective polynomial top _ states)
  have small : ∀ bytes : List UInt8, 8 * bytes.length ≤ width → littleEndianValue bytes < 2 ^ width := by
    intro bytes fits
    calc littleEndianValue bytes < 256 ^ bytes.length := littleEndianValue_lt bytes
      _ = 2 ^ (8 * bytes.length) := (Nat.pow_mul 2 8 _).symm
      _ ≤ 2 ^ width := Nat.pow_le_pow_right (by decide) fits
  have values := congrArg BitVec.toNat mixed
  rw [BitVec.toNat_ofNat, BitVec.toNat_ofNat, Nat.mod_eq_of_lt (small first short),
    Nat.mod_eq_of_lt (small second (same ▸ short))] at values
  rw [← littleEndian_littleEndianValue first, ← littleEndian_littleEndianValue second, same, values]

end SecureChat.Library.Crc
