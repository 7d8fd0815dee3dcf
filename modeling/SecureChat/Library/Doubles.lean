import SecureChat.Library.Text
import Mathlib.Data.Nat.Log
import Mathlib.Tactic.Common

namespace SecureChat.Library

/-- The order of a double among the numbers, from its bits. Both zeros are equal, and NaN has no place. -/
def doubleKey (bits : UInt64) : Option Int :=
  let magnitude : Nat := bits.toNat % 2 ^ 63
  if 0x7FF0000000000000 < magnitude then none
  else if bits.toNat < 2 ^ 63 then some (magnitude : Int)
  else some (-(magnitude : Int))

/-- The comparison `first <= second`, which is false as soon as one side is NaN. -/
def doubleLe (first second : UInt64) : Bool :=
  match doubleKey first, doubleKey second with
  | some low, some high => low ≤ high
  | _, _ => false

def doubleLess (first second : UInt64) : Bool :=
  match doubleKey first, doubleKey second with
  | some low, some high => low < high
  | _, _ => false

/-- A quotient that is rounded to the nearest number, and to the even one of two. -/
def roundHalfEven (numerator denominator : Nat) : Nat :=
  let quotient := numerator / denominator
  let twice := 2 * (numerator % denominator)
  if twice < denominator ∨ (twice = denominator ∧ quotient % 2 = 0) then quotient else quotient + 1

/-- What `printf` writes for `%.2f`. -/
def twoDecimals (bits : UInt64) : List Char :=
  let sign := if bits.toNat < 2 ^ 63 then [] else ['-']
  let exponent := bits.toNat / 2 ^ 52 % 2 ^ 11
  let fraction := bits.toNat % 2 ^ 52
  if exponent = 2 ^ 11 - 1 then sign ++ (if fraction = 0 then "inf" else "nan").toList
  else
    -- The value is `significand * 2 ^ (power - 1075)`.
    let significand := if exponent = 0 then fraction else 2 ^ 52 + fraction
    let power := max exponent 1
    let hundredths := roundHalfEven (significand * 100 * 2 ^ (power - 1075)) (2 ^ (1075 - power))
    sign ++ decimal (hundredths / 100 : Nat) ++ '.' ::
      [Nat.digitChar (hundredths / 10 % 10), Nat.digitChar (hundredths % 10)]

/-- The bytes of a text, as a program keeps them in an array of characters. -/
def utf8Chars (text : String) : List Char := text.toUTF8.toList.map fun byte => Char.ofNat byte.toNat

example : twoDecimals 0x4058ECCCCCCCCCCD = "99.70".toList := by decide +kernel

end SecureChat.Library

namespace SecureChat.Library.JsNumber

/-- The bits that the bitwise operators of JavaScript work on. -/
def toInt32 (value : Int) : BitVec 32 := BitVec.ofInt 32 value

def bitXor (first second : Int) : Int := (toInt32 first ^^^ toInt32 second).toInt

def bitAnd (first second : Int) : Int := (toInt32 first &&& toInt32 second).toInt

def bitOr (first second : Int) : Int := (toInt32 first ||| toInt32 second).toInt

def shiftLeft (value : Int) (count : Nat) : Int := (toInt32 value <<< count).toInt

/-- The only operator with a result that is not signed. -/
def shiftRightUnsigned (value : Int) (count : Nat) : Int := (toInt32 value >>> count).toNat

@[simp] theorem toInt32_toInt (bits : BitVec 32) : toInt32 bits.toInt = bits := BitVec.ofInt_toInt

@[simp] theorem toInt32_toNat (bits : BitVec 32) : toInt32 bits.toNat = bits := by
  rw [toInt32, BitVec.ofInt_natCast, BitVec.ofNat_toNat, BitVec.setWidth_eq]

@[simp] theorem toInt32_bitXor (first second : Int) :
    toInt32 (bitXor first second) = toInt32 first ^^^ toInt32 second := toInt32_toInt _

@[simp] theorem toInt32_shiftRightUnsigned (value : Int) (count : Nat) :
    toInt32 (shiftRightUnsigned value count) = toInt32 value >>> count := toInt32_toNat _

/-- A signed result is written to 32 bits as it is. -/
theorem toInt_emod (bits : BitVec 32) : bits.toInt % 2 ^ 32 = bits.toNat := by
  have small := bits.isLt
  rw [BitVec.toInt_eq_toNat_cond]
  split <;> omega

/-- A signed result is the unsigned number of its bits exactly when the highest bit is zero. -/
theorem toInt_eq_toNat_iff (bits : BitVec 32) : bits.toInt = bits.toNat ↔ bits.toNat < 2 ^ 31 := by
  have small := bits.isLt
  rw [BitVec.toInt_eq_toNat_cond]
  split <;> omega

/-- The low bits that a number has no place for. -/
def excessBits (precision value : Nat) : Nat := Nat.log2 value + 1 - precision

/-- The nearest multiple of a power of two, and the even one of two that are as near. -/
def roundToEven (bits value : Nat) : Nat :=
  if 2 ^ bits < 2 * (value % 2 ^ bits) ∨ (2 * (value % 2 ^ bits) = 2 ^ bits ∧ value / 2 ^ bits % 2 = 1) then
    (value / 2 ^ bits + 1) * 2 ^ bits
  else value / 2 ^ bits * 2 ^ bits

/-- The nearest number with a limited precision. -/
def roundNat (precision value : Nat) : Nat := roundToEven (excessBits precision value) value

/-- `Number` of a big integer. -/
def numberOfBigInt (value : Nat) : Nat := roundNat 53 value

theorem roundToEven_dvd (bits value : Nat) : 2 ^ bits ∣ roundToEven bits value := by
  unfold roundToEven
  split
  · exact Nat.dvd_mul_left ..
  · exact Nat.dvd_mul_left ..

theorem roundToEven_of_dvd (bits value : Nat) (divides : 2 ^ bits ∣ value) : roundToEven bits value = value := by
  have rest := Nat.mod_eq_zero_of_dvd divides
  have positive := Nat.two_pow_pos bits
  rw [roundToEven, rest, if_neg]
  · exact Nat.div_mul_cancel divides
  · omega

/-- Rounding adds at most one unit of the last place. -/
theorem roundToEven_le (bits value : Nat) : roundToEven bits value ≤ value + 2 ^ bits := by
  have floor := Nat.div_mul_le_self value (2 ^ bits)
  unfold roundToEven
  split
  · rw [Nat.add_mul, Nat.one_mul]
    omega
  · omega

theorem excessBits_le (precision width value : Nat) (positive : 0 < precision) (fits : value < 2 ^ width) :
    excessBits precision value ≤ width - precision := by
  unfold excessBits
  rcases Nat.eq_zero_or_pos value with rfl | some
  · rw [Nat.log2_zero]
    omega
  · have bound := (Nat.log2_lt (Nat.ne_of_gt some)).mpr fits
    omega

/-- Rounding changes a number exactly when one of the bits without a place is set. -/
theorem roundNat_eq_self_iff (precision value : Nat) :
    roundNat precision value = value ↔ 2 ^ excessBits precision value ∣ value := by
  constructor
  · intro same
    have divides := roundToEven_dvd (excessBits precision value) value
    rwa [← roundNat, same] at divides
  · exact roundToEven_of_dvd _ _

example : numberOfBigInt 9007199254740993 = 9007199254740992 := by decide

end SecureChat.Library.JsNumber
