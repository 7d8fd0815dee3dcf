import Mathlib.Algebra.Group.Int.Defs
import Mathlib.Algebra.Group.Nat.Defs
import Mathlib.Data.List.Basic
import Mathlib.Tactic.Common

namespace SecureChat.Library

theorem increment32 (counter : UInt32) (room : counter.toNat + 1 < 2 ^ 32) :
    (counter + 1).toNat = counter.toNat + 1 := by
  have one : (1 : UInt32).toNat = 1 := rfl
  rw [UInt32.toNat_add, one, Nat.mod_eq_of_lt room]

theorem decrement32 (counter : UInt32) (positive : 0 < counter.toNat) :
    (counter - 1).toNat = counter.toNat - 1 := by
  have one : (1 : UInt32).toNat = 1 := rfl
  rw [UInt32.toNat_sub_of_le, one]
  rw [UInt32.le_iff_toNat_le, one]
  exact positive

theorem increment64 (counter : UInt64) (room : counter.toNat + 1 < 2 ^ 64) :
    (counter + 1).toNat = counter.toNat + 1 := by
  have one : (1 : UInt64).toNat = 1 := rfl
  rw [UInt64.toNat_add, one, Nat.mod_eq_of_lt room]

theorem decrement64 (counter : UInt64) (positive : 0 < counter.toNat) :
    (counter - 1).toNat = counter.toNat - 1 := by
  have one : (1 : UInt64).toNat = 1 := rfl
  rw [UInt64.toNat_sub_of_le, one]
  rw [UInt64.le_iff_toNat_le, one]
  exact positive

/-- A signed word read from an unsigned one. -/
theorem toInt64_toInt (word : UInt64) : word.toInt64.toInt = (word.toNat : Int).bmod (2 ^ 64) := by
  rw [← Int64.toInt_toBitVec, BitVec.toInt_eq_toNat_bmod]
  rfl

/-- An unsigned word that stays below the sign bit keeps its value. -/
theorem toInt64_toInt_small (word : UInt64) (small : word.toNat < 2 ^ 63) :
    word.toInt64.toInt = word.toNat := by
  rw [toInt64_toInt]
  exact Int.bmod_eq_of_le (by omega) (by omega)

/-- A `long` that becomes an unsigned word is taken modulo the size of the word. -/
theorem int64_toUInt64_toNat (number : Int64) :
    (number.toUInt64.toNat : Int) = number.toInt % 2 ^ 64 := by
  have signed : number.toInt = (number.toUInt64.toNat : Int).bmod (2 ^ 64) := by
    rw [← Int64.toInt_toBitVec, BitVec.toInt_eq_toNat_bmod]
    rfl
  have folded := Int.bmod_emod (x := number.toUInt64.toNat) (m := 2 ^ 64)
  have bound := number.toUInt64.toNat_lt
  rw [← signed] at folded
  omega

/-- An `int` that becomes an unsigned word is taken modulo the size of the word. -/
theorem int32_toUInt64_toNat (number : Int32) :
    (number.toInt64.toUInt64.toNat : Int) = number.toInt % 2 ^ 64 := by
  rw [int64_toUInt64_toNat, Int32.toInt_toInt64]
/-- A count in an `int` is never more than the count, and it is the count below the sign bit only. -/
theorem int32_ofNat_toInt (count : Nat) :
    -(2 ^ 31 : Int) ≤ (Int32.ofNat count).toInt ∧ (Int32.ofNat count).toInt ≤ count ∧
      ((Int32.ofNat count).toInt = count ↔ count < 2 ^ 31) := by
  have wrapped := Int32.toInt_ofNat' (n := count)
  by_cases small : count < 2 ^ 31
  · have exact_count := Int32.toInt_ofNat_of_lt small
    omega
  · have above := Int.le_bmod (x := count) (m := Int32.size) (by decide)
    have below := Int.bmod_lt (x := count) (m := Int32.size) (by decide)
    have size : Int32.size = 2 ^ 32 := rfl
    omega

/-- The unsigned difference of two words. -/
theorem word_sub_toNat (now stamp : UInt64) :
    (now - stamp).toNat = if stamp ≤ now then now.toNat - stamp.toNat else 2 ^ 64 - (stamp.toNat - now.toNat) := by
  have bound := now.toNat_lt
  have bound' := stamp.toNat_lt
  rw [UInt64.toNat_sub]
  split
  · rename_i before
    rw [UInt64.le_iff_toNat_le] at before
    omega
  · rename_i after
    rw [UInt64.le_iff_toNat_le] at after
    omega

/-- A stamp from the future looks very old, unless the limit is of the same size. -/
theorem elapsed_gt_iff (now stamp limit : UInt64) :
    now - stamp > limit ↔
      if stamp ≤ now then limit.toNat < now.toNat - stamp.toNat
      else limit.toNat + (stamp.toNat - now.toNat) < 2 ^ 64 := by
  have bound := now.toNat_lt
  rw [gt_iff_lt, UInt64.lt_iff_toNat_lt, word_sub_toNat]
  split
  · exact Iff.rfl
  · rename_i after
    rw [UInt64.le_iff_toNat_le] at after
    omega

end SecureChat.Library
