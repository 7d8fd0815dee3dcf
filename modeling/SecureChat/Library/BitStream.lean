import Mathlib.Data.List.Basic
import Mathlib.Data.Nat.Bitwise
import Mathlib.Tactic.Common

namespace SecureChat.Library

/-- The low bits of a number, the highest one first. -/
def bitsOf : Nat → Nat → List Bool
  | 0, _ => []
  | width + 1, number => number.testBit width :: bitsOf width number

@[simp] theorem bitsOf_length (width number : Nat) : (bitsOf width number).length = width := by
  induction width with
  | zero => rfl
  | succ width ih => rw [bitsOf, List.length_cons, ih]

theorem bitsOf_zero (width : Nat) : bitsOf width 0 = List.replicate width false := by
  induction width with
  | zero => rfl
  | succ width ih => rw [bitsOf, ih, Nat.zero_testBit, List.replicate_succ]

theorem bitsOf_congr {width first second : Nat} (same : ∀ index < width, first.testBit index = second.testBit index) :
    bitsOf width first = bitsOf width second := by
  induction width with
  | zero => rfl
  | succ width ih =>
      rw [bitsOf, bitsOf, same width (Nat.lt_succ_self width), ih fun index below => same index (Nat.lt_succ_of_lt below)]

theorem testBit_of_bitsOf {width first second : Nat} (same : bitsOf width first = bitsOf width second) :
    ∀ index < width, first.testBit index = second.testBit index := by
  induction width with
  | zero => exact fun index below => absurd below (Nat.not_lt_zero index)
  | succ width ih =>
      obtain ⟨top, rest⟩ := List.cons.inj same
      intro index below
      rcases Nat.lt_or_eq_of_le (Nat.le_of_lt_succ below) with lower | rfl
      · exact ih rest index lower
      · exact top

theorem bitsOf_injective {width first second : Nat} (small : first < 2 ^ width) (small' : second < 2 ^ width)
    (same : bitsOf width first = bitsOf width second) : first = second := by
  apply Nat.eq_of_testBit_eq
  intro index
  rcases Nat.lt_or_ge index width with below | above
  · exact testBit_of_bitsOf same index below
  · have power := Nat.pow_le_pow_right (Nat.succ_pos 1) above
    rw [Nat.testBit_lt_two_pow (Nat.lt_of_lt_of_le small power), Nat.testBit_lt_two_pow (Nat.lt_of_lt_of_le small' power)]

/-- A number is read in two parts. -/
theorem bitsOf_add (high low number : Nat) :
    bitsOf (high + low) number = bitsOf high (number >>> low) ++ bitsOf low number := by
  induction high with
  | zero => rw [Nat.zero_add, bitsOf, List.nil_append]
  | succ high ih =>
      rw [Nat.succ_add, bitsOf, bitsOf, ih, Nat.testBit_shiftRight, Nat.add_comm low, List.cons_append]

/-- The bits of several numbers of one width. -/
def bitsOfAll (width : Nat) (numbers : List Nat) : List Bool := numbers.flatMap (bitsOf width)

@[simp] theorem bitsOfAll_nil (width : Nat) : bitsOfAll width [] = [] := rfl

theorem bitsOfAll_cons (width number : Nat) (numbers : List Nat) :
    bitsOfAll width (number :: numbers) = bitsOf width number ++ bitsOfAll width numbers := rfl

theorem bitsOfAll_append (width : Nat) (first second : List Nat) :
    bitsOfAll width (first ++ second) = bitsOfAll width first ++ bitsOfAll width second := List.flatMap_append

/-- Numbers whose bits agree up to less than one number are the same. -/
theorem eq_of_bitsOfAll {width : Nat} {first second : List Nat} {behind after : List Bool}
    (small : ∀ number ∈ first, number < 2 ^ width) (small' : ∀ number ∈ second, number < 2 ^ width)
    (few : behind.length < width) (few' : after.length < width)
    (same : bitsOfAll width first ++ behind = bitsOfAll width second ++ after) : first = second := by
  induction first generalizing second with
  | nil =>
      cases second with
      | nil => rfl
      | cons number second =>
          have lengths := congrArg List.length same
          rw [bitsOfAll_cons, bitsOfAll_nil, List.nil_append, List.length_append, List.length_append, bitsOf_length] at lengths
          omega
  | cons number first ih =>
      rw [List.forall_mem_cons] at small
      cases second with
      | nil =>
          have lengths := congrArg List.length same
          rw [bitsOfAll_cons, bitsOfAll_nil, List.nil_append, List.length_append, List.length_append, bitsOf_length] at lengths
          omega
      | cons other second =>
          rw [List.forall_mem_cons] at small'
          rw [bitsOfAll_cons, bitsOfAll_cons, List.append_assoc, List.append_assoc] at same
          obtain ⟨head, tail⟩ := List.append_inj same (by rw [bitsOf_length, bitsOf_length])
          rw [bitsOf_injective small.1 small'.1 head, ih small.2 small'.2 tail]

section Accumulator

variable (value : UInt32) {bits width : Nat}

/-- A digit that is shifted into an accumulator follows the bits that have been in it. -/
theorem bitsOf_shiftLeft_or {digit : UInt32} (small : digit.toNat < 2 ^ width) (narrow : width < 32)
    (room : bits + width ≤ 32) :
    bitsOf (bits + width) ((value <<< UInt32.ofNat width) ||| digit).toNat =
      bitsOf bits value.toNat ++ bitsOf width digit.toNat := by
  have shift : (UInt32.ofNat width).toNat % 32 = width := by
    rw [UInt32.toNat_ofNat']
    omega
  have bit : ∀ index < 32, ((value <<< UInt32.ofNat width) ||| digit).toNat.testBit index =
      (decide (width ≤ index) && value.toNat.testBit (index - width) || digit.toNat.testBit index) := by
    intro index inside
    rw [UInt32.toNat_or, Nat.testBit_or, UInt32.toNat_shiftLeft, shift, Nat.testBit_mod_two_pow, Nat.testBit_shiftLeft,
      decide_eq_true inside, Bool.true_and]
  rw [bitsOf_add]
  congr 1
  · refine bitsOf_congr fun index below => ?_
    have above : digit.toNat.testBit (width + index) = false :=
      Nat.testBit_lt_two_pow (Nat.lt_of_lt_of_le small (Nat.pow_le_pow_right (Nat.succ_pos 1) (Nat.le_add_right ..)))
    rw [Nat.testBit_shiftRight, bit _ (by omega), above, Bool.or_false, decide_eq_true (Nat.le_add_right ..),
      Bool.true_and, Nat.add_sub_cancel_left]
  · refine bitsOf_congr fun index below => ?_
    rw [bit _ (by omega), decide_eq_false (Nat.not_le.mpr below), Bool.false_and, Bool.false_or]

/-- The highest bits of an accumulator are a digit, and the other ones stay in it. -/
theorem bitsOf_shiftRight_and (positive : 0 < width) (narrow : width ≤ 32) (rest : Nat) (room : rest + width ≤ 32) :
    bitsOf (rest + width) value.toNat =
      bitsOf width ((value >>> UInt32.ofNat rest) &&& UInt32.ofNat (2 ^ width - 1)).toNat ++ bitsOf rest value.toNat := by
  have shift : (UInt32.ofNat rest).toNat % 32 = rest := by
    rw [UInt32.toNat_ofNat']
    omega
  rw [Nat.add_comm, bitsOf_add]
  congr 1
  refine bitsOf_congr fun index below => ?_
  have power : 2 ^ width ≤ 2 ^ 32 := Nat.pow_le_pow_right (Nat.succ_pos 1) narrow
  have mask : (UInt32.ofNat (2 ^ width - 1)).toNat = 2 ^ width - 1 := by
    rw [UInt32.toNat_ofNat']
    exact Nat.mod_eq_of_lt (by have := Nat.two_pow_pos width; omega)
  rw [UInt32.toNat_and, mask, Nat.testBit_and, Nat.testBit_two_pow_sub_one, decide_eq_true below, Bool.and_true,
    UInt32.toNat_shiftRight, shift]

end Accumulator

end SecureChat.Library
