import Mathlib.Algebra.Group.Int.Defs
import Mathlib.Algebra.Group.Nat.Defs
import Mathlib.Data.List.Basic
import Mathlib.Data.List.TakeWhile
import Mathlib.Tactic.Common
import Mathlib.Data.List.Lex
import Mathlib.Data.Char

namespace SecureChat.Library

/-- The text that `snprintf` leaves in a buffer. -/
def cutTo (size : Nat) (text : List Char) : List Char := text.take (size - 1)

/-- The text that `strncat` leaves in a buffer, if it was told what is free. -/
def appendTo (size : Nat) (text more : List Char) : List Char := text ++ more.take (size - text.length - 1)

/-- The digits of a number, as `printf` writes them. -/
def decimal (number : Int) : List Char :=
  match number with
  | .ofNat value => Nat.toDigits 10 value
  | .negSucc value => '-' :: Nat.toDigits 10 (value + 1)

theorem cutTo_length_lt {size : Nat} (positive : 0 < size) (text : List Char) :
    (cutTo size text).length < size := by
  rw [cutTo, List.length_take]
  omega

theorem cutTo_of_short {size : Nat} {text : List Char} (short : text.length < size) :
    cutTo size text = text :=
  List.take_of_length_le (Nat.le_sub_one_of_lt short)

/-- A buffer never takes more than its size. -/
theorem appendTo_length_lt {size : Nat} {text : List Char} (short : text.length < size) (more : List Char) :
    (appendTo size text more).length < size := by
  rw [appendTo, List.length_append, List.length_take]
  omega

/-- No digit is the separator. -/
theorem decimal_not_mem (number : Int) : '_' ∉ decimal number := by
  cases number with
  | ofNat value => exact Nat.underscore_not_in_toDigits
  | negSucc value =>
      intro member
      rcases List.mem_cons.mp member with same | later
      · exact absurd same (by decide)
      · exact Nat.underscore_not_in_toDigits later

theorem toDigits_injective {first second : Nat} (same : Nat.toDigits 10 first = Nat.toDigits 10 second) :
    first = second := by
  have read := congrArg (Nat.ofDigitChars 10 · 0) same
  simpa only [Nat.ofDigitChars_ten_toDigits] using read

theorem minus_not_mem (value : Nat) : '-' ∉ Nat.toDigits 10 value := by
  intro member
  have digit := Nat.isDigit_of_mem_toDigits (by decide) (by decide) member
  exact absurd digit (by decide)

/-- Different numbers have different digits. -/
theorem decimal_injective {first second : Int} (same : decimal first = decimal second) : first = second := by
  cases first with
  | ofNat first =>
      cases second with
      | ofNat second => exact congrArg Int.ofNat (toDigits_injective same)
      | negSucc second =>
          have member : '-' ∈ Nat.toDigits 10 first := by
            show '-' ∈ decimal (.ofNat first)
            rw [same]
            exact List.mem_cons_self ..
          exact absurd member (minus_not_mem first)
  | negSucc first =>
      cases second with
      | ofNat second =>
          have member : '-' ∈ Nat.toDigits 10 second := by
            show '-' ∈ decimal (.ofNat second)
            rw [← same]
            exact List.mem_cons_self ..
          exact absurd member (minus_not_mem second)
      | negSucc second =>
          have tail : Nat.toDigits 10 (first + 1) = Nat.toDigits 10 (second + 1) := (List.cons.inj same).2
          rw [Nat.succ.inj (toDigits_injective tail)]

/-- A number of 64 bits has at most nineteen digits and a sign. -/
theorem decimal_length_le {number : Int} (lower : -2 ^ 63 ≤ number) (upper : number < 2 ^ 64) :
    (decimal number).length ≤ 20 := by
  cases number with
  | ofNat value =>
      apply (Nat.length_toDigits_le_iff (by decide) (by decide)).mpr
      have : (value : Int) < 2 ^ 64 := upper
      omega
  | negSucc value =>
      have small : value + 1 < 10 ^ 19 := by omega
      have digits := (Nat.length_toDigits_le_iff (by decide) (by decide)).mpr small
      exact Nat.succ_le_succ digits

/-- A text is cut off right behind its front exactly if the front is kept and the next letter is not. -/
theorem takeWhile_append_cons_iff {Letter : Type*} (keep : Letter → Bool) (front rest : List Letter) (next : Letter) :
    (front ++ next :: rest).takeWhile keep = front ↔ (∀ letter ∈ front, keep letter = true) ∧ keep next = false := by
  constructor
  · intro same
    have kept : ∀ letter ∈ front, keep letter = true := by
      intro letter member
      rw [← same] at member
      exact List.mem_takeWhile_imp member
    rw [List.takeWhile_append_of_pos kept] at same
    refine ⟨kept, ?_⟩
    cases held : keep next with
    | false => rfl
    | true =>
        rw [List.takeWhile_cons_of_pos held] at same
        exact absurd same (by simp)
  · rintro ⟨kept, stops⟩
    rw [List.takeWhile_append_of_pos kept, List.takeWhile_cons_of_neg (by simp [stops]), List.append_nil]

/-- Digits make up a number that is no longer than they are. -/
theorem ofDigitChars_lt (digits : List Char) (all : ∀ digit ∈ digits, digit.isDigit = true) (start : Nat) :
    Nat.ofDigitChars 10 digits start < 10 ^ digits.length * (start + 1) := by
  induction digits generalizing start with
  | nil => simp
  | cons digit digits ih =>
      have small : digit.toNat - '0'.toNat ≤ 9 := by
        have bounds := all digit (List.mem_cons_self ..)
        rw [Char.isDigit_iff_toNat] at bounds
        have first : '0'.toNat = 48 := rfl
        have last : '9'.toNat = 57 := rfl
        omega
      have later := ih (fun digit member => all digit (List.mem_cons_of_mem _ member))
        (10 * start + (digit.toNat - '0'.toNat))
      rw [Nat.ofDigitChars_cons]
      refine Nat.lt_of_lt_of_le later ?_
      rw [List.length_cons, Nat.pow_succ, Nat.mul_assoc]
      exact Nat.mul_le_mul_left _ (by omega)

/-- A number that is cut to some of its digits stays as it is exactly if it has no more of them. -/
theorem ofDigitChars_take_iff {width : Nat} (positive : 0 < width) (number : Nat) :
    Nat.ofDigitChars 10 ((Nat.toDigits 10 number).take width) 0 = number ↔ number < 10 ^ width := by
  constructor
  · intro same
    have bound := ofDigitChars_lt ((Nat.toDigits 10 number).take width)
      (fun digit member => Nat.isDigit_of_mem_toDigits (by decide) (by decide) (List.mem_of_mem_take member)) 0
    rw [same, Nat.mul_one] at bound
    exact Nat.lt_of_lt_of_le bound (Nat.pow_le_pow_right (by decide) (List.length_take_le ..))
  · intro small
    rw [List.take_of_length_le ((Nat.length_toDigits_le_iff (by decide) positive).mpr small),
      Nat.ofDigitChars_ten_toDigits]

/-- Two texts agree exactly when they agree in front of the first separator and behind it. -/
theorem append_separator_inj {Letter : Type} {separator : Letter} {first second behind after : List Letter}
    (outside : separator ∉ first) (outside' : separator ∉ second) :
    first ++ separator :: behind = second ++ separator :: after ↔ first = second ∧ behind = after := by
  refine ⟨fun same => ?_, fun ⟨front, back⟩ => by rw [front, back]⟩
  induction first generalizing second with
  | nil =>
      cases second with
      | nil => exact ⟨rfl, (List.cons.inj same).2⟩
      | cons letter second =>
          rw [(List.cons.inj same).1] at outside'
          exact absurd (List.mem_cons_self ..) outside'
  | cons letter first ih =>
      cases second with
      | nil =>
          rw [← (List.cons.inj same).1] at outside
          exact absurd (List.mem_cons_self ..) outside
      | cons other second =>
          obtain ⟨head, tail⟩ := List.cons.inj same
          rw [List.mem_cons, not_or] at outside outside'
          obtain ⟨front, back⟩ := ih outside.2 outside'.2 tail
          exact ⟨by rw [head, front], back⟩

/-- A word without the separator is in front exactly if it is in front of the first separator. -/
theorem prefix_append_separator {Letter : Type} {separator : Letter} {word : List Letter} (outside : separator ∉ word)
    (front rest : List Letter) : word <+: front ++ separator :: rest ↔ word <+: front := by
  induction word generalizing front with
  | nil => simp
  | cons letter word ih =>
      rw [List.mem_cons, not_or] at outside
      cases front with
      | nil => simp [Ne.symm outside.1]
      | cons first front =>
          rw [List.cons_append, List.cons_prefix_cons, List.cons_prefix_cons, ih outside.2]

/-- A word behind a separator is found behind the first separator, or later. -/
theorem infix_append_separator {Letter : Type} {separator : Letter} {front : List Letter} (outside : separator ∉ front)
    (word rest : List Letter) :
    (separator :: word) <:+: front ++ separator :: rest ↔ word <+: rest ∨ (separator :: word) <:+: rest := by
  induction front with
  | nil => rw [List.nil_append, List.infix_cons_iff, List.cons_prefix_cons, and_iff_right rfl]
  | cons letter front ih =>
      rw [List.mem_cons, not_or] at outside
      rw [List.cons_append, List.infix_cons_iff, List.cons_prefix_cons, ih outside.2]
      simp [outside.1]

/-- The digits of a number behind zeros, as `printf` writes them with a width. -/
def zeroPadded (width : Nat) (number : Nat) : List Char := (Nat.toDigits 10 number).leftpad width '0'

theorem toDigits_length_le {width number : Nat} (positive : 0 < width) (fits : number < 10 ^ width) :
    (Nat.toDigits 10 number).length ≤ width :=
  (Nat.length_toDigits_le_iff (by decide) positive).mpr fits

theorem zeroPadded_length {width number : Nat} (positive : 0 < width) (fits : number < 10 ^ width) :
    (zeroPadded width number).length = width := by
  have short := toDigits_length_le positive fits
  unfold zeroPadded List.leftpad
  rw [List.length_append, List.length_replicate]
  omega

/-- The last digit stands apart from the number without it. -/
theorem zeroPadded_succ {width number : Nat} (positive : 0 < width) (fits : number < 10 ^ (width + 1)) :
    zeroPadded (width + 1) number = zeroPadded width (number / 10) ++ [(number % 10).digitChar] := by
  have front : number / 10 < 10 ^ width := by
    rw [Nat.pow_succ] at fits
    omega
  have short := toDigits_length_le positive front
  unfold zeroPadded List.leftpad
  by_cases single : number < 10
  · have zero : number / 10 = 0 := by omega
    rw [Nat.toDigits_of_lt_base single, zero, Nat.mod_eq_of_lt single]
    obtain ⟨rest, rfl⟩ := Nat.exists_eq_succ_of_ne_zero (Nat.pos_iff_ne_zero.mp positive)
    rw [Nat.toDigits_zero, List.length_singleton, List.length_singleton, Nat.succ_sub_one, Nat.succ_sub_one,
      List.replicate_succ']
  · rw [Nat.toDigits_of_base_le (by decide) (Nat.not_lt.mp single), List.length_append, List.length_singleton,
      List.append_assoc, Nat.add_sub_add_right]

theorem digitChar_lt_iff {first second : Nat} (small : first < 10) (small' : second < 10) :
    first.digitChar < second.digitChar ↔ first < second := by
  have all : ∀ first second : Fin 10, first.val.digitChar < second.val.digitChar ↔ first.val < second.val := by
    decide
  exact all ⟨first, small⟩ ⟨second, small'⟩

theorem digitChar_eq_iff {first second : Nat} (small : first < 10) (small' : second < 10) :
    first.digitChar = second.digitChar ↔ first = second := by
  have all : ∀ first second : Fin 10, first.val.digitChar = second.val.digitChar ↔ first.val = second.val := by
    decide
  exact all ⟨first, small⟩ ⟨second, small'⟩

/-- Texts of the same length decide the order before what stands behind them. -/
theorem append_lt_append_iff (first second rest rest' : List Char) (same : first.length = second.length) :
    first ++ rest < second ++ rest' ↔ first < second ∨ first = second ∧ rest < rest' := by
  induction first generalizing second with
  | nil =>
      obtain rfl := List.length_eq_zero_iff.mp same.symm
      simp
  | cons letter first ih =>
      cases second with
      | nil => cases same
      | cons letter' second =>
          rw [List.cons_append, List.cons_append, List.cons_lt_cons_iff, List.cons_lt_cons_iff,
            ih second (Nat.succ.inj same), List.cons.injEq]
          constructor
          · rintro (less | ⟨rfl, less | ⟨rfl, less⟩⟩)
            · exact .inl (.inl less)
            · exact .inl (.inr ⟨rfl, less⟩)
            · exact .inr ⟨⟨rfl, rfl⟩, less⟩
          · rintro ((less | ⟨rfl, less⟩) | ⟨⟨rfl, rfl⟩, less⟩)
            · exact .inl less
            · exact .inr ⟨rfl, .inl less⟩
            · exact .inr ⟨rfl, .inr ⟨rfl, less⟩⟩

/-- Digits of a fixed width are ordered as the numbers, and different numbers have different digits. -/
theorem zeroPadded_order {width first second : Nat} (positive : 0 < width) (fits : first < 10 ^ width)
    (fits' : second < 10 ^ width) :
    (zeroPadded width first < zeroPadded width second ↔ first < second) ∧
      (zeroPadded width first = zeroPadded width second ↔ first = second) := by
  induction width generalizing first second with
  | zero => cases positive
  | succ width ih =>
      have low : first % 10 < 10 := Nat.mod_lt _ (by decide)
      have low' : second % 10 < 10 := Nat.mod_lt _ (by decide)
      rcases Nat.eq_zero_or_pos width with rfl | wide
      · rw [Nat.pow_one] at fits fits'
        have digit : ∀ number, number < 10 → zeroPadded 1 number = [number.digitChar] := by
          intro number small
          rw [zeroPadded, Nat.toDigits_of_lt_base small]
          rfl
        rw [digit first fits, digit second fits', List.cons_lt_cons_iff, List.cons.injEq,
          digitChar_lt_iff fits fits', digitChar_eq_iff fits fits']
        simp
      · have front : first / 10 < 10 ^ width := by
          rw [Nat.pow_succ] at fits
          omega
        have front' : second / 10 < 10 ^ width := by
          rw [Nat.pow_succ] at fits'
          omega
        obtain ⟨less, equal⟩ := ih wide front front'
        have same : (zeroPadded width (first / 10)).length = (zeroPadded width (second / 10)).length := by
          rw [zeroPadded_length wide front, zeroPadded_length wide front']
        rw [zeroPadded_succ wide fits, zeroPadded_succ wide fits']
        constructor
        · rw [append_lt_append_iff _ _ _ _ same, less, equal, List.cons_lt_cons_iff, digitChar_lt_iff low low']
          simp
          omega
        · constructor
          · intro agree
            obtain ⟨high, last⟩ := List.append_inj agree same
            have high := equal.mp high
            have last := (digitChar_eq_iff low low').mp (List.singleton_inj.mp last)
            omega
          · rintro rfl
            rfl

end SecureChat.Library
