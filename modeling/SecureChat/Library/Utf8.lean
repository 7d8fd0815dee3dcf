import Mathlib.Algebra.Group.Nat.Defs
import Mathlib.Data.List.Basic
import Mathlib.Tactic.Common

namespace SecureChat.Library.Utf8

/-- A character whose last byte has not come: its bits so far, how many more bytes its first byte announces,
how many of them came, and the bounds of the next one. -/
structure Pending where
  codePoint : Nat
  needed : Nat
  seen : Nat
  lower : Nat
  upper : Nat

/-- What stands for bytes that are no character. -/
def replacement : Char := Char.ofNat 0xFFFD

/-- The first byte of a character. -/
def firstByte (byte : Nat) : Option Pending × List Char :=
  if byte ≤ 0x7F then (none, [Char.ofNat byte])
  else if 0xC2 ≤ byte ∧ byte ≤ 0xDF then (some ⟨byte % 32, 1, 0, 0x80, 0xBF⟩, [])
  else if 0xE0 ≤ byte ∧ byte ≤ 0xEF then
    (some ⟨byte % 16, 2, 0, if byte = 0xE0 then 0xA0 else 0x80, if byte = 0xED then 0x9F else 0xBF⟩, [])
  else if 0xF0 ≤ byte ∧ byte ≤ 0xF4 then
    (some ⟨byte % 8, 3, 0, if byte = 0xF0 then 0x90 else 0x80, if byte = 0xF4 then 0x8F else 0xBF⟩, [])
  else (none, [replacement])

/-- A byte within a character; a byte out of its bounds ends the character and is read again. -/
def nextByte (pending : Pending) (byte : Nat) : Option Pending × List Char :=
  if pending.lower ≤ byte ∧ byte ≤ pending.upper then
    let codePoint := pending.codePoint * 64 + byte % 64
    if pending.seen + 1 = pending.needed then (none, [Char.ofNat codePoint])
    else (some ⟨codePoint, pending.needed, pending.seen + 1, 0x80, 0xBF⟩, [])
  else ((firstByte byte).1, replacement :: (firstByte byte).2)

def step (state : Option Pending) (byte : Nat) : Option Pending × List Char :=
  state.elim (firstByte byte) (nextByte · byte)

/-- The characters of a list of bytes. -/
def decode : Option Pending → List UInt8 → List Char
  | none, [] => []
  | some _, [] => [replacement]
  | state, byte :: bytes => (step state byte.toNat).2 ++ decode (step state byte.toNat).1 bytes

/-- The bytes of a list of characters. -/
def encode (text : List Char) : List UInt8 := text.flatMap String.utf8EncodeChar

theorem decode_cons (state : Option Pending) (byte : UInt8) (bytes : List UInt8) :
    decode state (byte :: bytes) = (step state byte.toNat).2 ++ decode (step state byte.toNat).1 bytes := by
  cases state <;> rfl

theorem toNat_ofNat (value : Nat) (small : value < 256) : (UInt8.ofNat value).toNat = value := by
  rw [UInt8.toNat_ofNat', Nat.mod_eq_of_lt (by omega)]

theorem toNat_char {value : Nat} (valid : value.isValidChar) : (Char.ofNat value).toNat = value := by
  rw [Char.ofNat, dif_pos valid]
  rfl

/-- A byte with six more bits of the character. -/
theorem decode_middle {pending : Pending} {bits : Nat} (bytes : List UInt8) (small : bits < 64)
    (inside : pending.lower ≤ bits + 0x80 ∧ bits + 0x80 ≤ pending.upper) (more : pending.seen + 1 ≠ pending.needed) :
    decode (some pending) (UInt8.ofNat (bits + 0x80) :: bytes) =
      decode (some ⟨pending.codePoint * 64 + bits, pending.needed, pending.seen + 1, 0x80, 0xBF⟩) bytes := by
  have six : (bits + 0x80) % 64 = bits := by omega
  rw [decode_cons, toNat_ofNat _ (by omega)]
  simp [step, nextByte, inside, more, six]

/-- The byte with the last six bits. -/
theorem decode_last {pending : Pending} {bits : Nat} (bytes : List UInt8) (small : bits < 64)
    (inside : pending.lower ≤ bits + 0x80 ∧ bits + 0x80 ≤ pending.upper) (last : pending.seen + 1 = pending.needed) :
    decode (some pending) (UInt8.ofNat (bits + 0x80) :: bytes) =
      Char.ofNat (pending.codePoint * 64 + bits) :: decode none bytes := by
  have six : (bits + 0x80) % 64 = bits := by omega
  rw [decode_cons, toNat_ofNat _ (by omega)]
  simp [step, nextByte, inside, last, six]

theorem decode_first {first : Nat} {pending : Pending} (bytes : List UInt8) (small : first < 256)
    (found : firstByte first = (some pending, [])) :
    decode none (UInt8.ofNat first :: bytes) = decode (some pending) bytes := by
  simp [decode_cons, step, toNat_ofNat first small, found]

/-- The bytes of one character are read as that character. -/
theorem decode_utf8EncodeChar (char : Char) (bytes : List UInt8) :
    decode none (String.utf8EncodeChar char ++ bytes) = char :: decode none bytes := by
  have valid : char.val.toNat < 0xD800 ∨ 0xDFFF < char.val.toNat ∧ char.val.toNat < 0x110000 := char.valid
  have same : Char.ofNat char.val.toNat = char := Char.ofNat_toNat char
  unfold String.utf8EncodeChar
  generalize char.val.toNat = value at valid same
  simp only
  split
  · rename_i one
    have small : firstByte value = (none, [char]) := by rw [firstByte, if_pos one, same]
    simp [decode_cons, step, toNat_ofNat value (by omega), small]
  split
  · rename_i one two
    have first : firstByte (value / 64 % 32 + 0xC0) = (some ⟨value / 64, 1, 0, 0x80, 0xBF⟩, []) := by
      rw [firstByte, if_neg (by omega), if_pos (by omega)]
      congr 3
      omega
    rw [List.cons_append, decode_first _ (by omega) first, List.singleton_append,
      decode_last _ (by omega) (by simp only; omega) rfl]
    simp only
    rw [show value / 64 * 64 + value % 64 = value by omega, same]
  split
  · rename_i one two three
    have first : ∃ lower upper, firstByte (value / 4096 % 16 + 0xE0) =
        (some ⟨value / 4096, 2, 0, lower, upper⟩, []) ∧ lower ≤ value / 64 % 64 + 0x80 ∧
          value / 64 % 64 + 0x80 ≤ upper := by
      rw [firstByte, if_neg (by omega), if_neg (by omega), if_pos (by omega),
        show (value / 4096 % 16 + 0xE0) % 16 = value / 4096 by omega]
      refine ⟨_, _, rfl, ?_, ?_⟩ <;> split <;> omega
    obtain ⟨lower, upper, first, inside⟩ := first
    rw [List.cons_append, decode_first _ (by omega) first, List.cons_append,
      decode_middle _ (by omega) inside (by decide : (0 : Nat) + 1 ≠ 2), List.singleton_append,
      decode_last _ (by omega) (by simp only; omega) rfl]
    simp only
    rw [show (value / 4096 * 64 + value / 64 % 64) * 64 + value % 64 = value by omega, same]
  · rename_i one two three
    have first : ∃ lower upper, firstByte (value / 262144 % 8 + 0xF0) =
        (some ⟨value / 262144, 3, 0, lower, upper⟩, []) ∧ lower ≤ value / 4096 % 64 + 0x80 ∧
          value / 4096 % 64 + 0x80 ≤ upper := by
      rw [firstByte, if_neg (by omega), if_neg (by omega), if_neg (by omega), if_pos (by omega),
        show (value / 262144 % 8 + 0xF0) % 8 = value / 262144 by omega]
      refine ⟨_, _, rfl, ?_, ?_⟩ <;> split <;> omega
    obtain ⟨lower, upper, first, inside⟩ := first
    rw [List.cons_append, decode_first _ (by omega) first, List.cons_append,
      decode_middle _ (by omega) inside (by decide : (0 : Nat) + 1 ≠ 3), List.cons_append,
      decode_middle _ (by omega) (by simp only; omega) (by decide : (0 : Nat) + 1 + 1 ≠ 3), List.singleton_append,
      decode_last _ (by omega) (by simp only; omega) rfl]
    simp only
    rw [show ((value / 262144 * 64 + value / 4096 % 64) * 64 + value / 64 % 64) * 64 + value % 64 = value by omega,
      same]

/-- Text is read back from its bytes. -/
theorem decode_encode (text : List Char) : decode none (encode text) = text := by
  induction text with
  | nil => rfl
  | cons char text ih => rw [encode, List.flatMap_cons, decode_utf8EncodeChar, ← encode, ih]

/-- The least character that needs so many bytes after its first. -/
def least : Nat → Nat
  | 1 => 0x80
  | 2 => 0x800
  | _ => 0x10000

/-- Every end of a pending character is a character that needs all of its bytes. -/
structure Pending.Suits (pending : Pending) : Prop where
  seen : pending.seen < pending.needed
  needed : pending.needed ≤ 3
  lower : 0x80 ≤ pending.lower
  upper : pending.upper ≤ 0xBF
  long : least pending.needed ≤
    (pending.codePoint * 64 + (pending.lower - 0x80)) * 64 ^ (pending.needed - pending.seen - 1)
  scalar : (pending.codePoint * 64 + (pending.upper - 0x7F)) * 64 ^ (pending.needed - pending.seen - 1) ≤ 0xD800 ∨
    0xE000 ≤ (pending.codePoint * 64 + (pending.lower - 0x80)) * 64 ^ (pending.needed - pending.seen - 1) ∧
      (pending.codePoint * 64 + (pending.upper - 0x7F)) * 64 ^ (pending.needed - pending.seen - 1) ≤ 0x110000

/-- The bytes that a state holds back. -/
def held (state : Option Pending) : Nat := state.elim 0 (·.seen + 1)

theorem encode_append (first second : List Char) : encode (first ++ second) = encode first ++ encode second :=
  List.flatMap_append

theorem encode_cons_length (char : Char) (text : List Char) :
    (encode (char :: text)).length = char.utf8Size + (encode text).length := by
  rw [encode, List.flatMap_cons, List.length_append, String.length_utf8EncodeChar, ← encode]

/-- A valid code point from the least of its size takes so many bytes. -/
theorem utf8Size_ofNat {value needed : Nat} (valid : value.isValidChar) (above : least needed ≤ value)
    (some : 1 ≤ needed) (few : needed ≤ 3) : needed + 1 ≤ (Char.ofNat value).utf8Size := by
  have number : (Char.ofNat value).val.toNat = value := toNat_char valid
  have one := (Char.ofNat value).utf8Size_eq_one_iff
  have two := (Char.ofNat value).utf8Size_eq_two_iff
  have three := (Char.ofNat value).utf8Size_eq_three_iff
  simp only [UInt32.le_iff_toNat_le, UInt32.lt_iff_toNat_lt, number, UInt32.reduceToNat] at one two three
  have sizes := (Char.ofNat value).utf8Size_eq
  obtain rfl | rfl | rfl : needed = 1 ∨ needed = 2 ∨ needed = 3 := by omega
  all_goals
    simp only [least] at above
    omega

theorem firstByte_suits (byte : Nat) : (∀ pending ∈ (firstByte byte).1, pending.Suits) ∧
    1 ≤ (encode (firstByte byte).2).length + held (firstByte byte).1 := by
  fun_cases firstByte byte with
  | case1 small =>
      have size := (Char.ofNat byte).utf8Size_pos
      refine ⟨by simp, ?_⟩
      rw [encode_cons_length]
      omega
  | case2 small two =>
      refine ⟨fun pending same => ?_, by simp [held]⟩
      obtain rfl := Option.some.inj same
      constructor <;> simp [least] <;> omega
  | case3 small two three =>
      refine ⟨fun pending same => ?_, by simp [held]⟩
      obtain rfl := Option.some.inj same
      constructor <;> simp [least] <;> (repeat' split) <;> omega
  | case4 small two three four =>
      refine ⟨fun pending same => ?_, by simp [held]⟩
      obtain rfl := Option.some.inj same
      constructor <;> simp [least] <;> (repeat' split) <;> omega
  | case5 small two three four => exact ⟨by simp, by decide⟩

theorem nextByte_suits {pending : Pending} (suits : pending.Suits) (byte : Nat) :
    (∀ moved ∈ (nextByte pending byte).1, moved.Suits) ∧
      pending.seen + 2 ≤ (encode (nextByte pending byte).2).length + held (nextByte pending byte).1 := by
  obtain ⟨seen, needed, lower, upper, long, scalar⟩ := suits
  fun_cases nextByte pending byte with
  | case1 inside codePoint last =>
      have bits : codePoint = pending.codePoint * 64 + (byte - 0x80) := by omega
      have done : pending.needed - pending.seen - 1 = 0 := by omega
      simp only [done, Nat.pow_zero, Nat.mul_one] at long scalar
      have size : pending.needed + 1 ≤ (Char.ofNat codePoint).utf8Size :=
        utf8Size_ofNat (by unfold Nat.isValidChar; omega) (by omega) (by omega) needed
      refine ⟨by simp, ?_⟩
      rw [encode_cons_length]
      omega
  | case2 inside codePoint more =>
      have bits : codePoint = pending.codePoint * 64 + (byte - 0x80) := by omega
      refine ⟨fun moved same => ?_, by simp [held]⟩
      obtain rfl := Option.some.inj same
      have steps : pending.needed - pending.seen - 1 = 1 ∧ pending.needed - (pending.seen + 1) - 1 = 0 ∨
          pending.needed - pending.seen - 1 = 2 ∧ pending.needed - (pending.seen + 1) - 1 = 1 := by omega
      refine ⟨by simp only; omega, needed, Nat.le_refl _, Nat.le_refl _, ?_, ?_⟩ <;>
        rcases steps with ⟨now, later⟩ | ⟨now, later⟩ <;>
        simp only [now, later] at long scalar ⊢ <;> omega
  | case3 outside =>
      have first := firstByte_suits byte
      have three : replacement.utf8Size = 3 := by decide
      refine ⟨first.1, ?_⟩
      simp only [encode_cons_length, three]
      omega

/-- No character is read from more bytes than it is written with. -/
theorem length_decode_le (bytes : List UInt8) : bytes.length ≤ (encode (decode none bytes)).length := by
  have run : ∀ state : Option Pending, (∀ pending ∈ state, pending.Suits) →
      held state + bytes.length ≤ (encode (decode state bytes)).length := by
    induction bytes with
    | nil =>
        intro state suits
        cases state with
        | none => simp [held, decode]
        | some pending =>
            have few := suits pending rfl
            have three : (encode [replacement]).length = 3 := by decide
            have enough : pending.seen + 1 ≤ 3 := Nat.le_trans few.seen few.needed
            simpa [held, decode, three] using enough
    | cons byte bytes ih =>
        intro state suits
        have moved : (∀ pending ∈ (step state byte.toNat).1, pending.Suits) ∧
            held state + 1 ≤ (encode (step state byte.toNat).2).length + held (step state byte.toNat).1 := by
          cases state with
          | none => exact firstByte_suits byte.toNat
          | some pending => exact nextByte_suits (suits pending rfl) byte.toNat
        have later := ih _ moved.1
        have now := moved.2
        rw [decode_cons, encode_append, List.length_append, List.length_cons]
        omega
  simpa [held] using run none (by simp)

end SecureChat.Library.Utf8
