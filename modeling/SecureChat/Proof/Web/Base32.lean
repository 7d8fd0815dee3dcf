import SecureChat.Construction.Web.Encryption
import SecureChat.Library.BitStream

namespace SecureChat.Web.TwoFactorAuth
open Library

/-- The bytes as numbers. -/
def byteBits (data : List UInt8) : List Bool := bitsOfAll 8 (data.map UInt8.toNat)

def digitBits (digits : List UInt32) : List Bool := bitsOfAll 5 (digits.map UInt32.toNat)

theorem and_thirtyOne_lt (value : UInt32) : (value &&& 31).toNat < 32 := by
  have mask : (31 : UInt32).toNat = 2 ^ 5 - 1 := rfl
  rw [UInt32.toNat_and, mask, Nat.and_two_pow_sub_one_eq_mod]
  exact Nat.mod_lt _ (by decide)

/-- The digits are the highest of the pending bits, and fewer than five bits are left. -/
theorem emitDigits_spec (value : UInt32) (bits : Nat) (room : bits ≤ 32) :
    (emitDigits value bits).2 < 5 ∧ (∀ digit ∈ (emitDigits value bits).1, digit.toNat < 32) ∧
      bitsOf bits value.toNat = digitBits (emitDigits value bits).1 ++ bitsOf (emitDigits value bits).2 value.toNat := by
  induction bits using emitDigits.induct value with
  | case1 rest digits left emitted ih =>
      obtain ⟨fewer, small, split⟩ := ih (by omega)
      have first : bitsOf (rest + 5) value.toNat =
          bitsOf 5 ((value >>> UInt32.ofNat rest) &&& 31).toNat ++ bitsOf rest value.toNat :=
        bitsOf_shiftRight_and value (by decide) (by decide) rest room
      have goes : emitDigits value (rest + 5) =
          (((value >>> UInt32.ofNat rest) &&& 31) :: (emitDigits value rest).1, (emitDigits value rest).2) := rfl
      rw [goes]
      refine ⟨fewer, List.forall_mem_cons.mpr ⟨and_thirtyOne_lt _, small⟩, ?_⟩
      rw [first, split, digitBits, digitBits, List.map_cons, bitsOfAll_cons, List.append_assoc]
  | case2 bits few =>
      have stays : emitDigits value bits = ([], bits) := emitDigits.eq_2 value bits few
      have small : bits < 5 := by
        by_contra enough
        obtain ⟨rest, same⟩ := Nat.exists_eq_add_of_le' (Nat.not_lt.mp enough)
        exact few rest same
      rw [stays]
      exact ⟨small, by simp, rfl⟩

/-- The last digit is filled with zeros. -/
theorem lastDigit_bits (value : UInt32) {bits : Nat} (few : bits < 5) :
    bitsOf 5 ((value <<< UInt32.ofNat (5 - bits)) &&& 31).toNat =
      bitsOf bits value.toNat ++ List.replicate (5 - bits) false := by
  have filled : bitsOf (bits + (5 - bits)) ((value <<< UInt32.ofNat (5 - bits)) ||| 0).toNat =
      bitsOf bits value.toNat ++ bitsOf (5 - bits) (0 : UInt32).toNat :=
    bitsOf_shiftLeft_or value (Nat.two_pow_pos _) (by omega) (by omega)
  have kept : bitsOf (0 + 5) (value <<< UInt32.ofNat (5 - bits)).toNat =
      bitsOf 5 ((value <<< UInt32.ofNat (5 - bits) >>> UInt32.ofNat 0) &&& UInt32.ofNat (2 ^ 5 - 1)).toNat ++
        bitsOf 0 (value <<< UInt32.ofNat (5 - bits)).toNat :=
    bitsOf_shiftRight_and _ (by decide) (by decide) 0 (by decide)
  have mask : UInt32.ofNat (2 ^ 5 - 1) = 31 := rfl
  have zero : (0 : UInt32).toNat = 0 := rfl
  have whole : bits + (5 - bits) = 5 := by omega
  have still : value <<< UInt32.ofNat (5 - bits) >>> UInt32.ofNat 0 = value <<< UInt32.ofNat (5 - bits) :=
    UInt32.shiftRight_zero
  rw [UInt32.or_zero, zero, bitsOf_zero, whole] at filled
  rw [still, mask, bitsOf.eq_1, List.append_nil, Nat.zero_add] at kept
  rw [← kept, filled]

/-- The digits are the pending bits and all bytes, and zeros fill the last digit. -/
theorem encodeFrom_spec (data : List UInt8) (bits : Nat) (value : UInt32) (few : bits < 5) :
    (∀ digit ∈ encodeFrom data bits value, digit.toNat < 32) ∧
      ∃ zeros, zeros < 5 ∧ digitBits (encodeFrom data bits value) =
        bitsOf bits value.toNat ++ (byteBits data ++ List.replicate zeros false) := by
  induction data generalizing bits value with
  | nil =>
      unfold encodeFrom
      split
      · rename_i positive
        refine ⟨fun digit member => ?_, 5 - bits, by omega, ?_⟩
        · rw [List.mem_singleton.mp member]
          exact and_thirtyOne_lt _
        · rw [digitBits, List.map_singleton, bitsOfAll_cons, bitsOfAll_nil, List.append_nil, lastDigit_bits value few]
          rfl
      · rename_i nothing
        obtain rfl : bits = 0 := Nat.eq_zero_of_not_pos nothing
        exact ⟨by simp, 0, by decide, rfl⟩
  | cons byte rest ih =>
      have wide : byte.toUInt32.toNat = byte.toNat := UInt8.toNat_toUInt32 byte
      have pushed : bitsOf (bits + 8) ((value <<< 8) ||| byte.toUInt32).toNat =
          bitsOf bits value.toNat ++ bitsOf 8 byte.toUInt32.toNat :=
        bitsOf_shiftLeft_or value (by rw [wide]; exact byte.toNat_lt) (by decide) (by omega)
      obtain ⟨left, small, split⟩ := emitDigits_spec ((value <<< 8) ||| byte.toUInt32) (bits + 8) (by omega)
      obtain ⟨small', zeros, few', later⟩ := ih _ ((value <<< 8) ||| byte.toUInt32) left
      have goes : encodeFrom (byte :: rest) bits value =
          (emitDigits ((value <<< 8) ||| byte.toUInt32) (bits + 8)).1 ++
            encodeFrom rest (emitDigits ((value <<< 8) ||| byte.toUInt32) (bits + 8)).2
              ((value <<< 8) ||| byte.toUInt32) := rfl
      rw [goes]
      refine ⟨List.forall_mem_append.mpr ⟨small, small'⟩, zeros, few', ?_⟩
      rw [digitBits] at later split
      rw [digitBits, List.map_append, bitsOfAll_append, later, ← List.append_assoc, ← split, pushed, wide, byteBits,
        byteBits, List.map_cons, bitsOfAll_cons]
      simp only [List.append_assoc]

/-- A masked byte keeps its value. -/
theorem toNat_and_byte (value : UInt32) : (value &&& 255).toUInt8.toNat = (value &&& 255).toNat := by
  have mask : (255 : UInt32).toNat = 2 ^ 8 - 1 := rfl
  rw [UInt32.toNat_toUInt8, UInt32.toNat_and, mask, Nat.and_two_pow_sub_one_eq_mod, Nat.mod_mod]

variable (platform : UpperCase)

/-- The bytes are the pending bits and all digits, but for the bits that fill no byte. -/
theorem decodeFrom_spec (input : List Char) (bits : Nat) (value : UInt32) (few : bits < 8)
    (digits : ∀ char ∈ input, ∀ index, base32Index platform char = some index → index < 32) :
    ∃ left, left.length < 8 ∧ bitsOf bits value.toNat ++ bitsOfAll 5 (input.filterMap (base32Index platform)) =
      byteBits (decodeFrom platform input bits value) ++ left := by
  induction input generalizing bits value with
  | nil =>
      refine ⟨bitsOf bits value.toNat, by rwa [bitsOf_length], ?_⟩
      rw [List.filterMap_nil, bitsOfAll_nil, List.append_nil]
      rfl
  | cons char rest ih =>
      rw [List.forall_mem_cons] at digits
      unfold decodeFrom
      cases known : base32Index platform char with
      | none =>
          rw [List.filterMap_cons_none known]
          exact ih bits value few digits.2
      | some index =>
          have small := digits.1 index known
          have word : (UInt32.ofNat index).toNat = index := by
            rw [UInt32.toNat_ofNat']
            omega
          have pushed : bitsOf (bits + 5) ((value <<< 5) ||| UInt32.ofNat index).toNat =
              bitsOf bits value.toNat ++ bitsOf 5 (UInt32.ofNat index).toNat :=
            bitsOf_shiftLeft_or value (by rw [word]; exact small) (by decide) (by omega)
          rw [word] at pushed
          rw [List.filterMap_cons_some known, bitsOfAll_cons, ← List.append_assoc, ← pushed]
          dsimp only
          split
          · rename_i full
            obtain ⟨left, fewer, later⟩ := ih (bits + 5 - 8) ((value <<< 5) ||| UInt32.ofNat index) (by omega) digits.2
            refine ⟨left, fewer, ?_⟩
            have byte : bitsOf (bits + 5 - 8 + 8) ((value <<< 5) ||| UInt32.ofNat index).toNat =
                bitsOf 8 (((value <<< 5) ||| UInt32.ofNat index) >>> UInt32.ofNat (bits + 5 - 8) &&& 255).toNat ++
                  bitsOf (bits + 5 - 8) ((value <<< 5) ||| UInt32.ofNat index).toNat :=
              bitsOf_shiftRight_and _ (by decide) (by decide) (bits + 5 - 8) (by omega)
            have narrow := toNat_and_byte (((value <<< 5) ||| UInt32.ofNat index) >>> UInt32.ofNat (bits + 5 - 8))
            rw [Nat.sub_add_cancel full] at byte
            rw [byte, List.append_assoc, later, byteBits, byteBits, List.map_cons, bitsOfAll_cons, narrow,
              List.append_assoc]
          · rename_i short
            exact ih (bits + 5) _ (by omega) digits.2

/-- A character stands for a digit in either case. -/
def inAlphabet (char : Char) : Bool := char.toUpper ∈ alphabet

theorem base32Index_ascii {char : Char} (ascii : char.toNat < 128) :
    base32Index platform char = if inAlphabet char then some (alphabet.idxOf char.toUpper) else none := by
  rw [base32Index, platform.ascii char ascii, firstOccurrence_singleton, inAlphabet]
  simp only [decide_eq_true_eq]

theorem idxOf_base32Char {digit : UInt32} (small : digit.toNat < 32) : alphabet.idxOf (base32Char digit) = digit.toNat := by
  have all : ∀ digit : Fin 32, alphabet.idxOf (alphabet.getD digit 'A') = digit := by decide
  exact all ⟨digit.toNat, small⟩

/-- Only the characters of the alphabet count. -/
theorem filterMap_base32Index {text : List Char} (ascii : ∀ char ∈ text, char.toNat < 128) :
    text.filterMap (base32Index platform) = ((text.filter inAlphabet).map Char.toUpper).map alphabet.idxOf := by
  induction text with
  | nil => rfl
  | cons char rest ih =>
      rw [List.forall_mem_cons] at ascii
      have known := base32Index_ascii platform ascii.1
      cases inside : inAlphabet char with
      | true =>
          rw [if_pos inside] at known
          rw [List.filterMap_cons_some known, List.filter_cons_of_pos inside, ih ascii.2, List.map_cons, List.map_cons]
      | false =>
          rw [if_neg (by simp [inside])] at known
          rw [List.filterMap_cons_none known, List.filter_cons_of_neg (by simp [inside]), ih ascii.2]

/-- A text is decoded to the bytes whose code its digits spell in either case. -/
theorem base32Decode_of_digits {text : List Char} {data : List UInt8} (ascii : ∀ char ∈ text, char.toNat < 128)
    (spells : (text.filter inAlphabet).map Char.toUpper = base32Encode data) : base32Decode platform text = data := by
  obtain ⟨small, zeros, few, coded⟩ := encodeFrom_spec data 0 0 (by decide)
  have digits : text.filterMap (base32Index platform) = (encodeFrom data 0 0).map UInt32.toNat := by
    rw [filterMap_base32Index platform ascii, spells, base32Encode, List.map_map]
    exact List.map_congr_left fun digit member => idxOf_base32Char (small digit member)
  have bounded : ∀ char ∈ text, ∀ index, base32Index platform char = some index → index < 32 := by
    intro char member index known
    rw [base32Index_ascii platform (ascii char member)] at known
    split_ifs at known with inside
    rw [← Option.some.inj known]
    exact List.idxOf_lt_length_of_mem (of_decide_eq_true inside)
  obtain ⟨left, fewer, decoded⟩ := decodeFrom_spec platform text 0 0 (by decide) bounded
  rw [digits, bitsOf, List.nil_append] at decoded
  rw [digitBits, decoded, bitsOf, List.nil_append] at coded
  have bytes : ∀ bytes : List UInt8, ∀ number ∈ bytes.map UInt8.toNat, number < 2 ^ 8 := by
    intro bytes number member
    obtain ⟨byte, -, rfl⟩ := List.mem_map.mp member
    exact byte.toNat_lt
  have same := eq_of_bitsOfAll (bytes _) (bytes _) fewer (by rw [List.length_replicate]; omega) coded
  exact List.map_injective_iff.mpr (fun first second => UInt8.toNat_inj.mp) same

/-- The digits of the encoded text are in upper case. -/
theorem base32Encode_mem {data : List UInt8} {char : Char} (member : char ∈ base32Encode data) : char ∈ alphabet := by
  obtain ⟨digit, coded, rfl⟩ := List.mem_map.mp member
  have small := (encodeFrom_spec data 0 0 (by decide)).1 digit coded
  have all : ∀ digit : Fin 32, alphabet.getD digit 'A' ∈ alphabet := by decide
  exact all ⟨digit.toNat, small⟩

/-- Encoded secrets are read back, also in lower case and with any other characters of ASCII between the digits. -/
theorem base32Decode_base32Encode (data : List UInt8) :
    base32Decode platform (base32Encode data) = data ∧
      ∀ text : List Char, (∀ char ∈ text, char.toNat < 128) →
        text.filter inAlphabet = (base32Encode data).map Char.toLower → base32Decode platform text = data := by
  have letters : ∀ char ∈ alphabet, char.toNat < 128 ∧ inAlphabet char = true ∧ char.toUpper = char ∧
      char.toLower.toUpper = char := by
    have all : alphabet.all (fun char => char.toNat < 128 ∧ inAlphabet char = true ∧ char.toUpper = char ∧
        char.toLower.toUpper = char) = true := by decide
    simpa only [List.all_eq_true, decide_eq_true_eq] using all
  have digits := fun char (member : char ∈ base32Encode data) => letters char (base32Encode_mem member)
  constructor
  · refine base32Decode_of_digits platform (fun char member => (digits char member).1) ?_
    rw [List.filter_eq_self.mpr fun char member => (digits char member).2.1]
    exact (List.map_congr_left fun char member => (digits char member).2.2.1).trans (List.map_id _)
  · intro text ascii lower
    refine base32Decode_of_digits platform ascii ?_
    rw [lower, List.map_map]
    exact (List.map_congr_left fun char member => (digits char member).2.2.2).trans (List.map_id _)

theorem base32Decode_base32Encode_hyphen :
    base32Decode ⟨fun char => [char.toUpper], fun _ _ => rfl⟩ ['m', '-', 'y', ' '] = [0x66] :=
  (base32Decode_base32Encode ⟨fun char => [char.toUpper], fun _ _ => rfl⟩ [0x66]).2 ['m', '-', 'y', ' ']
    (by simp) (by decide)

end SecureChat.Web.TwoFactorAuth
