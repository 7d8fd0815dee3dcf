import SecureChat.Library.Utf8

namespace SecureChat.Library.JsText

/-- The first half of a surrogate pair. -/
def isHigh (unit : UInt16) : Bool := 0xD800 ≤ unit.toNat && unit.toNat ≤ 0xDBFF

/-- The second half of a surrogate pair. -/
def isLow (unit : UInt16) : Bool := 0xDC00 ≤ unit.toNat && unit.toNat ≤ 0xDFFF

/-- The character of a code unit that is in no pair. -/
def single (unit : UInt16) : Char :=
  if isHigh unit || isLow unit then Utf8.replacement else Char.ofNat unit.toNat

/-- The character of a surrogate pair. -/
def pair (high low : UInt16) : Char := Char.ofNat (0x10000 + (high.toNat - 0xD800) * 0x400 + (low.toNat - 0xDC00))

/-- The characters of a string, a replacement for each lone surrogate. -/
def scalars : List UInt16 → List Char
  | [] => []
  | [unit] => [single unit]
  | unit :: next :: rest =>
      if isHigh unit && isLow next then pair unit next :: scalars rest else single unit :: scalars (next :: rest)

/-- No surrogate of the string stands alone. -/
def isWellFormed : List UInt16 → Bool
  | [] => true
  | [unit] => !isHigh unit && !isLow unit
  | unit :: next :: rest =>
      if isHigh unit && isLow next then isWellFormed rest
      else !isHigh unit && !isLow unit && isWellFormed (next :: rest)

def charUnits (char : Char) : List UInt16 :=
  if char.toNat < 0x10000 then [UInt16.ofNat char.toNat]
  else [UInt16.ofNat (0xD800 + (char.toNat - 0x10000) / 0x400), UInt16.ofNat (0xDC00 + (char.toNat - 0x10000) % 0x400)]

/-- The code units of a list of characters. -/
def units (text : List Char) : List UInt16 := text.flatMap charUnits

def byteOrderMark : Char := Char.ofNat 0xFEFF

/-- A decoder leaves out a byte order mark in front. -/
def withoutMark (text : List Char) : List Char := if text.head? = some byteOrderMark then text.tail else text

/-- `TextEncoder.encode`. -/
def textEncode (text : List UInt16) : List UInt8 := Utf8.encode (scalars text)

/-- `TextDecoder.decode`. -/
def textDecode (bytes : List UInt8) : List UInt16 := units (withoutMark (Utf8.decode none bytes))

theorem units_cons (char : Char) (text : List Char) : units (char :: text) = charUnits char ++ units text :=
  List.flatMap_cons

theorem toNat_ofNat (value : Nat) (small : value < 0x10000) : (UInt16.ofNat value).toNat = value := by
  rw [UInt16.toNat_ofNat', Nat.mod_eq_of_lt (by omega)]

/-- A unit outside the surrogates is read alone. -/
theorem scalars_cons {unit : UInt16} (outside : (isHigh unit || isLow unit) = false) (rest : List UInt16) :
    scalars (unit :: rest) = Char.ofNat unit.toNat :: scalars rest := by
  obtain ⟨high, low⟩ := Bool.or_eq_false_iff.mp outside
  cases rest <;> simp [scalars, single, high, low]

theorem isWellFormed_cons {unit : UInt16} (outside : (isHigh unit || isLow unit) = false) (rest : List UInt16) :
    isWellFormed (unit :: rest) = isWellFormed rest := by
  obtain ⟨high, low⟩ := Bool.or_eq_false_iff.mp outside
  cases rest <;> simp [isWellFormed, high, low]

/-- What the units of one character are. -/
theorem charUnits_cases (char : Char) :
    (∃ unit, charUnits char = [unit] ∧ (isHigh unit || isLow unit) = false ∧ Char.ofNat unit.toNat = char) ∨
      ∃ high low, charUnits char = [high, low] ∧ (isHigh high && isLow low) = true ∧ pair high low = char := by
  have valid : char.toNat < 0xD800 ∨ 0xDFFF < char.toNat ∧ char.toNat < 0x110000 := char.valid
  have same : Char.ofNat char.toNat = char := Char.ofNat_toNat char
  unfold charUnits
  generalize char.toNat = value at valid same ⊢
  split
  · rename_i small
    refine Or.inl ⟨_, rfl, ?_, ?_⟩
    · simp only [isHigh, isLow, toNat_ofNat value small, Bool.or_eq_false_iff, Bool.and_eq_false_iff,
        decide_eq_false_iff_not]
      omega
    · rw [toNat_ofNat value small, same]
  · rename_i large
    refine Or.inr ⟨_, _, rfl, ?_, ?_⟩
    · rw [isHigh, isLow, toNat_ofNat _ (by omega), toNat_ofNat _ (by omega)]
      simp only [Bool.and_eq_true, decide_eq_true_eq]
      omega
    · rw [pair, toNat_ofNat _ (by omega), toNat_ofNat _ (by omega)]
      rw [show 0x10000 + (0xD800 + (value - 0x10000) / 0x400 - 0xD800) * 0x400 +
        (0xDC00 + (value - 0x10000) % 0x400 - 0xDC00) = value by omega, same]

/-- Characters are read back from their units. -/
theorem scalars_units (text : List Char) : scalars (units text) = text := by
  induction text with
  | nil => rfl
  | cons char text ih =>
      rw [units_cons]
      rcases charUnits_cases char with ⟨unit, same, outside, read⟩ | ⟨high, low, same, both, read⟩
      · rw [same, List.singleton_append, scalars_cons outside, ih, read]
      · rw [same, List.cons_append, List.singleton_append, scalars, if_pos both, ih, read]

theorem isWellFormed_units (text : List Char) : isWellFormed (units text) = true := by
  induction text with
  | nil => rfl
  | cons char text ih =>
      rw [units_cons]
      rcases charUnits_cases char with ⟨unit, same, outside, read⟩ | ⟨high, low, same, both, read⟩
      · rw [same, List.singleton_append, isWellFormed_cons outside, ih]
      · rw [same, List.cons_append, List.singleton_append, isWellFormed, if_pos both, ih]

theorem charUnits_single {unit : UInt16} (outside : (isHigh unit || isLow unit) = false) :
    charUnits (Char.ofNat unit.toNat) = [unit] := by
  have valid : unit.toNat.isValidChar := by
    have small := unit.toNat_lt
    simp only [isHigh, isLow, Bool.or_eq_false_iff, Bool.and_eq_false_iff, decide_eq_false_iff_not] at outside
    unfold Nat.isValidChar
    omega
  rw [charUnits, Utf8.toNat_char valid, if_pos unit.toNat_lt, UInt16.ofNat_toNat]

theorem charUnits_pair {high low : UInt16} (both : (isHigh high && isLow low) = true) :
    charUnits (pair high low) = [high, low] := by
  simp only [isHigh, isLow, Bool.and_eq_true, decide_eq_true_eq] at both
  have number : (pair high low).toNat = 0x10000 + (high.toNat - 0xD800) * 0x400 + (low.toNat - 0xDC00) :=
    Utf8.toNat_char (by unfold Nat.isValidChar; omega)
  have large : ¬ (pair high low).toNat < 0x10000 := by omega
  have first : UInt16.ofNat (0xD800 + ((pair high low).toNat - 0x10000) / 0x400) = high := by
    rw [← UInt16.toNat_inj, toNat_ofNat _ (by omega)]
    omega
  have second : UInt16.ofNat (0xDC00 + ((pair high low).toNat - 0x10000) % 0x400) = low := by
    rw [← UInt16.toNat_inj, toNat_ofNat _ (by omega)]
    omega
  rw [charUnits, if_neg large, first, second]

/-- The units of a string without lone surrogates are read back from its characters. -/
theorem units_scalars {text : List UInt16} (formed : isWellFormed text = true) : units (scalars text) = text := by
  fun_induction scalars text with
  | case1 => rfl
  | case2 unit =>
      have outside : (isHigh unit || isLow unit) = false := by simpa [isWellFormed] using formed
      rw [single, if_neg (by simp [outside]), units_cons, charUnits_single outside]
      rfl
  | case3 unit next rest both ih =>
      rw [isWellFormed, if_pos both] at formed
      rw [units_cons, charUnits_pair both, ih formed]
      rfl
  | case4 unit next rest apart ih =>
      rw [isWellFormed, if_neg apart, Bool.and_eq_true] at formed
      have outside : (isHigh unit || isLow unit) = false := by simpa using formed.1
      rw [single, if_neg (by simp [outside]), units_cons, charUnits_single outside, ih formed.2]
      rfl

/-- A string comes back from its bytes if no surrogate stands alone and no byte order mark stands in front. -/
theorem textDecode_textEncode (text : List UInt16) :
    textDecode (textEncode text) = text ↔ isWellFormed text = true ∧ text.head? ≠ some 0xFEFF := by
  rw [textDecode, textEncode, Utf8.decode_encode]
  constructor
  · intro same
    have formed : isWellFormed text = true := same ▸ isWellFormed_units _
    refine ⟨formed, fun mark => ?_⟩
    obtain ⟨rest, rfl⟩ : ∃ rest, text = 0xFEFF :: rest := by
      cases text with
      | nil => cases mark
      | cons unit rest => exact ⟨rest, by rw [Option.some.inj mark]⟩
    have read : scalars (0xFEFF :: rest) = byteOrderMark :: scalars rest := scalars_cons (by decide) rest
    have later : isWellFormed rest = true := (isWellFormed_cons (by decide) rest).symm.trans formed
    rw [read, withoutMark, if_pos List.head?_cons, List.tail_cons, units_scalars later] at same
    exact absurd (congrArg List.length same) (by simp)
  · rintro ⟨formed, unmarked⟩
    have kept : withoutMark (scalars text) = scalars text := by
      rw [withoutMark, if_neg]
      intro mark
      obtain ⟨rest, read⟩ := List.head?_eq_some_iff.mp mark
      have whole := units_scalars formed
      rw [read, units_cons] at whole
      exact unmarked (whole ▸ rfl)
    rw [kept, units_scalars formed]

/-- A string that was read from bytes is written with at most three bytes less, those of a mark. -/
theorem length_textDecode_le (bytes : List UInt8) : bytes.length ≤ (textEncode (textDecode bytes)).length + 3 := by
  have whole := Utf8.length_decode_le bytes
  rw [textEncode, textDecode, scalars_units]
  refine Nat.le_trans whole ?_
  rw [withoutMark]
  split
  · rename_i mark
    obtain ⟨rest, read⟩ := List.head?_eq_some_iff.mp mark
    have three : byteOrderMark.utf8Size = 3 := by decide
    rw [read, Utf8.encode_cons_length, three, List.tail_cons]
    exact Nat.le_of_eq (Nat.add_comm _ _)
  · exact Nat.le_add_right _ _

end SecureChat.Library.JsText
