import Mathlib.Data.List.Basic
import Mathlib.Tactic.Common

namespace SecureChat.Library

def doubleQuote : UInt8 := 0x22

def backslash : UInt8 := 0x5C

/-- The letters that may stand alone behind a backslash. -/
def shortLetters : List UInt8 := [0x22, 0x5C, 0x2F, 0x62, 0x66, 0x6E, 0x72, 0x74]

/-- The value of a hexadecimal digit in either case. -/
def hexValue (byte : UInt8) : Option Nat :=
  if 0x30 ≤ byte ∧ byte ≤ 0x39 then some (byte.toNat - 0x30)
  else if 0x61 ≤ byte ∧ byte ≤ 0x66 then some (byte.toNat - 0x57)
  else if 0x41 ≤ byte ∧ byte ≤ 0x46 then some (byte.toNat - 0x37)
  else none

/-- The text between the quotes of a JSON string. Control characters, quotes and backslashes stand only
in complete escape sequences. -/
inductive JsonBody : List UInt8 → Prop where
  | nil : JsonBody []
  | plain {byte : UInt8} {rest : List UInt8} (printable : 0x20 ≤ byte) (noQuote : byte ≠ doubleQuote)
      (noBackslash : byte ≠ backslash) (later : JsonBody rest) : JsonBody (byte :: rest)
  | short {letter : UInt8} {rest : List UInt8} (known : letter ∈ shortLetters) (later : JsonBody rest) :
      JsonBody (backslash :: letter :: rest)
  | unicode {first second third fourth : UInt8} {rest : List UInt8}
      (digits : ∀ digit ∈ [first, second, third, fourth], hexValue digit ≠ none) (later : JsonBody rest) :
      JsonBody (backslash :: 0x75 :: first :: second :: third :: fourth :: rest)

/-- What a reader of JSON takes for the body of a string, and the text behind the closing quote. -/
def readJsonString : List UInt8 → Option (List UInt8 × List UInt8)
  | [] => none
  | byte :: rest =>
      if byte = doubleQuote then some ([], rest)
      else if byte = backslash then
        match rest with
        | [] => none
        | letter :: tail => (readJsonString tail).map fun found => (byte :: letter :: found.1, found.2)
      else (readJsonString rest).map fun found => (byte :: found.1, found.2)

theorem readJsonString_quote (rest : List UInt8) : readJsonString (doubleQuote :: rest) = some ([], rest) := by
  unfold readJsonString
  exact if_pos rfl

theorem readJsonString_plain {byte : UInt8} (noQuote : byte ≠ doubleQuote) (noBackslash : byte ≠ backslash)
    (rest : List UInt8) :
    readJsonString (byte :: rest) = (readJsonString rest).map fun found => (byte :: found.1, found.2) := by
  rw [readJsonString.eq_def]
  dsimp only
  rw [if_neg noQuote, if_neg noBackslash]

theorem readJsonString_escape (letter : UInt8) (rest : List UInt8) :
    readJsonString (backslash :: letter :: rest) =
      (readJsonString rest).map fun found => (backslash :: letter :: found.1, found.2) := by
  rw [readJsonString.eq_def]
  dsimp only
  rw [if_neg (by decide), if_pos rfl]

/-- A hexadecimal digit is neither a quote nor a backslash. -/
theorem hexValue_plain {digit : UInt8} (known : hexValue digit ≠ none) :
    digit ≠ doubleQuote ∧ digit ≠ backslash := by
  constructor
  · rintro rfl
    exact known rfl
  · rintro rfl
    exact known rfl

theorem hexValue_printable {digit : UInt8} (known : hexValue digit ≠ none) : 0x20 ≤ digit := by
  unfold hexValue at known
  split_ifs at known with decimal lower upper
  · exact UInt8.le_trans (by decide) decimal.1
  · exact UInt8.le_trans (by decide) lower.1
  · exact UInt8.le_trans (by decide) upper.1
  · exact absurd rfl known

/-- There are no control characters in a body. -/
theorem JsonBody.printable {body : List UInt8} (valid : JsonBody body) : ∀ byte ∈ body, 0x20 ≤ byte := by
  induction valid with
  | nil => simp
  | plain printable noQuote noBackslash later ih => simpa [printable] using ih
  | short known later ih =>
      have letters : ∀ letter ∈ shortLetters, (0x20 : UInt8) ≤ letter := by decide +kernel
      have slash : (0x20 : UInt8) ≤ backslash := by decide
      simpa [slash, letters _ known] using ih
  | @unicode first second third fourth tail digits later ih =>
      have slash : (0x20 : UInt8) ≤ backslash := by decide
      have printable (digit : UInt8) (member : digit ∈ [first, second, third, fourth]) :=
        hexValue_printable (digits digit member)
      simpa [slash, printable first, printable second, printable third, printable fourth] using ih

/-- A reader finds the end of the string where the body ends. -/
theorem JsonBody.read {body : List UInt8} (valid : JsonBody body) (rest : List UInt8) :
    readJsonString (body ++ doubleQuote :: rest) = some (body, rest) := by
  induction valid with
  | nil => exact readJsonString_quote rest
  | plain printable noQuote noBackslash later ih =>
      rw [List.cons_append, readJsonString_plain noQuote noBackslash, ih]
      rfl
  | short known later ih =>
      rw [List.cons_append, List.cons_append, readJsonString_escape, ih]
      rfl
  | @unicode first second third fourth tail digits later ih =>
      have plain (digit : UInt8) (member : digit ∈ [first, second, third, fourth]) :=
        hexValue_plain (digits digit member)
      have atFirst := plain first (by simp)
      have atSecond := plain second (by simp)
      have atThird := plain third (by simp)
      have atFourth := plain fourth (by simp)
      simp only [List.cons_append]
      rw [readJsonString_escape, readJsonString_plain atFirst.1 atFirst.2,
        readJsonString_plain atSecond.1 atSecond.2, readJsonString_plain atThird.1 atThird.2,
        readJsonString_plain atFourth.1 atFourth.2, ih]
      rfl

end SecureChat.Library
