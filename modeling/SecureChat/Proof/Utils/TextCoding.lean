import SecureChat.Construction.Utils.Json
import SecureChat.Proof.Utils.Strings

namespace SecureChat.Utils
open Library

/-- The ways in which one character is written. -/
inductive WrittenAs (byte : UInt8) : List UInt8 → Prop where
  | short {letter : UInt8} (known : shortEscape letter = some byte) : WrittenAs byte [backslash, letter]
  | hex {high low : UInt8} (small : byte ≤ 0x7F) (code : readHexCode [0x30, 0x30, high, low] = some byte.toNat) :
      WrittenAs byte [backslash, 0x75, 0x30, 0x30, high, low]
  | plain (printable : 0x20 ≤ byte) (noQuote : byte ≠ doubleQuote) (noBackslash : byte ≠ backslash) :
      WrittenAs byte [byte]

/-- The two digits of a control character are read back as its number. -/
theorem readHexCode_control {byte : UInt8} (control : byte < 0x20) :
    readHexCode [0x30, 0x30, lowerHexDigit (byte / 16), lowerHexDigit (byte % 16)] = some byte.toNat := by
  have all : ∀ number : Fin 32, readHexCode [0x30, 0x30, lowerHexDigit (UInt8.ofNat number / 16),
      lowerHexDigit (UInt8.ofNat number % 16)] = some (UInt8.ofNat number).toNat := by decide
  have digits := all ⟨byte.toNat, UInt8.lt_iff_toNat_lt.mp control⟩
  rwa [UInt8.ofNat_toNat] at digits

theorem jsonEscapeByte_written (byte : UInt8) : WrittenAs byte (jsonEscapeByte byte) := by
  unfold jsonEscapeByte
  split_ifs with quote slash backspace formFeed newline carriage tab control
  case pos => exact .short (by rw [quote]; rfl)
  case pos => exact .short (by rw [slash]; rfl)
  case pos => exact .short (by rw [backspace]; rfl)
  case pos => exact .short (by rw [formFeed]; rfl)
  case pos => exact .short (by rw [newline]; rfl)
  case pos => exact .short (by rw [carriage]; rfl)
  case pos => exact .short (by rw [tab]; rfl)
  case pos =>
    have low : byte ≤ 0x7F := UInt8.le_of_lt (UInt8.lt_trans control (by decide))
    exact .hex low (readHexCode_control control)
  case neg => exact .plain (UInt8.not_lt.mp control) quote slash

theorem readHexCode_append {digits : List UInt8} {code : Nat} (known : readHexCode digits = some code)
    (rest : List UInt8) : readHexCode (digits ++ rest) = some code := by
  unfold readHexCode at known
  split at known
  · exact known
  · exact absurd known (by simp)

/-- What is written for a character is read as that character, whatever follows. -/
theorem WrittenAs.unescape {byte : UInt8} {written : List UInt8} (nonzero : byte ≠ 0)
    (stands : WrittenAs byte written) (rest : List UInt8) :
    jsonUnescapeFrom 0 (written ++ rest) = byte :: jsonUnescapeFrom 0 rest := by
  cases stands with
  | @short letter known =>
      have value : jsonEscapeValue letter rest = ([byte], 0) := by
        unfold jsonEscapeValue
        rw [known]
      rw [List.cons_append, List.cons_append, List.nil_append, jsonUnescapeFrom_escape, value]
      rfl
  | @hex high low small code =>
      have read := readHexCode_append code rest
      have character : unicodeBytes byte.toNat = [byte] := by
        have positive : byte.toNat ≠ 0 := fun zero => nonzero (UInt8.toNat_inj.mp zero)
        have ascii : byte.toNat ≤ 0x7F := UInt8.le_iff_toNat_le.mp small
        rw [unicodeBytes, if_neg positive, if_pos ascii, UInt8.ofNat_toNat]
      have value : jsonEscapeValue 0x75 ([0x30, 0x30, high, low] ++ rest) = ([byte], 4) := by
        unfold jsonEscapeValue
        rw [read]
        dsimp only
        rw [character]
        rfl
      rw [List.cons_append, List.cons_append, jsonUnescapeFrom_escape, value]
      simp [jsonUnescapeFrom]
  | plain printable noQuote noBackslash =>
      rw [List.singleton_append]
      exact jsonUnescapeFrom_plain noBackslash rest

theorem shortEscape_mem {letter char : UInt8} (known : shortEscape letter = some char) :
    letter ∈ shortLetters := by
  unfold shortEscape at known
  unfold shortLetters
  split_ifs at known
  all_goals simp [*]

/-- The digits of a code that is read are hexadecimal digits. -/
theorem readHexCode_digits {first second third fourth : UInt8} {rest : List UInt8} {code : Nat}
    (known : readHexCode (first :: second :: third :: fourth :: rest) = some code) :
    ∀ digit ∈ [first, second, third, fourth], hexValue digit ≠ none := by
  simp only [readHexCode, Option.bind_eq_bind, Option.bind_eq_some_iff] at known
  obtain ⟨value, atFirst, value', atSecond, value'', atThird, value''', atFourth, -⟩ := known
  simp [atFirst, atSecond, atThird, atFourth]

theorem WrittenAs.body {byte : UInt8} {written : List UInt8} (stands : WrittenAs byte written)
    {rest : List UInt8} (later : JsonBody rest) : JsonBody (written ++ rest) := by
  cases stands with
  | short known => exact .short (shortEscape_mem known) later
  | hex small code => exact .unicode (readHexCode_digits code) later
  | plain printable noQuote noBackslash => exact .plain printable noQuote noBackslash later

theorem jsonUnescapeFrom_flatMap {bytes : List UInt8} (noZero : 0 ∉ bytes) :
    jsonUnescapeFrom 0 (bytes.flatMap jsonEscapeByte) = bytes := by
  induction bytes with
  | nil => simp [jsonUnescapeFrom]
  | cons byte rest ih =>
      have nonzero : byte ≠ 0 := (List.ne_of_not_mem_cons noZero).symm
      rw [List.flatMap_cons, (jsonEscapeByte_written byte).unescape nonzero,
        ih (List.not_mem_of_not_mem_cons noZero)]

theorem jsonBody_flatMap (bytes : List UInt8) : JsonBody (bytes.flatMap jsonEscapeByte) := by
  induction bytes with
  | nil => exact .nil
  | cons byte rest ih =>
      rw [List.flatMap_cons]
      exact (jsonEscapeByte_written byte).body ih

/-- Escaping can be taken back. There are no control characters in the escaped text, and a reader of JSON
finds the end of the string at the quote behind it. -/
theorem utilsJsonEscape_invertible (str : CString) :
    utilsJsonUnescape (utilsJsonEscape str) = str ∧ JsonBody (utilsJsonEscape str).val ∧
      (∀ byte ∈ (utilsJsonEscape str).val, 0x20 ≤ byte) ∧
      ∀ rest, readJsonString ((utilsJsonEscape str).val ++ doubleQuote :: rest) =
        some ((utilsJsonEscape str).val, rest) := by
  have body : JsonBody (utilsJsonEscape str).val := jsonBody_flatMap str.val
  refine ⟨?_, body, body.printable, body.read⟩
  apply Subtype.ext
  exact jsonUnescapeFrom_flatMap str.property

/-- The digits `0` to `9` and `A` to `F`. -/
def isUpperHex (digit : UInt8) : Bool := 0x30 ≤ digit && digit ≤ 0x39 || 0x41 ≤ digit && digit ≤ 0x46

/-- A text of unreserved characters, plus signs and escapes with two digits in upper case. -/
inductive UrlText : List UInt8 → Prop
  | nil : UrlText []
  | plain {byte : UInt8} {rest : List UInt8} (free : unreserved byte = true) (later : UrlText rest) :
      UrlText (byte :: rest)
  | plus {rest : List UInt8} (later : UrlText rest) : UrlText (plus :: rest)
  | escape {high low : UInt8} {rest : List UInt8} (upper : isUpperHex high = true) (lower : isUpperHex low = true)
      (later : UrlText rest) : UrlText (percent :: high :: low :: rest)

/-- The two digits of a byte are in upper case, and they are read back as the byte. -/
theorem upperHexDigit_spec {number : UInt8} (small : number.toNat < 16) :
    isUpperHex (upperHexDigit number) = true ∧ hexValue (upperHexDigit number) = some number.toNat := by
  have all : ∀ digit : Fin 16, isUpperHex (upperHexDigit (UInt8.ofNat digit)) = true ∧
      hexValue (upperHexDigit (UInt8.ofNat digit)) = some (UInt8.ofNat digit).toNat := by decide
  have digit := all ⟨number.toNat, small⟩
  rwa [UInt8.ofNat_toNat] at digit

theorem digits_toNat (byte : UInt8) : (byte >>> 4).toNat * 16 + (byte &&& 15).toNat = byte.toNat := by
  have shift : (byte >>> 4).toNat = byte.toNat >>> 4 := rfl
  have mask : (15 : UInt8).toNat = 2 ^ 4 - 1 := rfl
  rw [shift, Nat.shiftRight_eq_div_pow, UInt8.toNat_and, mask, Nat.and_two_pow_sub_one_eq_mod]
  omega

/-- An unreserved character has no role of its own in the format. -/
theorem unreserved_plain {byte : UInt8} (free : unreserved byte = true) :
    byte ≠ 0 ∧ byte ≠ percent ∧ byte ≠ plus := by
  refine ⟨?_, ?_, ?_⟩
  all_goals
    rintro rfl
    exact absurd free (by decide)

theorem readEscape_digits (byte : UInt8) (rest : List UInt8) :
    readEscape (upperHexDigit (byte >>> 4) :: upperHexDigit (byte &&& 15) :: rest) = some (some byte) := by
  have high := (upperHexDigit_spec (shiftRight_four_lt byte)).2
  have low := (upperHexDigit_spec (and_fifteen_lt byte)).2
  simp only [readEscape, List.getElem?_cons_zero, List.getElem?_cons_succ, Option.bind_eq_bind, Option.bind_some, high,
    low, digits_toNat, UInt8.ofNat_toNat]

theorem urlEncodeByte_text (byte : UInt8) {rest : List UInt8} (later : UrlText rest) :
    UrlText (urlEncodeByte byte ++ rest) := by
  unfold urlEncodeByte
  split_ifs with free blank
  · exact .plain free later
  · exact .plus later
  · exact .escape (upperHexDigit_spec (shiftRight_four_lt byte)).1 (upperHexDigit_spec (and_fifteen_lt byte)).1 later

theorem urlText_flatMap (bytes : List UInt8) : UrlText (bytes.flatMap urlEncodeByte) := by
  induction bytes with
  | nil => exact .nil
  | cons byte rest ih => exact urlEncodeByte_text byte ih

theorem urlDecodeFrom_plain {byte : UInt8} (nonzero : byte ≠ 0) (noPercent : byte ≠ percent)
    (noPlus : byte ≠ plus) (rest : List UInt8) :
    urlDecodeFrom 0 (byte :: rest) = (urlDecodeFrom 0 rest).map (byte :: ·) := by
  rw [urlDecodeFrom, if_neg nonzero, if_neg noPercent, if_neg noPlus]

theorem urlDecodeFrom_plus (rest : List UInt8) :
    urlDecodeFrom 0 (plus :: rest) = (urlDecodeFrom 0 rest).map (space :: ·) := by
  rw [urlDecodeFrom, if_neg (by decide), if_neg (by decide), if_pos rfl]

theorem urlDecodeFrom_end (behind : List UInt8) : urlDecodeFrom 0 (0 :: behind) = some [] := by
  rw [urlDecodeFrom, if_pos rfl]

/-- What is written for a character is read as that character, whatever follows. -/
theorem urlDecodeFrom_encodeByte {byte : UInt8} (nonzero : byte ≠ 0) (rest : List UInt8) :
    urlDecodeFrom 0 (urlEncodeByte byte ++ rest) = (urlDecodeFrom 0 rest).map (byte :: ·) := by
  unfold urlEncodeByte
  split_ifs with free blank
  · obtain ⟨-, noPercent, noPlus⟩ := unreserved_plain free
    exact urlDecodeFrom_plain nonzero noPercent noPlus rest
  · rw [blank]
    exact urlDecodeFrom_plus rest
  · have char : appendedChar byte = [byte] := if_neg nonzero
    rw [List.cons_append, List.cons_append, List.singleton_append, urlDecodeFrom, if_neg (by decide), if_pos rfl,
      readEscape_digits]
    simp only [char, urlDecodeFrom, List.singleton_append]

theorem urlDecodeFrom_flatMap {bytes : List UInt8} (noZero : 0 ∉ bytes) (behind : List UInt8) :
    urlDecodeFrom 0 (bytes.flatMap urlEncodeByte ++ 0 :: behind) = some bytes := by
  induction bytes with
  | nil => exact urlDecodeFrom_end behind
  | cons byte rest ih =>
      have nonzero : byte ≠ 0 := (List.ne_of_not_mem_cons noZero).symm
      rw [List.flatMap_cons, List.append_assoc, urlDecodeFrom_encodeByte nonzero,
        ih (List.not_mem_of_not_mem_cons noZero), Option.map_some]

/-- The look-ahead sees the same whatever stands behind the end, and an escape lies inside the string. -/
theorem readEscape_inside (rest : List UInt8) :
    ∃ found, (∀ behind, readEscape (rest ++ 0 :: behind) = some found) ∧ (found ≠ none → 2 ≤ rest.length) := by
  have ending : hexValue 0 = none := by decide
  cases rest with
  | nil =>
      refine ⟨none, fun behind => ?_, fun some => absurd rfl some⟩
      rw [List.nil_append, readEscape, List.getElem?_cons_zero, Option.bind_eq_bind, Option.bind_some, ending]
  | cons first tail =>
      cases digit : hexValue first with
      | none =>
          refine ⟨none, fun behind => ?_, fun some => absurd rfl some⟩
          rw [List.cons_append, readEscape, List.getElem?_cons_zero, Option.bind_eq_bind, Option.bind_some, digit]
      | some high =>
          cases tail with
          | nil =>
              refine ⟨none, fun behind => ?_, fun some => absurd rfl some⟩
              simp only [readEscape, List.cons_append, List.nil_append, List.getElem?_cons_zero,
                List.getElem?_cons_succ, Option.bind_eq_bind, Option.bind_some, digit, ending]
          | cons second tail =>
              refine ⟨(hexValue second).map fun low => UInt8.ofNat (high * 16 + low), fun behind => ?_, fun _ => ?_⟩
              · simp only [readEscape, List.cons_append, List.getElem?_cons_zero, List.getElem?_cons_succ,
                  Option.bind_eq_bind, Option.bind_some, digit]
                cases hexValue second <;> rfl
              · exact Nat.le_add_left 2 tail.length

/-- No read passes the end of a string. -/
theorem urlDecodeFrom_inside {bytes : List UInt8} (noZero : 0 ∉ bytes) {used : Nat} (skipped : used ≤ bytes.length) :
    ∃ decoded, ∀ behind, urlDecodeFrom used (bytes ++ 0 :: behind) = some decoded := by
  induction bytes generalizing used with
  | nil =>
      obtain rfl := Nat.le_zero.mp skipped
      exact ⟨[], urlDecodeFrom_end⟩
  | cons byte rest ih =>
      have later := List.not_mem_of_not_mem_cons noZero
      cases used with
      | succ used => exact ih later (Nat.le_of_succ_le_succ skipped)
      | zero =>
          have nonzero : byte ≠ 0 := (List.ne_of_not_mem_cons noZero).symm
          obtain ⟨decoded, next⟩ := ih later (Nat.zero_le _)
          by_cases escape : byte = percent
          · obtain ⟨found, read, inside⟩ := readEscape_inside rest
            cases found with
            | none =>
                refine ⟨percent :: decoded, fun behind => ?_⟩
                rw [List.cons_append, urlDecodeFrom, if_neg nonzero, if_pos escape, read, next, Option.map_some]
            | some char =>
                obtain ⟨decoded, next⟩ := ih later (inside (Option.some_ne_none char))
                refine ⟨appendedChar char ++ decoded, fun behind => ?_⟩
                rw [List.cons_append, urlDecodeFrom, if_neg nonzero, if_pos escape, read]
                exact congrArg (Option.map (appendedChar char ++ ·)) (next behind)
          · by_cases blank : byte = plus
            · refine ⟨space :: decoded, fun behind => ?_⟩
              rw [List.cons_append, blank, urlDecodeFrom_plus, next, Option.map_some]
            · refine ⟨byte :: decoded, fun behind => ?_⟩
              rw [List.cons_append, urlDecodeFrom_plain nonzero escape blank, next, Option.map_some]

/-- Encoding can be taken back, and the encoded text has only characters that a URL may show. A string is decoded
without regard to what stands behind its end, so that no read passes it. -/
theorem utilsUrlEncode_invertible :
    (∀ str : CString, utilsUrlDecode ((utilsUrlEncode str).val ++ [0]) = some str.val) ∧
      (∀ str : CString, UrlText (utilsUrlEncode str).val) ∧
      Function.Injective utilsUrlEncode ∧
      ∀ str : CString, ∃ decoded, ∀ behind, utilsUrlDecode (str.val ++ 0 :: behind) = some decoded := by
  have inverse : ∀ str : CString, utilsUrlDecode ((utilsUrlEncode str).val ++ [0]) = some str.val :=
    fun str => urlDecodeFrom_flatMap str.property []
  refine ⟨inverse, fun str => urlText_flatMap str.val, fun first second same => ?_, fun str => ?_⟩
  · have read := inverse first
    rw [same, inverse second] at read
    exact Subtype.ext (Option.some.inj read).symm
  · exact urlDecodeFrom_inside str.property (Nat.zero_le _)

/-- The calls of the encoder on its growing string. -/
def urlEncodeCalls (str : CString) : List StringCall := str.val.flatMap fun byte => (urlEncodeByte byte).map .appendChar

theorem urlEncodeCalls_append (str : CString) : ∀ call ∈ urlEncodeCalls str, call ≠ .clear := by
  intro call member
  obtain ⟨byte, -, written⟩ := List.mem_flatMap.mp member
  obtain ⟨ch, -, rfl⟩ := List.mem_map.mp written
  exact StringCall.noConfusion

theorem urlEncodeCalls_text (str : CString) :
    appendedSinceClear (urlEncodeCalls str) = (utilsUrlEncode str).val := by
  have chars : ∀ byte ∈ str.val, ((urlEncodeByte byte).map StringCall.appendChar).flatMap StringCall.text =
      urlEncodeByte byte := by
    intro byte member
    have nonzero : byte ≠ 0 := ne_of_mem_of_not_mem member str.property
    have noEnd := zero_notMem_urlEncodeByte nonzero
    rw [List.flatMap_map]
    have single : ∀ ch ∈ urlEncodeByte byte, (StringCall.appendChar ch).text = [ch] :=
      fun ch written => if_neg (ne_of_mem_of_not_mem written noEnd)
    rw [List.flatMap_congr single, List.flatMap_singleton']
  rw [appendedSinceClear_of_forall (urlEncodeCalls_append str), urlEncodeCalls, List.flatMap_assoc,
    List.flatMap_congr chars]
  rfl

/-- The growing string of the encoder becomes the encoded text. -/
theorem urlEncodeCalls_stringGet (allocation : Allocation) (succeeds : ∀ size, allocation.succeeds size = true)
    (fuel : Nat) (enough : 64 ≤ fuel) (str : CString) (short : (utilsUrlEncode str).val.length < 2 ^ 62) :
    ∃ created result, stringCreate allocation 256 = some created ∧
      runStringCalls allocation fuel created (urlEncodeCalls str) = some result ∧
      stringGet result = (utilsUrlEncode str).val := by
  have bounded : ∀ before, before <+: urlEncodeCalls str → (appendedSinceClear before).length < 2 ^ 62 := by
    rintro before ⟨after, whole⟩
    have appends := urlEncodeCalls_append str
    have total := congrArg List.length (urlEncodeCalls_text str)
    rw [appendedSinceClear_of_forall appends, ← whole, List.flatMap_append, List.length_append] at total
    rw [← whole] at appends
    rw [appendedSinceClear_of_forall fun call member => appends call (List.mem_append_left _ member)]
    omega
  obtain ⟨created, creates, empty⟩ := stringCreate_holds succeeds 256
  obtain ⟨result, ran, holds⟩ := runStringCalls_holds succeeds enough empty (urlEncodeCalls str) bounded
  rw [urlEncodeCalls_text] at holds
  exact ⟨created, result, creates, ran, holds.stringGet (utilsUrlEncode str).property⟩

end SecureChat.Utils
