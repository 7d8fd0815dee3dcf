import SecureChat.Construction.WebSocket.Frame
import SecureChat.Construction.WebSocket.Session

namespace SecureChat.WebSocket

/-- A call that gets past the length test reports the opcode and the final flag of the struct. -/
theorem websocketParseFrame_header (data : List UInt8) (out : FrameOutputs)
    (long : 2 ≤ data.length) :
    (websocketParseFrame data out).2.opcode = (headerOf data).opcode ∧
      (websocketParseFrame data out).2.isFinal = (headerOf data).fin := by
  unfold websocketParseFrame
  rw [if_neg (by omega)]
  dsimp only
  cases extendedLength data (headerOf data) with
  | none => exact ⟨rfl, rfl⟩
  | some found =>
      dsimp only
      generalize (if (headerOf data).mask = true then found.2 + 4 else found.2) = offset
      split
      · exact ⟨rfl, rfl⟩
      · split <;> exact ⟨rfl, rfl⟩

/-- Every created frame starts with the final flag in the top bit and the opcode in the low bits. -/
theorem websocketCreateFrame_first (opcode : UInt8) (payload : List UInt8) (mask : Bool)
    (maskingKey : UInt32) (frame : List UInt8)
    (created : websocketCreateFrame opcode payload mask maskingKey true = some frame) :
    ∃ second rest, frame = (0x80 ||| (opcode &&& 0x0F)) :: second :: rest := by
  simp only [websocketCreateFrame, ite_true, Option.some.injEq] at created
  cases mask <;> exact ⟨_, _, created.symm⟩

/-- The struct reads the top bit of the first byte as a part of the opcode. -/
theorem websocketFrameHeader_created (opcode second : UInt8) :
    (websocketFrameHeader (0x80 ||| (opcode &&& 0x0F)) second).opcode = 8 ∧
      (websocketFrameHeader (0x80 ||| (opcode &&& 0x0F)) second).fin = (opcode &&& 0x01 != 0) := by
  simp only [websocketFrameHeader]
  rcases opcode with ⟨bits⟩
  revert bits
  decide

/-- Parsing a created frame succeeds and gives back what the caller passed in. -/
def FrameRoundTrip (opcode : UInt8) (payload : List UInt8) (mask : Bool) (maskingKey : UInt32) :
    Prop :=
  ∃ frame, websocketCreateFrame opcode payload mask maskingKey true = some frame ∧
    ∀ out, websocketParseFrame frame out = (0, ⟨opcode, payload, payload.length, true⟩)

/-- The two layouts agree on no frame: only opcode eight survives, and it is never read as final. -/
theorem frameRoundTrip_never (opcode : UInt8) (payload : List UInt8) (mask : Bool)
    (maskingKey : UInt32) : ¬ FrameRoundTrip opcode payload mask maskingKey := by
  rintro ⟨frame, created, parsed⟩
  obtain ⟨second, rest, rfl⟩ := websocketCreateFrame_first opcode payload mask maskingKey frame created
  have read := websocketParseFrame_header ((0x80 ||| (opcode &&& 0x0F)) :: second :: rest)
    ⟨0, [], 0, false⟩ (by simp)
  rw [parsed] at read
  have layout := websocketFrameHeader_created opcode second
  have sameOpcode : opcode = 8 := read.1.trans layout.1
  have finalBit : true = (opcode &&& 0x01 != 0) := read.2.trans layout.2
  rw [sameOpcode] at finalBit
  exact absurd finalBit (by decide)

/-- A one-byte text frame is read as a masked close frame that is too short for its key. -/
theorem frameRoundTrip_text_fails : ¬ FrameRoundTrip 0x1 [0x41] false 0 := by
  rintro ⟨frame, created, parsed⟩
  have bytes : frame = [0x81, 0x01, 0x41] := by
    apply Option.some.inj
    rw [← created]
    decide
  subst bytes
  exact absurd (parsed ⟨0, [], 0, false⟩) (by decide)

end SecureChat.WebSocket

namespace SecureChat.WebSocket
open Library

/-- The place behind the lengths and the masking key, where the parser points its caller to. -/
def headerEnd (data : List UInt8) : Nat :=
  (if (headerOf data).payloadLen = 126 then 4 else if (headerOf data).payloadLen = 127 then 10 else 2) +
    if (headerOf data).mask then 4 else 0

/-- A call that returns 0 hands on a range inside the buffer. -/
def FrameInside (data : List UInt8) (out : FrameOutputs) : Prop :=
  (websocketParseFrame data out).1 = 0 →
    headerEnd data + (websocketParseFrame data out).2.payloadLen ≤ data.length

/-- The 64-bit length of a complete header carries the sum of the last test past the range of `size_t`. -/
def LengthWraps (data : List UInt8) : Prop :=
  (headerOf data).payloadLen = 127 ∧ headerEnd data ≤ data.length ∧
    2 ^ 64 ≤ headerEnd data + bigEndianValue ((data.drop 2).take 8)

instance (data : List UInt8) : Decidable (LengthWraps data) :=
  inferInstanceAs (Decidable (_ ∧ _ ∧ _))

theorem headerEnd_le (data : List UInt8) : headerEnd data ≤ 14 := by
  unfold headerEnd
  split_ifs <;> omega

/-- A header whose length is read leaves the same offset in both parsers. -/
theorem extendedLength_headerEnd (data : List UInt8) (len offset : Nat)
    (read : extendedLength data (headerOf data) = some (len, offset)) :
    headerEnd data = (if (headerOf data).mask then offset + 4 else offset) := by
  unfold extendedLength at read
  unfold headerEnd
  split_ifs at read ⊢ <;> simp_all

/-- Only the 64-bit field holds a length from 65536 on. -/
theorem extendedLength_lt (data : List UInt8) (len offset : Nat) (short : (headerOf data).payloadLen ≠ 127)
    (read : extendedLength data (headerOf data) = some (len, offset)) : len < 2 ^ 16 := by
  unfold extendedLength at read
  split_ifs at read with medium
  · have bound := bigEndianValue_lt ((data.drop 2).take 2)
    have width : ((data.drop 2).take 2).length ≤ 2 := List.length_take_le _ _
    have power : 256 ^ ((data.drop 2).take 2).length ≤ 256 ^ 2 := Nat.pow_le_pow_right (by omega) width
    obtain ⟨rfl, rfl⟩ := Prod.mk.inj (Option.some.inj read)
    omega
  · obtain ⟨rfl, rfl⟩ := Prod.mk.inj (Option.some.inj read)
    have small : (headerOf data).payloadLen < 256 := UInt8.toNat_lt _
    omega

theorem extendedLength_wide (data : List UInt8) (wide : (headerOf data).payloadLen = 127)
    (complete : 10 ≤ data.length) :
    extendedLength data (headerOf data) = some (bigEndianValue ((data.drop 2).take 8), 10) := by
  rw [extendedLength, if_neg (by omega), if_pos wide, if_neg (by omega)]

/-- An extended length is read only behind its own bytes. -/
theorem extendedLength_complete (data : List UInt8) (len offset : Nat) (started : 2 ≤ data.length)
    (read : extendedLength data (headerOf data) = some (len, offset)) : offset ≤ data.length := by
  unfold extendedLength at read
  split_ifs at read <;> obtain ⟨rfl, rfl⟩ := Prod.mk.inj (Option.some.inj read) <;> omega

/-- A call returns 0 exactly when it has read a length, the key is there and the machine sum passes. -/
theorem websocketParseFrame_accepts (data : List UInt8) (out : FrameOutputs) (started : 2 ≤ data.length)
    (len offset : Nat) (read : extendedLength data (headerOf data) = some (len, offset)) :
    (websocketParseFrame data out).2.payloadLen = len ∧
      ((websocketParseFrame data out).1 = 0 ↔
        headerEnd data ≤ data.length ∧ (headerEnd data + len) % 2 ^ 64 ≤ data.length) := by
  have place := extendedLength_headerEnd data len offset read
  have base := extendedLength_complete data len offset started read
  unfold websocketParseFrame
  rw [if_neg (by omega)]
  dsimp only
  rw [read]
  dsimp only
  rw [← place]
  cases keyed : (headerOf data).mask with
  | false =>
      rw [keyed, if_neg Bool.false_ne_true] at place
      rw [if_neg (by simp)]
      split
      · exact ⟨rfl, by simp; omega⟩
      · exact ⟨rfl, by simp; omega⟩
  | true =>
      rw [keyed, if_pos rfl] at place
      by_cases short : data.length < offset + 4
      · rw [if_pos ⟨rfl, short⟩]
        exact ⟨rfl, by simp; omega⟩
      · rw [if_neg fun both => short both.2]
        split
        · exact ⟨rfl, by simp; omega⟩
        · exact ⟨rfl, by simp; omega⟩

/-- A call that returns 0 has read a length. -/
theorem websocketParseFrame_read (data : List UInt8) (out : FrameOutputs)
    (accepted : (websocketParseFrame data out).1 = 0) :
    2 ≤ data.length ∧ ∃ len offset, extendedLength data (headerOf data) = some (len, offset) := by
  unfold websocketParseFrame at accepted
  by_cases started : data.length < 2
  · rw [if_pos started] at accepted
    exact absurd (show (-1 : Int) = 0 from accepted) (by decide)
  · rw [if_neg started] at accepted
    dsimp only at accepted
    refine ⟨by omega, ?_⟩
    cases read : extendedLength data (headerOf data) with
    | none =>
        rw [read] at accepted
        exact absurd (show (-1 : Int) = 0 from accepted) (by decide)
    | some found => exact ⟨found.1, found.2, rfl⟩

/-- The limit of the server loop is far below the range of `size_t`, so its sum is exact. -/
theorem limited_sum_exact (data : List UInt8) (len : Nat) (limit : UInt32) (limited : len ≤ limit.toNat) :
    (headerEnd data + len) % 2 ^ 64 = headerEnd data + len := by
  have near := headerEnd_le data
  have range := limit.toNat_lt
  exact Nat.mod_eq_of_lt (by omega)

/-- The parser stays inside its input exactly when no 64-bit length carries its sum past the range. -/
theorem frameInside_iff (data : List UInt8) (out : FrameOutputs) (size : data.length < 2 ^ 64) :
    FrameInside data out ↔ ¬ LengthWraps data := by
  have near := headerEnd_le data
  constructor
  · rintro inside ⟨wide, complete, wraps⟩
    have started : 10 ≤ data.length := by
      unfold headerEnd at complete
      rw [if_neg (by omega), if_pos wide] at complete
      omega
    obtain ⟨reported, accepts⟩ := websocketParseFrame_accepts data out (by omega) _ _
      (extendedLength_wide data wide started)
    have width : ((data.drop 2).take 8).length ≤ 8 := List.length_take_le _ _
    have bound := bigEndianValue_lt ((data.drop 2).take 8)
    have power : 256 ^ ((data.drop 2).take 8).length ≤ 256 ^ 8 := Nat.pow_le_pow_right (by omega) width
    -- the wrapped sum is smaller than the offset itself
    have claimed := inside (accepts.mpr ⟨complete, by omega⟩)
    rw [reported] at claimed
    omega
  · intro unwrapped accepted
    obtain ⟨started, len, offset, read⟩ := websocketParseFrame_read data out accepted
    obtain ⟨reported, accepts⟩ := websocketParseFrame_accepts data out started len offset read
    obtain ⟨complete, within⟩ := accepts.mp accepted
    rw [reported]
    by_cases wide : (headerOf data).payloadLen = 127
    · have started : 10 ≤ data.length := by
        unfold headerEnd at complete
        rw [if_neg (by omega), if_pos wide] at complete
        omega
      rw [extendedLength_wide data wide started] at read
      obtain ⟨rfl, -⟩ := Prod.mk.inj (Option.some.inj read)
      have fits : ¬ 2 ^ 64 ≤ headerEnd data + bigEndianValue ((data.drop 2).take 8) :=
        fun wraps => unwrapped ⟨wide, complete, wraps⟩
      omega
    · have small := extendedLength_lt data len offset wide read
      omega

/-- An unmasked frame of ten bytes whose length is the largest 64-bit number. -/
def hostileFrame : List UInt8 := [0x01, 0xFE, 0xFF, 0xFF, 0xFF, 0xFF, 0xFF, 0xFF, 0xFF, 0xFF]

/-- The hostile frame is accepted with a payload of 2^64 - 1 bytes behind its end. -/
theorem frameInside_hostile_fails : ¬ FrameInside hostileFrame ⟨0, [], 0, false⟩ := by
  unfold FrameInside
  decide

/-- A short text frame stays inside. -/
theorem frameInside_text : [0x01, 0x02, 0x41].length < 2 ^ 64 ∧
    (FrameInside [0x01, 0x02, 0x41] ⟨0, [], 0, false⟩ ↔ ¬ LengthWraps [0x01, 0x02, 0x41]) :=
  ⟨by decide, frameInside_iff [0x01, 0x02, 0x41] ⟨0, [], 0, false⟩ (by decide)⟩

end SecureChat.WebSocket
