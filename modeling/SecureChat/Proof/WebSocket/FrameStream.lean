import SecureChat.Library.StreamDecoder
import SecureChat.Construction.WebSocket.Session

namespace SecureChat.WebSocket
open Library

/-- The masking key stands between the extended length and the payload. -/
def payloadOffset (header : WebsocketFrameHeader) (offset : Nat) : Nat :=
  if header.mask then offset + 4 else offset

theorem le_payloadOffset (header : WebsocketFrameHeader) (offset : Nat) :
    offset ≤ payloadOffset header offset := by
  unfold payloadOffset
  split <;> omega

/-- A whole frame ends behind its header, its extended length, its key, and its payload. -/
def nextFrame (stream : List UInt8) : Option (List UInt8 × Nat) :=
  if stream.length < 2 then none else
  match extendedLength stream (headerOf stream) with
  | none => none
  | some (payloadLen, offset) =>
      let size := payloadOffset (headerOf stream) offset + payloadLen
      if stream.length < size then none else some (stream.take size, size)

/-- Everything that the decoder has read when it returns a frame. -/
structure WholeFrame (stream frame : List UInt8) (size payloadLen offset : Nat) : Prop where
  read : extendedLength stream (headerOf stream) = some (payloadLen, offset)
  behind : 2 ≤ offset
  total : size = payloadOffset (headerOf stream) offset + payloadLen
  within : size ≤ stream.length
  bytes : frame = stream.take size

/-- The offset behind the extended length is at least two. -/
theorem extendedLength_offset (stream : List UInt8) (header : WebsocketFrameHeader)
    (found : Nat × Nat) (read : extendedLength stream header = some found) : 2 ≤ found.2 := by
  unfold extendedLength at read
  split at read
  · split at read
    · cases read
    · cases read; simp
  · split at read
    · split at read
      · cases read
      · cases read; simp
    · cases read; simp

theorem nextFrame_some (stream frame : List UInt8) (size : Nat)
    (read : nextFrame stream = some (frame, size)) :
    ∃ payloadLen offset, WholeFrame stream frame size payloadLen offset := by
  unfold nextFrame at read
  split at read
  · cases read
  · split at read
    · cases read
    · rename_i payloadLen offset found
      dsimp only at read
      split at read
      · cases read
      · cases read
        exact ⟨payloadLen, offset, found, extendedLength_offset stream _ _ found, rfl, by omega, rfl⟩

theorem WholeFrame.nextFrame {stream frame : List UInt8} {size payloadLen offset : Nat}
    (whole : WholeFrame stream frame size payloadLen offset) :
    nextFrame stream = some (frame, size) := by
  have behind := whole.behind
  have within := whole.within
  have start := le_payloadOffset (headerOf stream) offset
  have total := whole.total
  unfold WebSocket.nextFrame
  rw [if_neg (by omega), whole.read]
  dsimp only
  rw [← whole.total, if_neg (by omega), whole.bytes]

theorem take_of_take_eq {α : Type*} (stream other : List α) (short long : Nat)
    (shorter : short ≤ long) (same : other.take long = stream.take long) :
    other.take short = stream.take short := by
  have cut := congrArg (List.take short) same
  simpa only [List.take_take, Nat.min_eq_left shorter] using cut

theorem drop_take_of_take_eq {α : Type*} (stream other : List α) (start length long : Nat)
    (fits : start + length ≤ long) (same : other.take long = stream.take long) :
    (other.drop start).take length = (stream.drop start).take length := by
  have cut := congrArg (List.drop start) (take_of_take_eq stream other (start + length) long fits same)
  simpa only [List.drop_take, Nat.add_sub_cancel_left] using cut

/-- The header lies in the first two bytes. -/
theorem headerOf_congr (stream other : List UInt8) (same : other.take 2 = stream.take 2) :
    headerOf other = headerOf stream := by
  have byte : ∀ index < 2, other.getD index 0 = stream.getD index 0 := by
    intro index first
    have equal := congrArg (fun bytes => bytes[index]?) same
    simp only [List.getElem?_take_of_lt first] at equal
    simp only [List.getD_eq_getElem?_getD, equal]
  unfold headerOf
  rw [byte 0 (by decide), byte 1 (by decide)]

/-- The extended length lies in front of the offset behind it. -/
theorem extendedLength_congr (stream other : List UInt8) (header : WebsocketFrameHeader)
    (payloadLen offset : Nat) (read : extendedLength stream header = some (payloadLen, offset))
    (long : offset ≤ other.length) (same : other.take offset = stream.take offset) :
    extendedLength other header = some (payloadLen, offset) := by
  unfold extendedLength at read ⊢
  by_cases short : header.payloadLen = 126
  · rw [if_pos short] at read ⊢
    split at read
    · cases read
    · cases read
      rw [if_neg (by omega), drop_take_of_take_eq stream other 2 2 4 (by omega) same]
  · rw [if_neg short] at read ⊢
    by_cases wide : header.payloadLen = 127
    · rw [if_pos wide] at read ⊢
      split at read
      · cases read
      · cases read
        rw [if_neg (by omega), drop_take_of_take_eq stream other 2 8 10 (by omega) same]
    · rw [if_neg wide] at read ⊢
      exact read

/-- Any stream that starts with the bytes of a whole frame starts with this frame. -/
theorem WholeFrame.transfer {stream frame : List UInt8} {size payloadLen offset : Nat}
    (whole : WholeFrame stream frame size payloadLen offset) (other : List UInt8)
    (long : size ≤ other.length) (same : other.take size = stream.take size) :
    WholeFrame other frame size payloadLen offset ∧ headerOf other = headerOf stream := by
  have behind := whole.behind
  have start := le_payloadOffset (headerOf stream) offset
  have total := whole.total
  have header : headerOf other = headerOf stream :=
    headerOf_congr stream other (take_of_take_eq stream other 2 size (by omega) same)
  have length := extendedLength_congr stream other (headerOf stream) payloadLen offset whole.read
    (by omega) (take_of_take_eq stream other offset size (by omega) same)
  constructor
  · exact ⟨by rw [header]; exact length, behind, by rw [header]; exact total, long,
      whole.bytes.trans same.symm⟩
  · exact header

theorem nextFrame_append (stream more frame : List UInt8) (size : Nat)
    (read : nextFrame stream = some (frame, size)) :
    nextFrame (stream ++ more) = some (frame, size) := by
  obtain ⟨payloadLen, offset, whole⟩ := nextFrame_some stream frame size read
  have within := whole.within
  have moved := whole.transfer (stream ++ more) (by simp only [List.length_append]; omega)
    (List.take_append_of_le_length within)
  exact moved.1.nextFrame

/-- A whole frame is one whole frame by itself. -/
theorem nextFrame_frame (stream frame : List UInt8) (size : Nat)
    (read : nextFrame stream = some (frame, size)) :
    nextFrame frame = some (frame, frame.length) := by
  obtain ⟨payloadLen, offset, whole⟩ := nextFrame_some stream frame size read
  have exactly : frame.length = size := by
    rw [whole.bytes, List.length_take]
    exact Nat.min_eq_left whole.within
  have alone : frame.take size = stream.take size := by
    rw [whole.bytes, List.take_take, Nat.min_self]
  have moved := whole.transfer frame (Nat.le_of_eq exactly.symm) alone
  rw [exactly]
  exact moved.1.nextFrame

/-- The frames of a byte stream, as the server reads their headers. -/
def frameStream : StreamDecoder UInt8 (List UInt8) where
  next := nextFrame
  positive stream frame size read := by
    obtain ⟨payloadLen, offset, whole⟩ := nextFrame_some stream frame size read
    have behind := whole.behind
    have start := le_payloadOffset (headerOf stream) offset
    have total := whole.total
    omega
  within stream frame size read := by
    obtain ⟨payloadLen, offset, whole⟩ := nextFrame_some stream frame size read
    exact whole.within
  stable stream more frame size read := nextFrame_append stream more frame size read

/-- The frame that the server decodes from the bytes of one whole frame. -/
def decodeFrame (bytes : List UInt8) : Frame :=
  let header := headerOf bytes
  match extendedLength bytes header with
  | none => ⟨header.fin, header.opcode, []⟩
  | some (payloadLen, offset) =>
      let payload := (bytes.drop (payloadOffset header offset)).take payloadLen
      let key := (bytes.drop offset).take 4
      ⟨header.fin, header.opcode, if header.mask then applyMask key payload else payload⟩

theorem WholeFrame.decoded {stream frame : List UInt8} {size payloadLen offset : Nat}
    (whole : WholeFrame stream frame size payloadLen offset) :
    decodeFrame stream = ⟨(headerOf stream).fin, (headerOf stream).opcode,
      if (headerOf stream).mask then
        applyMask ((stream.drop offset).take 4)
          ((stream.drop (payloadOffset (headerOf stream) offset)).take payloadLen)
      else (stream.drop (payloadOffset (headerOf stream) offset)).take payloadLen⟩ := by
  unfold decodeFrame
  dsimp only
  rw [whole.read]

theorem WholeFrame.decodeFrame {stream frame : List UInt8} {size payloadLen offset : Nat}
    (whole : WholeFrame stream frame size payloadLen offset) :
    decodeFrame stream = decodeFrame frame := by
  have alone : frame.take size = stream.take size := by
    rw [whole.bytes, List.take_take, Nat.min_self]
  have long : size ≤ frame.length := by
    rw [whole.bytes, List.length_take]
    exact Nat.le_of_eq (Nat.min_eq_left whole.within).symm
  obtain ⟨moved, header⟩ := whole.transfer frame long alone
  have payload := drop_take_of_take_eq stream frame (payloadOffset (headerOf stream) offset) payloadLen
    size (Nat.le_of_eq whole.total.symm) alone
  rw [whole.decoded, moved.decoded, header, payload]
  cases masked : (headerOf stream).mask with
  | false => rfl
  | true =>
      have keyed : offset + 4 ≤ size := by
        rw [whole.total, payloadOffset, if_pos masked]
        exact Nat.le_add_right _ _
      rw [drop_take_of_take_eq stream frame offset 4 size keyed alone]

theorem applyMask_length (key payload : List UInt8) :
    (applyMask key payload).length = payload.length := by
  unfold applyMask
  exact List.length_mapIdx

theorem WholeFrame.payload_length {stream frame : List UInt8} {size payloadLen offset : Nat}
    (whole : WholeFrame stream frame size payloadLen offset) :
    (WebSocket.decodeFrame stream).payload.length = payloadLen := by
  have total := whole.total
  have within := whole.within
  have taken : ((stream.drop (payloadOffset (headerOf stream) offset)).take payloadLen).length =
      payloadLen := by
    simp only [List.length_take, List.length_drop]
    omega
  rw [whole.decoded]
  dsimp only
  split
  · exact (applyMask_length _ _).trans taken
  · exact taken

/-- A chunk that starts with a whole frame has the effect of this frame and no other one. -/
theorem processWebsocketFrame_whole (server : WebsocketServer) (client : WebsocketClient)
    (data frame : List UInt8) (size : Nat) (tick : Tick)
    (read : nextFrame data = some (frame, size)) :
    processWebsocketFrame server client data tick =
      processFrame server client (decodeFrame frame) tick := by
  obtain ⟨payloadLen, offset, whole⟩ := nextFrame_some data frame size read
  have behind := whole.behind
  have within := whole.within
  have total := whole.total
  have start := le_payloadOffset (headerOf data) offset
  have keyed : ¬ ((headerOf data).mask = true ∧ data.length < offset + 4) := by
    rintro ⟨masked, short⟩
    have skipped : payloadOffset (headerOf data) offset = offset + 4 := if_pos masked
    omega
  rw [← whole.decodeFrame, processFrame, whole.payload_length, whole.decoded]
  unfold processWebsocketFrame
  rw [if_neg (by omega)]
  dsimp only
  rw [whole.read]
  dsimp only
  rw [if_neg keyed]
  split
  · rfl
  · exact if_neg (by rw [payloadOffset] at total; omega)

/-- A chunk without a whole frame delivers nothing. -/
theorem processWebsocketFrame_unfinished (server : WebsocketServer) (client : WebsocketClient)
    (data : List UInt8) (tick : Tick) (unfinished : nextFrame data = none) :
    (processWebsocketFrame server client data tick).events.filterMap delivery = [] := by
  unfold nextFrame at unfinished
  unfold processWebsocketFrame
  split
  · rfl
  · rename_i long
    rw [if_neg long] at unfinished
    dsimp only
    cases read : extendedLength data (headerOf data) with
    | none => rfl
    | some found =>
        rw [read] at unfinished
        dsimp only at unfinished ⊢
        by_cases short : data.length < payloadOffset (headerOf data) found.2 + found.1
        · have missing : data.length <
              (if (headerOf data).mask = true then found.2 + 4 else found.2) + found.1 := short
          rw [if_pos missing]
          split
          · rfl
          · split <;> rfl
        · rw [if_neg short] at unfinished
          cases unfinished

end SecureChat.WebSocket
