import SecureChat.Construction.Utils.RingBuffer
import SecureChat.Library.Ring

namespace SecureChat.Utils
open Library

/-- The bytes from the tail on, across the end of the buffer if need be. -/
def RingBuffer.content (rb : RingBuffer) : List UInt8 := (rb.buffer.rotate rb.tail).take rb.size

/-- The buffer of the given capacity and mode holds the content. -/
structure Holds (capacity : Nat) (overwrite : Bool) (rb : RingBuffer) (content : List UInt8) : Prop where
  ring : Ring rb.buffer rb.head rb.tail content
  sized : rb.size = content.length
  allocated : rb.buffer.length = capacity
  capacity : rb.capacity = capacity
  mode : rb.overwrite = overwrite

theorem copyFrom_fits (block : List UInt8) (offset count : Nat) (fits : offset + count ≤ block.length) :
    copyFrom block offset count = some ((block.drop offset).take count) := by
  simp [copyFrom, fits]

theorem copyInto_fits (block : List UInt8) (offset : Nat) (source : List UInt8)
    (fits : offset + source.length ≤ block.length) :
    copyInto block offset source = some (memcpy block offset source) := by
  simp [copyInto, fits]

namespace Holds

variable {capacity : Nat} {overwrite : Bool} {rb : RingBuffer} {content : List UInt8}

theorem content_eq (holds : Holds capacity overwrite rb content) : rb.content = content := by
  rw [RingBuffer.content, holds.sized, holds.ring.held]

/-- The content never exceeds the capacity. -/
theorem length_le (holds : Holds capacity overwrite rb content) : content.length ≤ capacity := by
  rw [← holds.allocated]
  exact holds.ring.within

theorem unwritten (holds : Holds capacity overwrite rb content) (src : List UInt8) (size : Nat) :
    Holds capacity overwrite rb ((content ++ (src.take size).drop size).rtake capacity) := by
  rw [List.drop_take_self, List.append_nil, rtake_of_length_le _ _ holds.length_le]
  exact holds

/-- One round of a write copies a chunk to the head. -/
theorem writeChunk (holds : Holds capacity overwrite rb content) (chunk : List UInt8)
    (fits : rb.head + chunk.length ≤ capacity) :
    Holds capacity overwrite
      (RingBuffer.advance { rb with buffer := memcpy rb.buffer rb.head chunk } chunk.length)
      ((content ++ chunk).rtake capacity) := by
  obtain ⟨ring, sized, rfl, same, mode⟩ := holds
  have written := ring.write chunk fits
  have first := ring.first
  have length := memcpy_length rb.buffer rb.head chunk fits
  unfold RingBuffer.advance
  split
  · rename_i full
    apply Holds.mk
    · simpa only [same, sized] using written
    · simp only [same, List.rtake, List.length_drop, List.length_append]
      simp only [same, sized] at full
      omega
    · exact length
    · exact same
    · exact mode
  · rename_i free
    simp only [same, sized, Nat.not_lt] at free
    rw [Nat.sub_eq_zero_of_le free, Nat.add_zero, Nat.mod_eq_of_lt first] at written
    apply Holds.mk
    · simpa only [same] using written
    · simp only [sized, List.rtake, List.length_drop, List.length_append]
      omega
    · exact length
    · exact same
    · exact mode

end Holds

theorem writeLoop_done (src : List UInt8) (size fuel : Nat) (rb : RingBuffer) :
    writeLoop src size fuel rb size = some (rb, size) := by
  cases fuel <;> simp [writeLoop]

/-- A round of the loop copies as much as fits in front of the end of the buffer. -/
theorem writeLoop_step (src : List UInt8) (size fuel : Nat) (rb : RingBuffer) (bytesWritten writeSize : Nat)
    (more : bytesWritten < size) (chosen : writeSize = min (size - bytesWritten) (rb.capacity - rb.head))
    (source : bytesWritten + writeSize ≤ src.length) (target : rb.head + writeSize ≤ rb.buffer.length) :
    writeLoop src size (fuel + 1) rb bytesWritten =
      writeLoop src size fuel
        (RingBuffer.advance
          { rb with buffer := memcpy rb.buffer rb.head ((src.drop bytesWritten).take writeSize) } writeSize)
        (bytesWritten + writeSize) := by
  have smaller : (if size - bytesWritten < rb.capacity - rb.head then size - bytesWritten
      else rb.capacity - rb.head) = writeSize := by
    split <;> omega
  have length : ((src.drop bytesWritten).take writeSize).length = writeSize := by
    simp only [List.length_take, List.length_drop]
    omega
  rw [writeLoop, if_pos more]
  simp only [smaller, copyFrom_fits src bytesWritten writeSize source]
  rw [copyInto_fits _ _ _ (by rw [length]; exact target)]

/-- The loop of a write ends and appends all bytes that it was asked to append. -/
theorem writeLoop_holds {capacity : Nat} {overwrite : Bool} (src : List UInt8) (size fuel : Nat)
    (rb : RingBuffer) (bytesWritten : Nat) (content : List UInt8)
    (holds : Holds capacity overwrite rb content) (known : size ≤ src.length)
    (progress : bytesWritten ≤ size) (enough : size - bytesWritten ≤ fuel) :
    ∃ final, writeLoop src size fuel rb bytesWritten = some (final, size) ∧
      Holds capacity overwrite final ((content ++ (src.take size).drop bytesWritten).rtake capacity) := by
  induction fuel generalizing rb bytesWritten content with
  | zero =>
      obtain rfl : bytesWritten = size := by omega
      exact ⟨rb, writeLoop_done src bytesWritten 0 rb, holds.unwritten src bytesWritten⟩
  | succ fuel ih =>
      by_cases more : bytesWritten < size
      · have first := holds.ring.head_lt
        rw [holds.allocated] at first
        obtain ⟨writeSize, chosen⟩ : ∃ writeSize,
          writeSize = min (size - bytesWritten) (rb.capacity - rb.head) := ⟨_, rfl⟩
        rw [holds.capacity] at chosen
        have length : ((src.drop bytesWritten).take writeSize).length = writeSize := by
          simp only [List.length_take, List.length_drop]
          omega
        have round := holds.writeChunk ((src.drop bytesWritten).take writeSize) (by omega)
        rw [length] at round
        obtain ⟨final, ended, reached⟩ := ih _ (bytesWritten + writeSize) _ round (by omega) (by omega)
        refine ⟨final, ?_, ?_⟩
        · rw [writeLoop_step src size fuel rb bytesWritten writeSize more (by rw [chosen, holds.capacity])
            (by omega) (by rw [holds.allocated]; omega)]
          exact ended
        · rw [rtake_append_rtake, List.append_assoc] at reached
          have front : (src.drop bytesWritten).take writeSize =
              ((src.take size).drop bytesWritten).take writeSize := by
            rw [List.drop_take, List.take_take, Nat.min_eq_left (by omega)]
          rw [front, ← List.drop_drop, List.take_append_drop] at reached
          exact reached
      · obtain rfl : bytesWritten = size := by omega
        exact ⟨rb, writeLoop_done src bytesWritten (fuel + 1) rb, holds.unwritten src bytesWritten⟩

/-- A reader that has nothing left to copy stops. -/
theorem readLoop_done (rb : RingBuffer) (size fuel : Nat) (cursor : ReadCursor)
    (done : cursor.bytesRead = size) : readLoop rb size fuel cursor = some cursor := by
  cases fuel <;> simp [readLoop, done]

/-- The contiguous bytes that a round of a reader may copy. -/
def spaceToEnd (rb : RingBuffer) (tail : Nat) : Nat :=
  if rb.head > tail then rb.head - tail else rb.capacity - tail

/-- A round copies a byte or more and stays inside the buffer. -/
theorem spaceToEnd_bounds (rb : RingBuffer) (tail : Nat) (head : rb.head < rb.capacity)
    (first : tail < rb.capacity) : 0 < spaceToEnd rb tail ∧ tail + spaceToEnd rb tail ≤ rb.capacity := by
  unfold spaceToEnd
  split <;> omega

theorem readLoop_step (rb : RingBuffer) (size fuel : Nat) (cursor : ReadCursor) (readSize : Nat)
    (more : cursor.bytesRead < size)
    (chosen : readSize = min (size - cursor.bytesRead) (spaceToEnd rb cursor.tail))
    (fits : cursor.tail + readSize ≤ rb.buffer.length) :
    readLoop rb size (fuel + 1) cursor =
      readLoop rb size fuel
        ⟨(cursor.tail + readSize) % rb.capacity, cursor.bytesRead + readSize,
          cursor.dst ++ (rb.buffer.drop cursor.tail).take readSize⟩ := by
  have smaller : (if size - cursor.bytesRead < spaceToEnd rb cursor.tail then size - cursor.bytesRead
      else spaceToEnd rb cursor.tail) = readSize := by
    split <;> omega
  unfold spaceToEnd at smaller
  rw [readLoop, if_pos more]
  simp only [smaller, copyFrom_fits _ _ _ fits]

/-- The loop of a reader ends and copies all bytes that it was asked to copy. -/
theorem readLoop_copies (rb : RingBuffer) (size fuel : Nat) (cursor : ReadCursor) (content : List UInt8)
    (ring : Ring rb.buffer rb.head cursor.tail content) (allocated : rb.buffer.length = rb.capacity)
    (known : size - cursor.bytesRead ≤ content.length) (progress : cursor.bytesRead ≤ size)
    (enough : size - cursor.bytesRead ≤ fuel) :
    ∃ tail, readLoop rb size fuel cursor =
        some ⟨tail, size, cursor.dst ++ content.take (size - cursor.bytesRead)⟩ ∧
      Ring rb.buffer rb.head tail (content.drop (size - cursor.bytesRead)) := by
  induction fuel generalizing cursor content with
  | zero =>
      obtain rfl : cursor.bytesRead = size := by omega
      refine ⟨cursor.tail, ?_, ?_⟩
      · simp [readLoop_done]
      · simpa using ring
  | succ fuel ih =>
      by_cases more : cursor.bytesRead < size
      · have head := ring.head_lt
        have first := ring.first
        rw [allocated] at head first
        obtain ⟨positive, inside⟩ := spaceToEnd_bounds rb cursor.tail head first
        obtain ⟨readSize, chosen⟩ : ∃ readSize,
          readSize = min (size - cursor.bytesRead) (spaceToEnd rb cursor.tail) := ⟨_, rfl⟩
        have fits : cursor.tail + readSize ≤ rb.buffer.length := by omega
        have advanced := ring.advance readSize (by omega)
        have remains : size - (cursor.bytesRead + readSize) = size - cursor.bytesRead - readSize := by omega
        have total : readSize + (size - cursor.bytesRead - readSize) = size - cursor.bytesRead := by omega
        obtain ⟨tail, ended, reached⟩ := ih
          ⟨(cursor.tail + readSize) % rb.capacity, cursor.bytesRead + readSize,
            cursor.dst ++ (rb.buffer.drop cursor.tail).take readSize⟩
          (content.drop readSize) (by rw [← allocated]; exact advanced)
          (by simp only [List.length_drop]; omega) (by simp only; omega) (by simp only; omega)
        refine ⟨tail, ?_, ?_⟩
        · rw [readLoop_step rb size fuel cursor readSize more chosen fits, ended,
            ring.read readSize (by omega) fits, List.append_assoc]
          simp only [remains]
          rw [← List.take_add, total]
        · simp only [remains, List.drop_drop, total] at reached
          exact reached
      · obtain rfl : cursor.bytesRead = size := by omega
        refine ⟨cursor.tail, ?_, ?_⟩
        · simp [readLoop_done]
        · simpa using ring

/-- A queue of bytes that holds at most the capacity. -/
def queueMachine (capacity : Nat) (overwrite : Bool) : Machine (List UInt8) RingOperation RingResult where
  step content operation :=
    match operation with
    | .write none => (content, [.written 0])
    | .write (some data) =>
        if overwrite then ((content ++ data).rtake capacity, [.written data.length])
        else
          (content ++ data.take (capacity - content.length),
            [.written (min data.length (capacity - content.length))])
    | .read false _ => (content, [.read 0 []])
    | .read true size => (content.drop size, [.read (min size content.length) (content.take size)])
    | .peek false _ => (content, [.peeked 0 []])
    | .peek true size => (content, [.peeked (min size content.length) (content.take size)])

/-- No copy has left its block, no loop has failed to end, and the buffer holds the content. -/
def Stores (capacity : Nat) (overwrite : Bool) (state : Option RingBuffer) (content : List UInt8) : Prop :=
  ∃ rb, state = some rb ∧ Holds capacity overwrite rb content

section Steps

variable {capacity : Nat} {overwrite : Bool} {rb : RingBuffer} {content : List UInt8}

/-- A write appends what it may append and returns its length. -/
theorem ringBufferWrite_holds (holds : Holds capacity overwrite rb content) (data : List UInt8) :
    ∃ final, ringBufferWrite rb (some data) =
        some (final, if overwrite then data.length else min data.length (capacity - content.length)) ∧
      Holds capacity overwrite final
        (if overwrite then (content ++ data).rtake capacity
        else content ++ data.take (capacity - content.length)) := by
  have within := holds.length_le
  by_cases empty : data.length = 0
  · obtain rfl := List.length_eq_zero_iff.mp empty
    refine ⟨rb, ?_, ?_⟩
    · simp [ringBufferWrite]
    · simpa [rtake_of_length_le _ _ within] using holds
  · have step := fun size known => writeLoop_holds data size size rb 0 content holds known (Nat.zero_le size)
      (Nat.le_refl size)
    simp only [List.drop_zero] at step
    cases overwrite with
    | true =>
        obtain ⟨final, ended, reached⟩ := step data.length (Nat.le_refl _)
        rw [List.take_length] at reached
        refine ⟨final, ?_, reached⟩
        simp [ringBufferWrite, empty, holds.mode, ended]
    | false =>
        obtain ⟨final, ended, reached⟩ := step (min data.length (capacity - content.length))
          (Nat.min_le_left _ _)
        have chosen : (if data.length > rb.capacity - rb.size then rb.capacity - rb.size else data.length) =
            min data.length (capacity - content.length) := by
          rw [holds.capacity, holds.sized]
          split <;> omega
        rw [Nat.min_comm, ← List.take_eq_take_min, rtake_of_length_le] at reached
        · refine ⟨final, ?_, reached⟩
          simp [ringBufferWrite, empty, holds.mode, chosen, ended]
        · rw [List.length_append, List.length_take]
          omega

/-- A reader gets the first bytes and the tail behind them. -/
theorem readBytes_copies (holds : Holds capacity overwrite rb content) (size : Nat) :
    ∃ tail, readBytes rb size = some ⟨tail, min size content.length, content.take size⟩ ∧
      Ring rb.buffer rb.head tail (content.drop size) := by
  have allocated : rb.buffer.length = rb.capacity := by rw [holds.allocated, holds.capacity]
  have smaller : (if size > rb.size then rb.size else size) = min size content.length := by
    rw [holds.sized]
    split <;> omega
  obtain ⟨tail, ended, reached⟩ := readLoop_copies rb (min size content.length) (min size content.length)
    ⟨rb.tail, 0, []⟩ content holds.ring allocated (Nat.min_le_right _ _) (Nat.zero_le _) (Nat.le_refl _)
  refine ⟨tail, ?_, ?_⟩
  · simp only [readBytes, smaller, ended, List.nil_append, Nat.sub_zero, ← List.take_eq_take_min]
  · rw [List.drop_eq_drop_min]
    exact reached

/-- A read returns the first bytes and removes them. -/
theorem ringBufferRead_holds (holds : Holds capacity overwrite rb content) (size : Nat) :
    ∃ final, ringBufferRead rb true size =
        some (final, .read (min size content.length) (content.take size)) ∧
      Holds capacity overwrite final (content.drop size) := by
  by_cases zero : size = 0
  · subst zero
    exact ⟨rb, by simp [ringBufferRead], by simpa using holds⟩
  · obtain ⟨tail, copied, advanced⟩ := readBytes_copies holds size
    refine ⟨{ rb with tail := tail, size := rb.size - min size content.length }, ?_, ?_⟩
    · simp [ringBufferRead, zero, copied]
    · refine ⟨advanced, ?_, holds.allocated, holds.capacity, holds.mode⟩
      simp only [holds.sized, List.length_drop]
      omega

/-- A peek returns the first bytes and keeps the buffer. -/
theorem ringBufferPeek_holds (holds : Holds capacity overwrite rb content) (size : Nat) :
    ringBufferPeek rb true size = some (rb, .peeked (min size content.length) (content.take size)) := by
  by_cases zero : size = 0
  · subst zero
    simp [ringBufferPeek]
  · obtain ⟨tail, copied, -⟩ := readBytes_copies holds size
    simp [ringBufferPeek, zero, copied]

end Steps

/-- Each operation does to the buffer what it does to the queue. -/
theorem ringMachine_step (capacity : Nat) (overwrite : Bool) (state : Option RingBuffer)
    (content : List UInt8) (operation : RingOperation) (stores : Stores capacity overwrite state content) :
    Stores capacity overwrite (ringMachine.step state operation).1
        ((queueMachine capacity overwrite).step content operation).1 ∧
      (ringMachine.step state operation).2.filterMap some =
        ((queueMachine capacity overwrite).step content operation).2 := by
  obtain ⟨rb, rfl, holds⟩ := stores
  have unchanged : Stores capacity overwrite (some rb) content := ⟨rb, rfl, holds⟩
  cases operation with
  | write data =>
      cases data with
      | none => exact ⟨unchanged, rfl⟩
      | some data =>
          obtain ⟨final, written, reached⟩ := ringBufferWrite_holds holds data
          have stepped : ringMachine.step (some rb) (.write (some data)) = (some final,
              [.written (if overwrite then data.length else min data.length (capacity - content.length))]) := by
            simp [ringMachine, applyOperation, written]
          rw [stepped]
          cases overwrite <;> exact ⟨⟨final, rfl, reached⟩, rfl⟩
  | read data size =>
      cases data with
      | false => exact ⟨unchanged, rfl⟩
      | true =>
          obtain ⟨final, copied, reached⟩ := ringBufferRead_holds holds size
          have stepped : ringMachine.step (some rb) (.read true size) =
              (some final, [.read (min size content.length) (content.take size)]) := by
            simp [ringMachine, applyOperation, copied]
          rw [stepped]
          exact ⟨⟨final, rfl, reached⟩, rfl⟩
  | peek data size =>
      cases data with
      | false => exact ⟨unchanged, rfl⟩
      | true =>
          have stepped : ringMachine.step (some rb) (.peek true size) =
              (some rb, [.peeked (min size content.length) (content.take size)]) := by
            simp [ringMachine, applyOperation, ringBufferPeek_holds holds size]
          rw [stepped]
          exact ⟨unchanged, rfl⟩

theorem ringBufferCreate_holds (buffer : List UInt8) (overwrite : Bool) (positive : 0 < buffer.length) :
    Holds buffer.length overwrite (ringBufferCreate buffer overwrite) [] where
  ring := Ring.empty buffer positive
  sized := rfl
  allocated := rfl
  capacity := rfl
  mode := rfl

/-- The buffer is a bounded queue of bytes for every capacity, mode and sequence of operations. -/
theorem ringBuffer_refines_queue (buffer : List UInt8) (overwrite : Bool) (positive : 0 < buffer.length)
    (operations : List RingOperation) :
    ringMachine.Agree (queueMachine buffer.length overwrite) some
        (some (ringBufferCreate buffer overwrite)) [] operations ∧
      ∃ rb, (ringMachine.run (some (ringBufferCreate buffer overwrite)) operations).1 = some rb ∧
        rb.content = ((queueMachine buffer.length overwrite).run [] operations).1 ∧
        rb.content.length = rb.size ∧ rb.size ≤ rb.capacity ∧ rb.capacity = buffer.length ∧
        ∀ data size, (ringMachine.step (some rb) (.peek data size)).1 = some rb := by
  have created : Stores buffer.length overwrite (some (ringBufferCreate buffer overwrite)) [] :=
    ⟨_, rfl, ringBufferCreate_holds buffer overwrite positive⟩
  have free := ringMachine.along_of_forall (fun _ _ => True) (fun _ _ => trivial)
    (some (ringBufferCreate buffer overwrite)) operations
  have step := fun state content operation related (_ : True) =>
    ringMachine_step buffer.length overwrite state content operation related
  constructor
  · exact ringMachine.agree_of_along _ some _ _ step _ _ operations created free
  · obtain ⟨rb, reached, holds⟩ := ringMachine.run_related _ _ _
      (fun state content operation related allowed => (step state content operation related allowed).1)
      _ _ operations created free
    have within := holds.length_le
    refine ⟨rb, reached, holds.content_eq, ?_, ?_, holds.capacity, ?_⟩
    · rw [holds.content_eq, holds.sized]
    · rw [holds.sized, holds.capacity]
      exact within
    · intro data size
      cases data with
      | false => simp [ringMachine, applyOperation, ringBufferPeek]
      | true => simp [ringMachine, applyOperation, ringBufferPeek_holds holds size]

/-- One write laps a buffer of two bytes more than twice. -/
theorem ringBuffer_refines_queue_laps :
    0 < [(0 : UInt8), 0].length ∧
      ringMachine.Agree (queueMachine 2 true) some (some (ringBufferCreate [0, 0] true)) []
        [.write (some [1, 2, 3, 4, 5]), .read true 1, .write (some [6]), .peek true 9] :=
  ⟨by decide, (ringBuffer_refines_queue [0, 0] true (by decide)
    [.write (some [1, 2, 3, 4, 5]), .read true 1, .write (some [6]), .peek true 9]).1⟩

end SecureChat.Utils
