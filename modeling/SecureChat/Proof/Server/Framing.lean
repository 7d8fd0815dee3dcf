import SecureChat.Construction.Server.Connection
import SecureChat.Library.StreamDecoder

namespace SecureChat.Server
open Library Protocol

/-- The used bytes lie inside the receive buffer, and the buffer has the recorded size. -/
structure RecvBuffer (conn : ClientConnection) : Prop where
  capacity : conn.recvBuffer.length = conn.recvBufferSize
  within : conn.recvBufferUsed ≤ conn.recvBufferSize

/-- The bytes that a connection has received and not yet used. -/
def content (conn : ClientConnection) : List UInt8 := conn.recvBuffer.take conn.recvBufferUsed

theorem content_length (conn : ClientConnection) (valid : RecvBuffer conn) :
    (content conn).length = conn.recvBufferUsed := by
  have capacity := valid.capacity
  have within := valid.within
  simp only [content, List.length_take]
  omega

/-- Two connections have the same receive buffer. -/
structure SameBuffer (conn other : ClientConnection) : Prop where
  buffer : other.recvBuffer = conn.recvBuffer
  size : other.recvBufferSize = conn.recvBufferSize
  used : other.recvBufferUsed = conn.recvBufferUsed

theorem SameBuffer.refl (conn : ClientConnection) : SameBuffer conn conn := ⟨rfl, rfl, rfl⟩

theorem SameBuffer.trans {conn other third : ClientConnection} (first : SameBuffer conn other)
    (second : SameBuffer other third) : SameBuffer conn third :=
  ⟨second.buffer.trans first.buffer, second.size.trans first.size, second.used.trans first.used⟩

theorem SameBuffer.valid {conn other : ClientConnection} (same : SameBuffer conn other)
    (valid : RecvBuffer conn) : RecvBuffer other where
  capacity := by rw [same.buffer, same.size]; exact valid.capacity
  within := by rw [same.used, same.size]; exact valid.within

theorem SameBuffer.content {conn other : ClientConnection} (same : SameBuffer conn other) :
    content other = Server.content conn := by
  rw [Server.content, same.buffer, same.used]
  rfl

section Sending

theorem checkRateLimitReset_buffer (host : Host) :
    SameBuffer host.conn (checkRateLimitReset host).conn := by
  unfold checkRateLimitReset
  dsimp only
  split <;> exact ⟨rfl, rfl, rfl⟩

theorem updateRateLimiter_buffer (host : Host) (messageSize : Nat) :
    SameBuffer host.conn (updateRateLimiter host messageSize).conn := by
  have reset := checkRateLimitReset_buffer host
  exact ⟨reset.buffer, reset.size, reset.used⟩

theorem connectionCheckRateLimit_buffer (host : Host) (messageSize : Nat) :
    SameBuffer host.conn (connectionCheckRateLimit host messageSize).2.conn := by
  have reset := checkRateLimitReset_buffer host
  unfold connectionCheckRateLimit
  dsimp only
  split
  · exact reset
  · split <;> exact reset

/-- Sending never touches the receive buffer. -/
theorem connectionSend_buffer (host : Host) (data : List UInt8) :
    SameBuffer host.conn (connectionSend host data).2.conn := by
  have checked := connectionCheckRateLimit_buffer host data.length
  unfold connectionSend
  split
  · exact .refl _
  · dsimp only
    split
    · exact checked
    · split
      · exact checked
      · exact checked
      · apply SameBuffer.trans _ (updateRateLimiter_buffer _ _)
        exact ⟨checked.buffer, checked.size, checked.used⟩

variable (codec : HeaderCodec)

theorem connectionSendMessage_buffer (host : Host) (messageType : UInt32) (data : List UInt8) :
    SameBuffer host.conn (connectionSendMessage codec host messageType data).2.conn := by
  have counted (world : World) (header : List UInt8) : SameBuffer host.conn (connectionSend
      ⟨{ host.conn with messagesSent := host.conn.messagesSent + 1 }, world⟩ header).2.conn := by
    have sent := connectionSend_buffer
      ⟨{ host.conn with messagesSent := host.conn.messagesSent + 1 }, world⟩ header
    exact ⟨sent.buffer, sent.size, sent.used⟩
  unfold connectionSendMessage
  split
  · exact .refl _
  · dsimp only
    split
    · exact counted _ _
    · split
      · split <;> exact (counted _ _).trans (connectionSend_buffer _ _)
      · exact counted _ _

theorem handleHeartbeat_buffer (host : Host) (timestamp : List UInt8) :
    SameBuffer host.conn (handleHeartbeat codec host timestamp).conn := by
  have sent := connectionSendMessage_buffer codec
    ⟨{ host.conn with lastHeartbeat := (getCurrentTimestampMs host.world).1 },
      (getCurrentTimestampMs host.world).2⟩ msgSystemHeartbeat timestamp
  exact ⟨sent.buffer, sent.size, sent.used⟩

/-- Every complete message is accepted, whatever its type. -/
theorem processCompleteMessage_accepts (host : Host) (header : MessageHeader) :
    (processCompleteMessage codec host header).1 = true ∧
      SameBuffer host.conn (processCompleteMessage codec host header).2.conn := by
  unfold processCompleteMessage
  split
  · split
    · exact ⟨rfl, handleHeartbeat_buffer codec host _⟩
    · exact ⟨rfl, .refl _⟩
  · split <;> exact ⟨rfl, .refl _⟩

end Sending

section Messages

variable (codec : HeaderCodec)

/-- A whole message ends behind its header and its body. -/
def nextMessage (stream : List UInt8) : Option (HandedMessage × Nat) :=
  if stream.length < headerSize then none else
  match codec.deserializeMessageHeader (stream.take headerSize) with
  | none => none
  | some header =>
      if stream.length < headerSize + header.bodyLength.toNat then none
      else some (⟨header, (stream.drop headerSize).take header.bodyLength.toNat⟩,
        headerSize + header.bodyLength.toNat)

/-- Everything that the decoder has read when it returns a message. -/
structure WholeMessage (stream : List UInt8) (message : HandedMessage) (size : Nat) : Prop where
  header : codec.deserializeMessageHeader (stream.take headerSize) = some message.header
  total : size = headerSize + message.header.bodyLength.toNat
  within : size ≤ stream.length
  body : message.body = (stream.drop headerSize).take message.header.bodyLength.toNat

theorem nextMessage_some (stream : List UInt8) (message : HandedMessage) (size : Nat) :
    nextMessage codec stream = some (message, size) ↔ WholeMessage codec stream message size := by
  unfold nextMessage
  constructor
  · intro read
    split at read
    · cases read
    · split at read
      · cases read
      · rename_i header parsed
        split at read
        · cases read
        · cases read
          exact ⟨parsed, rfl, by omega, rfl⟩
  · intro whole
    have total := whole.total
    have within := whole.within
    rw [if_neg (by omega), whole.header]
    dsimp only
    rw [if_neg (by omega), ← total, ← whole.body]

/-- The messages of a byte stream. -/
def messageStream : StreamDecoder UInt8 HandedMessage where
  next := nextMessage codec
  positive stream message size read := by
    have whole := (nextMessage_some codec stream message size).mp read
    have total := whole.total
    simp only [headerSize] at total
    omega
  within stream message size read := ((nextMessage_some codec stream message size).mp read).within
  stable stream more message size read := by
    have whole := (nextMessage_some codec stream message size).mp read
    have total := whole.total
    have within := whole.within
    apply (nextMessage_some codec (stream ++ more) message size).mpr
    apply WholeMessage.mk _ total
    · rw [List.length_append]
      omega
    · rw [List.drop_append_of_le_length (by omega), List.take_append_of_le_length
        (by simp only [List.length_drop]; omega)]
      exact whole.body
    · rw [List.take_append_of_le_length (by omega)]
      exact whole.header

/-- What the loop sees at the front of the receive buffer is what the decoder reads. -/
theorem nextMessage_content (conn : ClientConnection) (valid : RecvBuffer conn) :
    nextMessage codec (content conn) =
      if conn.recvBufferUsed < headerSize then none else
      match parseMessageHeader codec conn with
      | none => none
      | some header =>
          if conn.recvBufferUsed < headerSize + header.bodyLength.toNat then none
          else some (⟨header, frontBody conn header⟩, headerSize + header.bodyLength.toNat) := by
  unfold nextMessage
  rw [content_length conn valid]
  split
  · rfl
  · rename_i long
    have front : (content conn).take headerSize = conn.recvBuffer.take headerSize := by
      rw [content, List.take_take, Nat.min_eq_left (by omega)]
    rw [front]
    unfold parseMessageHeader
    cases codec.deserializeMessageHeader (conn.recvBuffer.take headerSize) with
    | none => rfl
    | some header =>
        dsimp only
        split
        · rfl
        · rename_i fits
          have body : ((content conn).drop headerSize).take header.bodyLength.toNat =
              frontBody conn header := by
            rw [content, frontBody, List.drop_take, List.take_take, Nat.min_eq_left (by omega)]
          rw [body]

end Messages

/-- Removing a message drops its bytes. -/
theorem removeMessage_content (conn : ClientConnection) (valid : RecvBuffer conn) (totalLen : Nat)
    (fits : totalLen ≤ conn.recvBufferUsed) :
    RecvBuffer (removeMessage conn totalLen) ∧
      content (removeMessage conn totalLen) = (content conn).drop totalLen := by
  have capacity := valid.capacity
  have within := valid.within
  constructor
  · constructor
    · exact (memmove_length conn.recvBuffer totalLen _ (by omega)).trans capacity
    · simp only [removeMessage]
      omega
  · exact memmove_take conn.recvBuffer totalLen conn.recvBufferUsed fits (by omega)

/-- A buffer that is large enough takes the data behind its content. -/
theorem recvBuffer_append (conn : ClientConnection) (valid : RecvBuffer conn) (data : List UInt8)
    (fits : conn.recvBufferUsed + data.length ≤ conn.recvBufferSize) :
    RecvBuffer { conn with
      recvBuffer := memcpy conn.recvBuffer conn.recvBufferUsed data
      recvBufferUsed := conn.recvBufferUsed + data.length } ∧
    content { conn with
      recvBuffer := memcpy conn.recvBuffer conn.recvBufferUsed data
      recvBufferUsed := conn.recvBufferUsed + data.length } = content conn ++ data := by
  have capacity := valid.capacity
  constructor
  · exact ⟨(memcpy_length _ _ _ (by omega)).trans capacity, fits⟩
  · exact memcpy_take conn.recvBuffer conn.recvBufferUsed data (by omega)

/-- The buffer grows to twice the size that it needs. -/
theorem resizeRecvBuffer_grow (conn : ClientConnection) (valid : RecvBuffer conn) (length : Nat)
    (full : conn.recvBufferSize < conn.recvBufferUsed + length) :
    ∃ grown, resizeRecvBuffer conn ((conn.recvBufferUsed + length) * 2) true = some grown ∧
      RecvBuffer grown ∧ content grown = content conn ∧ grown.recvBufferUsed = conn.recvBufferUsed ∧
      grown.recvBufferUsed + length ≤ grown.recvBufferSize := by
  have capacity := valid.capacity
  have within := valid.within
  unfold resizeRecvBuffer
  rw [if_neg (by omega), if_pos rfl]
  refine ⟨_, rfl, ⟨realloc_length 0 conn.recvBuffer _, ?_⟩, ?_, rfl, ?_⟩
  · show conn.recvBufferUsed ≤ (conn.recvBufferUsed + length) * 2
    omega
  · exact realloc_take 0 conn.recvBuffer conn.recvBufferUsed _ (by omega) (by omega)
  · show conn.recvBufferUsed + length ≤ (conn.recvBufferUsed + length) * 2
    omega

/-- Appending puts the data behind the content, or fails with `realloc`. -/
theorem appendRecvBuffer_content (conn : ClientConnection) (valid : RecvBuffer conn)
    (data : List UInt8) (reallocOk : Bool) :
    (appendRecvBuffer conn data reallocOk = none ∧ reallocOk = false) ∨
      ∃ next, appendRecvBuffer conn data reallocOk = some next ∧ RecvBuffer next ∧
        content next = content conn ++ data := by
  unfold appendRecvBuffer
  dsimp only
  by_cases full : conn.recvBufferSize < conn.recvBufferUsed + data.length
  · rw [if_pos full]
    cases reallocOk with
    | false =>
        apply Or.inl
        rw [resizeRecvBuffer, if_neg (by omega), if_neg (by decide)]
        exact ⟨rfl, rfl⟩
    | true =>
        obtain ⟨grown, resized, grownValid, kept, used, room⟩ :=
          resizeRecvBuffer_grow conn valid data.length full
        obtain ⟨appended, joined⟩ := recvBuffer_append grown grownValid data room
        rw [resized]
        exact .inr ⟨_, rfl, appended, joined.trans (by rw [kept])⟩
  · obtain ⟨appended, joined⟩ := recvBuffer_append conn valid data (by omega)
    rw [if_neg full]
    exact .inr ⟨_, rfl, appended, joined⟩

section Loop

variable (codec : HeaderCodec)

/-- The loop stops where the decoder finds no message. -/
theorem processMessages_stop (fuel : Nat) (host : Host) (valid : RecvBuffer host.conn)
    (stops : nextMessage codec (content host.conn) = none) :
    processMessages codec (fuel + 1) host = ⟨0, host, []⟩ := by
  rw [nextMessage_content codec host.conn valid] at stops
  unfold processMessages
  split
  · rfl
  · rename_i long
    rw [if_neg long] at stops
    cases parsed : parseMessageHeader codec host.conn with
    | none => rfl
    | some header =>
        rw [parsed] at stops
        dsimp only at stops ⊢
        split
        · rfl
        · rename_i fits
          rw [if_neg fits] at stops
          cases stops

/-- One round hands on the next message and removes its bytes. -/
theorem processMessages_next (fuel : Nat) (host : Host) (valid : RecvBuffer host.conn)
    (message : HandedMessage) (size : Nat)
    (read : nextMessage codec (content host.conn) = some (message, size)) :
    ∃ next : Host, SameBuffer host.conn next.conn ∧ processMessages codec (fuel + 1) host =
      ⟨(processMessages codec fuel { next with conn := removeMessage next.conn size }).processed + 1,
        (processMessages codec fuel { next with conn := removeMessage next.conn size }).host,
        message :: (processMessages codec fuel
          { next with conn := removeMessage next.conn size }).handed⟩ := by
  rw [nextMessage_content codec host.conn valid] at read
  rw [processMessages]
  split at read
  · cases read
  · rename_i long
    rw [if_neg long]
    cases parsed : parseMessageHeader codec host.conn with
    | none =>
        rw [parsed] at read
        cases read
    | some header =>
        rw [parsed] at read
        dsimp only at read ⊢
        split at read
        · cases read
        · rename_i fits
          obtain ⟨accepted, same⟩ := processCompleteMessage_accepts codec host header
          cases read
          rw [if_neg fits, accepted]
          exact ⟨_, same, rfl⟩

/-- The loop hands on the messages at the front of the buffer and keeps the rest. -/
theorem processMessages_drain (fuel : Nat) (host : Host) (valid : RecvBuffer host.conn) :
    RecvBuffer (processMessages codec fuel host).host.conn ∧
      (processMessages codec fuel host).handed =
        ((messageStream codec).drainFuel fuel (content host.conn)).1 ∧
      content (processMessages codec fuel host).host.conn =
        ((messageStream codec).drainFuel fuel (content host.conn)).2 := by
  induction fuel generalizing host with
  | zero => exact ⟨valid, rfl, rfl⟩
  | succ fuel ih =>
      cases read : nextMessage codec (content host.conn) with
      | none =>
          have decoded : (messageStream codec).next (content host.conn) = none := read
          rw [processMessages_stop codec fuel host valid read, StreamDecoder.drainFuel, decoded]
          exact ⟨valid, rfl, rfl⟩
      | some found =>
          obtain ⟨message, size⟩ := found
          have decoded : (messageStream codec).next (content host.conn) = some (message, size) := read
          have within := ((nextMessage_some codec _ _ _).mp read).within
          rw [content_length host.conn valid] at within
          obtain ⟨next, same, round⟩ := processMessages_next codec fuel host valid message size read
          obtain ⟨kept, shorter⟩ := removeMessage_content next.conn (same.valid valid) size
            (by rw [same.used]; exact within)
          obtain ⟨final, handed, rest⟩ :=
            ih { next with conn := removeMessage next.conn size } kept
          rw [round, StreamDecoder.drainFuel, decoded]
          dsimp only
          rw [handed, rest, shorter, same.content]
          exact ⟨final, rfl, rfl⟩

/-- One call drains the content with the new data behind it.
It has no effect when there is no data, or when `realloc` fails. -/
theorem connectionProcessData_drain (host : Host) (valid : RecvBuffer host.conn) (data : List UInt8)
    (reallocOk : Bool) :
    ((connectionProcessData codec host data reallocOk).2 = (host, []) ∧
      (data = [] ∨ reallocOk = false)) ∨
    (RecvBuffer (connectionProcessData codec host data reallocOk).2.1.conn ∧
      (content (connectionProcessData codec host data reallocOk).2.1.conn,
        (connectionProcessData codec host data reallocOk).2.2) =
        (messageStream codec).machine.step (content host.conn) data) := by
  unfold connectionProcessData
  by_cases present : data.length = 0
  · rw [if_pos present]
    exact .inl ⟨rfl, .inl (List.length_eq_zero_iff.mp present)⟩
  · rw [if_neg present]
    rcases appendRecvBuffer_content host.conn valid data reallocOk with
      ⟨failed, memory⟩ | ⟨next, appended, nextValid, joined⟩
    · rw [failed]
      exact .inl ⟨rfl, .inr memory⟩
    · obtain ⟨kept, handed, rest⟩ := processMessages_drain codec next.recvBufferUsed
        { host with conn := next } nextValid
      have fuel : next.recvBufferUsed = (content host.conn ++ data).length := by
        rw [← joined, content_length next nextValid]
      rw [appended]
      dsimp only
      apply Or.inr
      refine ⟨kept, ?_⟩
      rw [handed, rest]
      dsimp only [StreamDecoder.machine, StreamDecoder.drain]
      rw [joined, fuel]

theorem connectionProcessData_valid (host : Host) (valid : RecvBuffer host.conn) (data : List UInt8)
    (reallocOk : Bool) : RecvBuffer (connectionProcessData codec host data reallocOk).2.1.conn := by
  rcases connectionProcessData_drain codec host valid data reallocOk with ⟨idle, -⟩ | ⟨kept, -⟩
  · rw [idle]
    exact valid
  · exact kept

end Loop

variable (codec : HeaderCodec)

/-- A connection that is fed chunk by chunk runs the decoder on the same chunks. -/
theorem processMachine_run (host : Host) (valid : RecvBuffer host.conn)
    (chunks : List (List UInt8)) (present : ∀ chunk ∈ chunks, chunk ≠ []) :
    (content ((processMachine codec).run host (chunks.map fun chunk => (chunk, true))).1.conn,
      ((processMachine codec).run host (chunks.map fun chunk => (chunk, true))).2) =
      (messageStream codec).machine.run (content host.conn) chunks := by
  induction chunks generalizing host with
  | nil => rfl
  | cons chunk chunks ih =>
      rw [List.forall_mem_cons] at present
      rcases connectionProcessData_drain codec host valid chunk true with ⟨-, empty⟩ | ⟨kept, step⟩
      · rcases empty with empty | empty
        · exact absurd empty present.1
        · cases empty
      · have later := ih (connectionProcessData codec host chunk true).2.1 kept present.2
        rw [List.map_cons, Machine.run_cons, Machine.run_cons, ← step]
        dsimp only
        rw [← later]
        rfl

/-- The messages and the rest do not depend on the cuts of the stream.
The used bytes stay inside the buffer after every call. -/
theorem connectionProcessData_segmentation (host : Host) (valid : RecvBuffer host.conn)
    (chunks : List (List UInt8)) (present : ∀ chunk ∈ chunks, chunk ≠ []) :
    ((processMachine codec).run host (chunks.map fun chunk => (chunk, true))).2 =
        (connectionProcessData codec host chunks.flatten true).2.2 ∧
      content ((processMachine codec).run host (chunks.map fun chunk => (chunk, true))).1.conn =
        content (connectionProcessData codec host chunks.flatten true).2.1.conn ∧
      ∀ visited ∈ (processMachine codec).states host (chunks.map fun chunk => (chunk, true)),
        visited.conn.recvBufferUsed ≤ visited.conn.recvBufferSize := by
  have inside := (processMachine codec).states_always (fun host => RecvBuffer host.conn)
    (fun host input valid => connectionProcessData_valid codec host valid input.1 input.2) host
    (chunks.map fun chunk => (chunk, true)) valid
  have stays : ∀ visited ∈ (processMachine codec).states host (chunks.map fun chunk => (chunk, true)),
      visited.conn.recvBufferUsed ≤ visited.conn.recvBufferSize :=
    fun visited member => (inside visited member).within
  have decoded := processMachine_run codec host valid chunks present
  cases chunks with
  | nil => exact ⟨rfl, rfl, stays⟩
  | cons chunk chunks =>
      rw [List.forall_mem_cons] at present
      rw [StreamDecoder.machine_run_whole] at decoded
      rcases connectionProcessData_drain codec host valid (chunk :: chunks).flatten true with
        ⟨-, empty⟩ | ⟨-, whole⟩
      · rcases empty with empty | empty
        · exact absurd (List.append_eq_nil_iff.mp empty).1 present.1
        · cases empty
      · obtain ⟨rest, handed⟩ := Prod.mk.inj (decoded.trans whole.symm)
        exact ⟨handed, rest, stays⟩

theorem connectionCreate_valid (fd : Int) (ssl : Bool) (now : UInt64) :
    RecvBuffer (connectionCreate fd ssl now) :=
  ⟨List.length_replicate, Nat.zero_le _⟩

/-- A new connection in a world whose clock stands still and whose socket takes everything. -/
def sampleHost : Host := ⟨connectionCreate 4 false 0, ⟨fun _ => 0, fun _ => .takes 65535, 0, 0, [], []⟩⟩

/-- The bytes of one message that was sent at time zero. -/
def sampleMessage (messageType : UInt32) (body : List UInt8) : List UInt8 :=
  writeNetworkHeader (outgoingHeader networkCodec messageType body 0 1) ++ body

/-- A heartbeat that is cut inside its header and inside its body. -/
def cutHeartbeat : List (List UInt8) :=
  [(sampleMessage msgSystemHeartbeat [1, 2, 3, 4, 5, 6, 7, 8]).take 10,
    ((sampleMessage msgSystemHeartbeat [1, 2, 3, 4, 5, 6, 7, 8]).drop 10).take 60,
    (sampleMessage msgSystemHeartbeat [1, 2, 3, 4, 5, 6, 7, 8]).drop 70]

theorem connectionProcessData_cut_heartbeat :
    ((processMachine networkCodec).run sampleHost (cutHeartbeat.map fun chunk => (chunk, true))).2 =
        (connectionProcessData networkCodec sampleHost cutHeartbeat.flatten true).2.2 ∧
      content ((processMachine networkCodec).run sampleHost
        (cutHeartbeat.map fun chunk => (chunk, true))).1.conn =
        content (connectionProcessData networkCodec sampleHost cutHeartbeat.flatten true).2.1.conn ∧
      ∀ visited ∈ (processMachine networkCodec).states sampleHost
          (cutHeartbeat.map fun chunk => (chunk, true)),
        visited.conn.recvBufferUsed ≤ visited.conn.recvBufferSize :=
  connectionProcessData_segmentation networkCodec sampleHost (connectionCreate_valid 4 false 0)
    cutHeartbeat (by decide +kernel)

end SecureChat.Server

namespace SecureChat.Server
open Library Protocol

section FirstMessage

variable (codec : HeaderCodec) (host : Host)

/-- The whole message at the front of the receive buffer, as both consumers read its header. -/
def wholeFront (conn : ClientConnection) : Option MessageHeader :=
  if conn.recvBufferUsed < headerSize then none else
  (parseMessageHeader codec conn).filter fun header =>
    headerSize + header.bodyLength.toNat ≤ conn.recvBufferUsed

/-- The magic number is right, and the body has the checksum of its header. -/
structure Receivable (conn : ClientConnection) (header : MessageHeader) : Prop where
  magic : header.magic = protocolMagic
  checksum : 0 < header.bodyLength → codec.calculateMessageChecksum (frontBody conn header) = header.checksum

theorem wholeFront_some (conn : ClientConnection) (header : MessageHeader) :
    wholeFront codec conn = some header ↔
      ¬ conn.recvBufferUsed < headerSize ∧ parseMessageHeader codec conn = some header ∧
        ¬ conn.recvBufferUsed < headerSize + header.bodyLength.toNat := by
  unfold wholeFront
  split
  · rename_i short
    exact ⟨nofun, fun whole => absurd short whole.1⟩
  · rename_i long
    rw [Option.filter_eq_some_iff, decide_eq_true_eq, and_iff_right long, Nat.not_lt]

/-- The loop goes into its first round exactly for a whole message. -/
theorem processMessages_idle (fuel : Nat) (idle : wholeFront codec host.conn = none) :
    processMessages codec fuel host = ⟨0, host, []⟩ := by
  cases fuel with
  | zero => rfl
  | succ fuel =>
      rw [processMessages]
      split
      · rfl
      · rename_i long
        split
        · rfl
        · rename_i header parsed
          split
          · rfl
          · rename_i fits
            have whole := (wholeFront_some codec host.conn header).mpr ⟨long, parsed, fits⟩
            rw [idle] at whole
            cases whole

theorem processMessages_takes (fuel : Nat) (header : MessageHeader)
    (whole : wholeFront codec host.conn = some header) :
    0 < (processMessages codec (fuel + 1) host).processed := by
  obtain ⟨long, parsed, fits⟩ := (wholeFront_some codec host.conn header).mp whole
  obtain ⟨accepted, -⟩ := processCompleteMessage_accepts codec host header
  rw [processMessages, if_neg long, parsed]
  dsimp only
  rw [if_neg fits, accepted]
  exact Nat.succ_pos _

/-- The other consumer returns a message exactly when it is whole and passes both tests. -/
theorem connectionReceiveMessage_one (conn : ClientConnection) (out : ReceivedMessage) :
    (connectionReceiveMessage codec conn true out).1 = 1 ↔
      ∃ header, wholeFront codec conn = some header ∧ Receivable codec conn header := by
  unfold connectionReceiveMessage
  constructor
  · intro returned
    split at returned
    · cases returned
    · rename_i long
      split at returned
      · cases returned
      · rename_i header parsed
        split at returned
        · cases returned
        · rename_i magic
          split at returned
          · cases returned
          · rename_i fits
            rw [if_neg (by decide)] at returned
            split at returned
            · cases returned
            · rename_i checksum
              refine ⟨header, (wholeFront_some codec conn header).mpr ⟨long, parsed, fits⟩,
                not_not.mp magic, fun body => ?_⟩
              exact not_not.mp fun differs => checksum ⟨body, differs⟩
  · rintro ⟨header, whole, receivable⟩
    obtain ⟨long, parsed, fits⟩ := (wholeFront_some codec conn header).mp whole
    rw [if_neg long, parsed]
    dsimp only
    rw [if_neg (not_not.mpr receivable.magic), if_neg fits, if_neg (by decide),
      if_neg fun wrong => wrong.2 (receivable.checksum wrong.1)]

end FirstMessage

variable (codec : HeaderCodec)

/-- A call has removed a message as processed, or it has read the clock or sent something. -/
def ActsOnFirst (host : Host) (data : List UInt8) (reallocOk : Bool) : Prop :=
  0 < (connectionProcessData codec host data reallocOk).1 ∨
    (connectionProcessData codec host data reallocOk).2.1.world ≠ host.world

/-- A call acts on the first message in the buffer, which ends with the new data,
only if the other consumer would return this message. -/
def ConsumersAgree (host : Host) (data : List UInt8) (reallocOk : Bool) : Prop :=
  ActsOnFirst codec host data reallocOk →
    ∃ conn, appendRecvBuffer host.conn data reallocOk = some conn ∧
      ∀ out, (connectionReceiveMessage codec conn true out).1 = 1

/-- What a call does is decided by the message at the front of the buffer alone. -/
theorem actsOnFirst_iff (host : Host) (data : List UInt8) (reallocOk : Bool) :
    ActsOnFirst codec host data reallocOk ↔
      data ≠ [] ∧ ∃ conn header, appendRecvBuffer host.conn data reallocOk = some conn ∧
        wholeFront codec conn = some header := by
  unfold ActsOnFirst connectionProcessData
  by_cases present : data.length = 0
  · rw [if_pos present]
    have empty : ¬ data ≠ [] := not_not.mpr (List.length_eq_zero_iff.mp present)
    simp [empty]
  · rw [if_neg present]
    have some_data : data ≠ [] := fun empty => present (by rw [empty]; rfl)
    cases appended : appendRecvBuffer host.conn data reallocOk with
    | none => simp
    | some conn =>
        dsimp only
        cases front : wholeFront codec conn with
        | none =>
            rw [processMessages_idle codec { host with conn := conn } _ front]
            simp [front]
        | some header =>
            have long := ((wholeFront_some codec conn header).mp front).1
            simp only [headerSize] at long
            obtain ⟨fuel, used⟩ := Nat.exists_eq_succ_of_ne_zero (show conn.recvBufferUsed ≠ 0 by omega)
            rw [used]
            have taken := processMessages_takes codec { host with conn := conn } fuel header front
            exact iff_of_true (.inl (Int.ofNat_lt.mpr taken)) ⟨some_data, conn, header, rfl, front⟩

/-- The loop acts on every whole message, so the other consumer must receive it. -/
theorem ConsumersAgree.receivable {host : Host} {data : List UInt8} {reallocOk : Bool}
    (agrees : ConsumersAgree codec host data reallocOk) (present : data ≠ []) {conn : ClientConnection}
    {header : MessageHeader} (appended : appendRecvBuffer host.conn data reallocOk = some conn)
    (whole : wholeFront codec conn = some header) : Receivable codec conn header := by
  unfold ConsumersAgree at agrees
  rw [actsOnFirst_iff] at agrees
  obtain ⟨same, found, received⟩ := agrees ⟨present, conn, header, appended, whole⟩
  obtain rfl := Option.some.inj (appended.symm.trans found)
  obtain ⟨other, front, receivable⟩ := (connectionReceiveMessage_one codec conn ⟨0, [], 0⟩).mp (received _)
  obtain rfl := Option.some.inj (whole.symm.trans front)
  exact receivable

/-- Every whole message must have the right magic number and a matching checksum by itself,
since the loop looks at neither. -/
theorem consumersAgree_iff (host : Host) (data : List UInt8) (reallocOk : Bool) :
    ConsumersAgree codec host data reallocOk ↔
      (data ≠ [] → ∀ conn header, appendRecvBuffer host.conn data reallocOk = some conn →
        wholeFront codec conn = some header → Receivable codec conn header) := by
  constructor
  · exact fun agrees present conn header => agrees.receivable codec present
  · intro receivable
    unfold ConsumersAgree
    rw [actsOnFirst_iff]
    rintro ⟨present, conn, header, appended, whole⟩
    refine ⟨conn, appended, fun out => ?_⟩
    exact (connectionReceiveMessage_one codec conn out).mpr
      ⟨header, whole, receivable present conn header appended whole⟩

/-- A heartbeat whose body was damaged on its way. -/
def damagedHeartbeat : List UInt8 :=
  writeNetworkHeader (outgoingHeader networkCodec msgSystemHeartbeat [1, 2, 3, 4, 5, 6, 7, 8] 0 1) ++
    [1, 2, 3, 4, 5, 6, 7, 9]

/-- A new connection answers the heartbeat that the other consumer refuses. -/
theorem consumersAgree_damaged_fails : ¬ ConsumersAgree networkCodec sampleHost damagedHeartbeat true := by
  intro agrees
  have whole := agrees.receivable networkCodec (by decide +kernel) rfl
    (show _ = some (outgoingHeader networkCodec msgSystemHeartbeat [1, 2, 3, 4, 5, 6, 7, 8] 0 1) by
      decide +kernel)
  exact absurd (whole.checksum (by decide +kernel)) (by decide +kernel)

end SecureChat.Server
