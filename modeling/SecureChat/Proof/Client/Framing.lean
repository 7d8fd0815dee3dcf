import Mathlib.Data.List.ReduceOption
import SecureChat.Construction.Client.Receive
import SecureChat.Library.StreamDecoder

namespace SecureChat.Client
open Library Protocol

/-- The used bytes lie inside the receive buffer, which has the recorded size. -/
structure RecvBuffer (client : ReceivingClient) : Prop where
  capacity : client.recvBuffer.length = client.recvBufferSize
  within : client.recvBufferUsed ≤ client.recvBufferSize

/-- The bytes that the client has received and not yet used. -/
def content (client : ReceivingClient) : List UInt8 := client.recvBuffer.take client.recvBufferUsed

theorem content_length (client : ReceivingClient) (valid : RecvBuffer client) :
    (content client).length = client.recvBufferUsed := by
  rw [content, List.length_take, valid.capacity]
  exact Nat.min_eq_left valid.within

section Packets

variable (codec : HeaderCodec) (verifyMessageChecksum : MessageHeader → List UInt8 → Bool)

/-- What the client does at the front of a stream, and how many bytes that takes.
It skips a byte without the magic number and a message with a wrong checksum. -/
def nextPacket (stream : List UInt8) : Option (Option HandedMessage × Nat) :=
  if stream.length < headerSize then none else
  match codec.deserializeMessageHeader (stream.take headerSize) with
  | none => none
  | some header =>
      if header.magic ≠ protocolMagic then some (none, 1) else
      if stream.length < headerSize + header.bodyLength.toNat then none else
      if !verifyMessageChecksum header ((stream.drop headerSize).take header.bodyLength.toNat) then
        some (none, headerSize + header.bodyLength.toNat)
      else some (some ⟨header, (stream.drop headerSize).take header.bodyLength.toNat⟩,
        headerSize + header.bodyLength.toNat)

/-- A step that the client takes at the front of a stream. -/
inductive Packet (stream : List UInt8) : Option HandedMessage → Nat → Prop where
  | garbage (header : MessageHeader) (long : headerSize ≤ stream.length)
      (parsed : codec.deserializeMessageHeader (stream.take headerSize) = some header)
      (wrong : header.magic ≠ protocolMagic) : Packet stream none 1
  | invalid (message : HandedMessage)
      (within : headerSize + message.header.bodyLength.toNat ≤ stream.length)
      (parsed : codec.deserializeMessageHeader (stream.take headerSize) = some message.header)
      (magic : message.header.magic = protocolMagic)
      (body : message.body = (stream.drop headerSize).take message.header.bodyLength.toNat)
      (wrong : verifyMessageChecksum message.header message.body = false) :
      Packet stream none (headerSize + message.header.bodyLength.toNat)
  | whole (message : HandedMessage)
      (within : headerSize + message.header.bodyLength.toNat ≤ stream.length)
      (parsed : codec.deserializeMessageHeader (stream.take headerSize) = some message.header)
      (magic : message.header.magic = protocolMagic)
      (body : message.body = (stream.drop headerSize).take message.header.bodyLength.toNat)
      (right : verifyMessageChecksum message.header message.body = true) :
      Packet stream (some message) (headerSize + message.header.bodyLength.toNat)

theorem nextPacket_some (stream : List UInt8) (item : Option HandedMessage) (size : Nat) :
    nextPacket codec verifyMessageChecksum stream = some (item, size) ↔
      Packet codec verifyMessageChecksum stream item size := by
  constructor
  · intro read
    rw [nextPacket] at read
    split at read
    · cases read
    · rename_i long
      split at read
      · cases read
      · rename_i header parsed
        split at read
        · rename_i wrong
          cases read
          exact .garbage header (Nat.le_of_not_lt long) parsed wrong
        · rename_i magic
          rw [not_not] at magic
          split at read
          · cases read
          · rename_i fits
            split at read
            · rename_i wrong
              cases read
              rw [Bool.not_eq_true'] at wrong
              exact .invalid ⟨header, _⟩ (Nat.le_of_not_lt fits) parsed magic rfl wrong
            · rename_i right
              cases read
              rw [Bool.not_eq_true', Bool.not_eq_false] at right
              exact .whole ⟨header, _⟩ (Nat.le_of_not_lt fits) parsed magic rfl right
  · intro packet
    rw [nextPacket]
    cases packet with
    | garbage header long parsed wrong =>
        rw [if_neg (Nat.not_lt.mpr long), parsed]
        exact if_pos wrong
    | invalid message within parsed magic body wrong =>
        rw [if_neg (by omega), parsed]
        dsimp only
        rw [if_neg (not_not.mpr magic), if_neg (Nat.not_lt.mpr within), ← body, wrong]
        rfl
    | whole message within parsed magic body right =>
        rw [if_neg (by omega), parsed]
        dsimp only
        rw [if_neg (not_not.mpr magic), if_neg (Nat.not_lt.mpr within), ← body, right]
        rfl

/-- The steps of the client over a byte stream. -/
def packetStream : StreamDecoder UInt8 (Option HandedMessage) where
  next := nextPacket codec verifyMessageChecksum
  positive stream item size read := by
    cases (nextPacket_some codec verifyMessageChecksum stream item size).mp read with
    | garbage => exact Nat.one_pos
    | invalid => exact Nat.add_pos_left (by decide) _
    | whole => exact Nat.add_pos_left (by decide) _
  within stream item size read := by
    cases (nextPacket_some codec verifyMessageChecksum stream item size).mp read with
    | garbage header long => exact Nat.le_trans (by decide) long
    | invalid message within => exact within
    | whole message within => exact within
  stable stream more item size read := by
    apply (nextPacket_some codec verifyMessageChecksum (stream ++ more) item size).mpr
    have grown : stream.length ≤ (stream ++ more).length := by
      rw [List.length_append]
      exact Nat.le_add_right _ _
    have header (long : headerSize ≤ stream.length) :
        (stream ++ more).take headerSize = stream.take headerSize := List.take_append_of_le_length long
    have body (length : Nat) (within : headerSize + length ≤ stream.length) :
        ((stream ++ more).drop headerSize).take length = (stream.drop headerSize).take length := by
      rw [List.drop_append_of_le_length (by omega), List.take_append_of_le_length
        (by rw [List.length_drop]; omega)]
    cases (nextPacket_some codec verifyMessageChecksum stream item size).mp read with
    | garbage found long parsed wrong =>
        exact .garbage found (Nat.le_trans long grown) (by rw [header long]; exact parsed) wrong
    | invalid message within parsed magic data wrong =>
        exact .invalid message (Nat.le_trans within grown) (by rw [header (by omega)]; exact parsed) magic
          (by rw [body _ within]; exact data) wrong
    | whole message within parsed magic data right =>
        exact .whole message (Nat.le_trans within grown) (by rw [header (by omega)]; exact parsed) magic
          (by rw [body _ within]; exact data) right

/-- The messages that the client hands over from a stream that arrives at once. -/
def streamMessages (stream : List UInt8) : List HandedMessage :=
  ((packetStream codec verifyMessageChecksum).drain stream).1.reduceOption

end Packets

section Buffers

/-- Removing bytes from the front drops them from the content. -/
theorem removeFront_content (client : ReceivingClient) (valid : RecvBuffer client) (len : Nat)
    (fits : len ≤ client.recvBufferUsed) :
    RecvBuffer (removeFront client len) ∧ content (removeFront client len) = (content client).drop len := by
  have capacity := valid.capacity
  have within := valid.within
  constructor
  · constructor
    · exact (memmove_length client.recvBuffer len _ (by omega)).trans capacity
    · simp only [removeFront]
      omega
  · exact memmove_take client.recvBuffer len client.recvBufferUsed fits (by omega)

/-- Growth keeps the content and makes room. -/
theorem growRecvBuffer_content (client : ReceivingClient) (valid : RecvBuffer client) (reallocOk : Bool)
    (grown : ReceivingClient) (resized : growRecvBuffer client reallocOk = some grown) :
    RecvBuffer grown ∧ content grown = content client := by
  have capacity := valid.capacity
  have within := valid.within
  rw [growRecvBuffer] at resized
  split at resized
  · split at resized
    · cases resized
      refine ⟨⟨realloc_length 0 client.recvBuffer _, ?_⟩, ?_⟩
      · show client.recvBufferUsed ≤ client.recvBufferSize * 2
        omega
      · exact realloc_take 0 client.recvBuffer client.recvBufferUsed _ (by omega) (by omega)
    · cases resized
  · cases resized
    exact ⟨valid, rfl⟩

/-- The received bytes are put behind the content. -/
theorem recvBuffer_append (client : ReceivingClient) (valid : RecvBuffer client) (data : List UInt8)
    (received : UInt64) (fits : client.recvBufferUsed + data.length ≤ client.recvBufferSize) :
    RecvBuffer { client with
      recvBuffer := memcpy client.recvBuffer client.recvBufferUsed data
      recvBufferUsed := client.recvBufferUsed + data.length
      bytesReceived := received } ∧
    content { client with
      recvBuffer := memcpy client.recvBuffer client.recvBufferUsed data
      recvBufferUsed := client.recvBufferUsed + data.length
      bytesReceived := received } = content client ++ data := by
  have capacity := valid.capacity
  constructor
  · exact ⟨(memcpy_length _ _ _ (by omega)).trans capacity, fits⟩
  · exact memcpy_take client.recvBuffer client.recvBufferUsed data (by omega)

/-- The socket gives no more than it has, and no more than there is room for. -/
theorem receivedCount_bound (host : ClientHost) (reply : RecvReply) :
    receivedCount host reply ≤ host.client.recvBufferSize - host.client.recvBufferUsed ∧
      receivedCount host reply ≤ host.incoming.length := by
  cases reply with
  | bytes more =>
      simp only [receivedCount]
      omega
  | closed => exact ⟨Nat.zero_le _, Nat.zero_le _⟩
  | failed => exact ⟨Nat.zero_le _, Nat.zero_le _⟩

end Buffers

section Loop

variable (codec : HeaderCodec) (verifyMessageChecksum : MessageHeader → List UInt8 → Bool)

theorem content_header (client : ReceivingClient) (long : headerSize ≤ client.recvBufferUsed) :
    (content client).take headerSize = client.recvBuffer.take headerSize := by
  rw [content, List.take_take, Nat.min_eq_left long]

theorem content_body (client : ReceivingClient) (length : Nat)
    (within : headerSize + length ≤ client.recvBufferUsed) :
    ((content client).drop headerSize).take length = (client.recvBuffer.drop headerSize).take length := by
  rw [content, List.drop_take, List.take_take, Nat.min_eq_left (by omega)]

/-- One round does what the decoder reads. -/
theorem processRound_some (host : ClientHost) (valid : RecvBuffer host.client)
    (item : Option HandedMessage) (size : Nat)
    (read : nextPacket codec verifyMessageChecksum (content host.client) = some (item, size)) :
    ∃ next, processRound codec verifyMessageChecksum host = some (next, item.toList) ∧
      RecvBuffer next.client ∧ content next.client = (content host.client).drop size ∧
      next.client.recvBufferUsed = host.client.recvBufferUsed - size ∧ next.incoming = host.incoming := by
  have measured := content_length host.client valid
  rw [processRound]
  cases (nextPacket_some codec verifyMessageChecksum _ item size).mp read with
  | garbage header long parsed wrong =>
      rw [measured] at long
      rw [content_header host.client long] at parsed
      obtain ⟨removed, dropped⟩ := removeFront_content host.client valid 1 (Nat.le_trans (by decide) long)
      rw [if_neg (Nat.not_lt.mpr long), parsed]
      dsimp only
      rw [if_pos wrong]
      exact ⟨_, rfl, removed, dropped, rfl, rfl⟩
  | invalid message within parsed magic body wrong =>
      rw [measured] at within
      rw [content_header host.client (by omega)] at parsed
      rw [content_body host.client _ within] at body
      obtain ⟨removed, dropped⟩ := removeFront_content host.client valid _ within
      rw [if_neg (by omega), parsed]
      dsimp only
      rw [if_neg (not_not.mpr magic), if_neg (Nat.not_lt.mpr within), ← body, wrong]
      exact ⟨_, rfl, removed, dropped, rfl, rfl⟩
  | whole message within parsed magic body right =>
      rw [measured] at within
      rw [content_header host.client (by omega)] at parsed
      rw [content_body host.client _ within] at body
      obtain ⟨removed, dropped⟩ := removeFront_content host.client valid _ within
      rw [if_neg (by omega), parsed]
      dsimp only
      rw [if_neg (not_not.mpr magic), if_neg (Nat.not_lt.mpr within), ← body, right]
      exact ⟨_, rfl, ⟨removed.capacity, removed.within⟩, dropped, rfl, rfl⟩

/-- The loop ends where the decoder finds nothing to do. -/
theorem processRound_none (host : ClientHost) (valid : RecvBuffer host.client) :
    processRound codec verifyMessageChecksum host = none ↔
      nextPacket codec verifyMessageChecksum (content host.client) = none := by
  cases read : nextPacket codec verifyMessageChecksum (content host.client) with
  | some found =>
      obtain ⟨next, round, -⟩ := processRound_some codec verifyMessageChecksum host valid _ _ read
      simp [round]
  | none =>
      apply iff_of_true _ rfl
      rw [nextPacket, content_length host.client valid] at read
      rw [processRound]
      split
      · rfl
      · rename_i long
        rw [if_neg long, content_header host.client (Nat.le_of_not_lt long)] at read
        split
        · rfl
        · rename_i header parsed
          rw [parsed] at read
          dsimp only at read ⊢
          split at read
          · cases read
          · rename_i magic
            rw [if_neg magic]
            split at read
            · rename_i short
              exact if_pos short
            · split at read <;> cases read

/-- Enough rounds do what the decoder does with the whole content. -/
theorem processRounds_drain (fuel : Nat) (host : ClientHost) (valid : RecvBuffer host.client)
    (enough : host.client.recvBufferUsed ≤ fuel) :
    (processRounds codec verifyMessageChecksum fuel host).2 =
        streamMessages codec verifyMessageChecksum (content host.client) ∧
      content (processRounds codec verifyMessageChecksum fuel host).1.client =
        ((packetStream codec verifyMessageChecksum).drain (content host.client)).2 ∧
      RecvBuffer (processRounds codec verifyMessageChecksum fuel host).1.client ∧
      (processRounds codec verifyMessageChecksum fuel host).1.incoming = host.incoming := by
  induction fuel generalizing host with
  | zero =>
      have empty : content host.client = [] := by
        rw [content, Nat.le_zero.mp enough, List.take_zero]
      rw [processRounds, streamMessages, empty]
      exact ⟨rfl, rfl, valid, rfl⟩
  | succ fuel ih =>
      cases read : nextPacket codec verifyMessageChecksum (content host.client) with
      | none =>
          have stops := (processRound_none codec verifyMessageChecksum host valid).mpr read
          have settled := (packetStream codec verifyMessageChecksum).drain_none _ read
          rw [processRounds, stops, streamMessages, settled]
          exact ⟨rfl, rfl, valid, rfl⟩
      | some found =>
          obtain ⟨item, size⟩ := found
          have positive := (packetStream codec verifyMessageChecksum).positive _ item size read
          obtain ⟨next, round, kept, rest, used, incoming⟩ :=
            processRound_some codec verifyMessageChecksum host valid item size read
          obtain ⟨handed, left, final, unread⟩ := ih next kept (by omega)
          have drained := (packetStream codec verifyMessageChecksum).drain_some _ item size read
          rw [rest] at handed left
          rw [processRounds, round, streamMessages, drained]
          refine ⟨?_, left, final, unread.trans incoming⟩
          show item.toList ++ _ = _
          rw [handed]
          cases item with
          | none => rfl
          | some message => rfl

/-- After the loop there is no further round. -/
theorem processReceivedData_stops (host : ClientHost) (valid : RecvBuffer host.client) :
    processRound codec verifyMessageChecksum (processReceivedData codec verifyMessageChecksum host).1 = none := by
  obtain ⟨-, left, final, -⟩ :=
    processRounds_drain codec verifyMessageChecksum _ host valid (Nat.le_refl _)
  apply (processRound_none codec verifyMessageChecksum _ final).mpr
  rw [left]
  exact (packetStream codec verifyMessageChecksum).next_drain _

end Loop

section Segments

variable (codec : HeaderCodec) (verifyMessageChecksum : MessageHeader → List UInt8 → Bool)

/-- The receive buffer is valid, and the loop has nothing to do in it. -/
structure Ready (host : ClientHost) : Prop where
  valid : RecvBuffer host.client
  settled : processRound codec verifyMessageChecksum host = none

/-- An empty receive buffer has nothing to do. -/
theorem Ready.empty (host : ClientHost) (valid : RecvBuffer host.client)
    (unused : host.client.recvBufferUsed = 0) : Ready codec verifyMessageChecksum host where
  valid := valid
  settled := if_pos (by rw [unused]; decide)

theorem clientCreate_valid (heartbeatInterval : UInt64) (reconnectAttempts : Int32)
    (answers : Nat → HandlerAnswers) :
    RecvBuffer (clientCreate heartbeatInterval reconnectAttempts answers).host.client :=
  ⟨List.length_replicate, Nat.zero_le _⟩

theorem Ready.drain {host : ClientHost} (ready : Ready codec verifyMessageChecksum host) :
    (packetStream codec verifyMessageChecksum).drain (content host.client) = ([], content host.client) :=
  (packetStream codec verifyMessageChecksum).drain_none _
    ((processRound_none codec verifyMessageChecksum host ready.valid).mp ready.settled)

/-- One call reads some bytes from the socket and does what the decoder does with them. -/
structure Reads (host next : ClientHost) (bytes : List UInt8) (handed : List HandedMessage) : Prop where
  ready : Ready codec verifyMessageChecksum next
  incoming : host.incoming = bytes ++ next.incoming
  handed : handed = streamMessages codec verifyMessageChecksum (content host.client ++ bytes)
  content : content next.client =
    ((packetStream codec verifyMessageChecksum).drain (content host.client ++ bytes)).2

/-- A call that reads nothing keeps the content. -/
theorem Ready.reads_nothing {host : ClientHost} (ready : Ready codec verifyMessageChecksum host)
    (client : ReceivingClient) (valid : RecvBuffer client)
    (same : Client.content client = Client.content host.client) :
    Reads codec verifyMessageChecksum host { host with client := client } [] [] := by
  have drained := ready.drain
  constructor
  · refine ⟨valid, (processRound_none codec verifyMessageChecksum _ valid).mpr ?_⟩
    rw [same]
    exact (processRound_none codec verifyMessageChecksum host ready.valid).mp ready.settled
  · rfl
  · rw [List.append_nil, streamMessages, drained]
    rfl
  · rw [List.append_nil, drained]
    exact same

theorem receiveMessageInternal_reads (host : ClientHost) (ready : Ready codec verifyMessageChecksum host)
    (call : RecvCall) :
    let outcome := receiveMessageInternal codec verifyMessageChecksum host call
    Reads codec verifyMessageChecksum host outcome.host outcome.bytes outcome.handed := by
  rw [receiveMessageInternal]
  split
  · exact ready.reads_nothing codec verifyMessageChecksum host.client ready.valid rfl
  · split
    · exact ready.reads_nothing codec verifyMessageChecksum host.client ready.valid rfl
    · rename_i client resized
      obtain ⟨valid, same⟩ := growRecvBuffer_content host.client ready.valid _ client resized
      dsimp only
      have within := valid.within
      obtain ⟨room, available⟩ := receivedCount_bound { host with client := client } call.reply
      generalize receivedCount { host with client := client } call.reply = received at room available
      split
      · exact ready.reads_nothing codec verifyMessageChecksum client valid same
      · have measured : (host.incoming.take received).length = received := by
          rw [List.length_take]
          exact Nat.min_eq_left available
        obtain ⟨appended, joined⟩ := recvBuffer_append client valid (host.incoming.take received)
          (client.bytesReceived + UInt64.ofNat received) (by rw [measured]; dsimp only at room; omega)
        rw [measured] at appended joined
        obtain ⟨handed, left, final, unread⟩ := processRounds_drain codec verifyMessageChecksum _
          ⟨_, host.incoming.drop received, host.answers, host.answered⟩ appended (Nat.le_refl _)
        rw [joined, same] at handed left
        constructor
        · exact ⟨final, processReceivedData_stops codec verifyMessageChecksum _ appended⟩
        · show host.incoming = host.incoming.take received ++
            (processRounds codec verifyMessageChecksum _ _).1.incoming
          rw [unread, List.take_append_drop]
        · exact handed
        · exact left

/-- A run of calls hands over what the decoder finds in the bytes that it has read. -/
theorem receiveMachine_reads (host : ClientHost) (ready : Ready codec verifyMessageChecksum host)
    (calls : List RecvCall) :
    ∃ bytes, Reads codec verifyMessageChecksum host
      ((receiveMachine codec verifyMessageChecksum).run host calls).1 bytes
      ((receiveMachine codec verifyMessageChecksum).run host calls).2 := by
  induction calls generalizing host with
  | nil => exact ⟨[], ready.reads_nothing codec verifyMessageChecksum host.client ready.valid rfl⟩
  | cons call calls ih =>
      have first := receiveMessageInternal_reads codec verifyMessageChecksum host ready call
      obtain ⟨later, rest⟩ := ih _ first.ready
      refine ⟨(receiveMessageInternal codec verifyMessageChecksum host call).bytes ++ later, rest.ready, ?_, ?_, ?_⟩
      · rw [first.incoming, rest.incoming, List.append_assoc]
        rfl
      · rw [Machine.run_cons, streamMessages, ← List.append_assoc, StreamDecoder.drain_append,
          List.reduceOption_append, ← first.content]
        show _ ++ _ = streamMessages codec verifyMessageChecksum _ ++ streamMessages codec verifyMessageChecksum _
        rw [← first.handed, ← rest.handed]
        rfl
      · rw [← List.append_assoc, StreamDecoder.drain_append, ← first.content, Machine.run_cons]
        exact rest.content

end Segments

section Resynchronisation

variable (codec : HeaderCodec) (verifyMessageChecksum : MessageHeader → List UInt8 → Bool)

/-- Every header can be read, and its first four bytes are the magic number in network order. -/
def MagicFirst : Prop :=
  ∀ bytes : List UInt8, bytes.length = headerSize →
    ∃ header, codec.deserializeMessageHeader bytes = some header ∧
      header.magic.toNat = bigEndianValue (bytes.take 4)

/-- The bytes are a header with the magic number and the body that it announces, with a right checksum. -/
structure WellFormedPacket (packet : List UInt8) (message : HandedMessage) : Prop where
  parsed : codec.deserializeMessageHeader (packet.take headerSize) = some message.header
  magic : message.header.magic = protocolMagic
  length : packet.length = headerSize + message.header.bodyLength.toNat
  body : message.body = packet.drop headerSize
  checksum : verifyMessageChecksum message.header message.body = true

/-- No four bytes that start inside the garbage are the magic number. -/
def NoMagic (garbage packet : List UInt8) : Prop :=
  ∀ start < garbage.length,
    bigEndianValue (((garbage ++ packet).drop start).take 4) ≠ protocolMagic.toNat

/-- A message at the front of the stream is handed over. -/
theorem streamMessages_packet (packet : List UInt8) (message : HandedMessage)
    (wellFormed : WellFormedPacket codec verifyMessageChecksum packet message) (rest : List UInt8) :
    streamMessages codec verifyMessageChecksum (packet ++ rest) =
      message :: streamMessages codec verifyMessageChecksum rest := by
  have length := wellFormed.length
  have read : nextPacket codec verifyMessageChecksum packet = some (some message, packet.length) := by
    rw [nextPacket_some, length]
    apply Packet.whole message (Nat.le_of_eq length.symm) wellFormed.parsed wellFormed.magic _ wellFormed.checksum
    rw [wellFormed.body, List.take_of_length_le (by rw [List.length_drop]; omega)]
  have longer := (packetStream codec verifyMessageChecksum).stable packet rest _ _ read
  rw [streamMessages, StreamDecoder.drain_some _ _ _ _ longer, List.drop_left]
  rfl

/-- The client skips garbage byte by byte until the message begins. -/
theorem streamMessages_garbage (first : MagicFirst codec) (garbage packet : List UInt8)
    (message : HandedMessage) (wellFormed : WellFormedPacket codec verifyMessageChecksum packet message)
    (rest : List UInt8) (silent : NoMagic garbage packet) :
    streamMessages codec verifyMessageChecksum (garbage ++ packet ++ rest) =
      message :: streamMessages codec verifyMessageChecksum rest := by
  induction garbage with
  | nil => exact streamMessages_packet codec verifyMessageChecksum packet message wellFormed rest
  | cons byte garbage ih =>
      have length := wellFormed.length
      have long : headerSize ≤ (byte :: garbage ++ packet ++ rest).length := by
        simp only [List.length_append, List.length_cons]
        omega
      obtain ⟨header, parsed, magic⟩ := first ((byte :: garbage ++ packet ++ rest).take headerSize)
        (by rw [List.length_take]; exact Nat.min_eq_left long)
      have window : ((byte :: garbage ++ packet ++ rest).take headerSize).take 4 =
          (byte :: garbage ++ packet).take 4 := by
        rw [List.take_take, List.take_append_of_le_length]
        · rfl
        · simp only [List.length_append, List.length_cons, headerSize] at length ⊢
          omega
      have wrong : header.magic ≠ protocolMagic := by
        intro same
        rw [window, same] at magic
        exact silent 0 (Nat.succ_pos _) magic.symm
      have read : nextPacket codec verifyMessageChecksum (byte :: garbage ++ packet ++ rest) = some (none, 1) :=
        (nextPacket_some codec verifyMessageChecksum _ _ _).mpr (.garbage header long parsed wrong)
      rw [streamMessages, StreamDecoder.drain_some (packetStream codec verifyMessageChecksum) _ _ _ read]
      exact ih fun start inside => silent (start + 1) (Nat.succ_lt_succ inside)

end Resynchronisation

section Framing

variable (codec : HeaderCodec) (verifyMessageChecksum : MessageHeader → List UInt8 → Bool)

/-- All bytes of the socket are already in the receive buffer. -/
def fillRecvBuffer (host : ClientHost) : ClientHost :=
  { host with
    client := { host.client with
      recvBuffer := content host.client ++ host.incoming
      recvBufferSize := (content host.client ++ host.incoming).length
      recvBufferUsed := (content host.client ++ host.incoming).length }
    incoming := [] }

/-- However the stream is cut by the socket, the client hands over the messages of the whole stream,
never overruns its buffer, ends its loop, and finds a message behind garbage. -/
theorem receiveMessageInternal_framing (host : ClientHost) (ready : Ready codec verifyMessageChecksum host)
    (calls : List RecvCall)
    (finished : ((receiveMachine codec verifyMessageChecksum).run host calls).1.incoming = []) :
    ((receiveMachine codec verifyMessageChecksum).run host calls).2 =
        (processReceivedData codec verifyMessageChecksum (fillRecvBuffer host)).2 ∧
      content ((receiveMachine codec verifyMessageChecksum).run host calls).1.client =
        content (processReceivedData codec verifyMessageChecksum (fillRecvBuffer host)).1.client ∧
      (∀ visited ∈ (receiveMachine codec verifyMessageChecksum).states host calls,
        visited.client.recvBufferUsed ≤ visited.client.recvBufferSize) ∧
      (∀ other : ClientHost, RecvBuffer other.client →
        processRound codec verifyMessageChecksum
          (processReceivedData codec verifyMessageChecksum other).1 = none) ∧
      (MagicFirst codec → ∀ garbage packet rest message,
        content host.client ++ host.incoming = garbage ++ packet ++ rest →
        WellFormedPacket codec verifyMessageChecksum packet message → NoMagic garbage packet →
        message ∈ ((receiveMachine codec verifyMessageChecksum).run host calls).2) := by
  obtain ⟨bytes, reads⟩ := receiveMachine_reads codec verifyMessageChecksum host ready calls
  have whole : bytes = host.incoming := by
    rw [reads.incoming, finished, List.append_nil]
  rw [whole] at reads
  have filled : content (fillRecvBuffer host).client = content host.client ++ host.incoming :=
    List.take_length
  obtain ⟨handed, left, -, -⟩ := processRounds_drain codec verifyMessageChecksum _ (fillRecvBuffer host)
    ⟨rfl, Nat.le_refl _⟩ (Nat.le_refl _)
  rw [filled] at handed left
  refine ⟨reads.handed.trans handed.symm, reads.content.trans left.symm, ?_,
    processReceivedData_stops codec verifyMessageChecksum, ?_⟩
  · have kept := (receiveMachine codec verifyMessageChecksum).states_always
      (Ready codec verifyMessageChecksum)
      (fun visited call ready =>
        (receiveMessageInternal_reads codec verifyMessageChecksum visited ready call).ready) host calls ready
    exact fun visited member => (kept visited member).valid.within
  · intro first garbage packet rest message stream wellFormed silent
    rw [reads.handed, stream,
      streamMessages_garbage codec verifyMessageChecksum first garbage packet message wellFormed rest silent]
    exact List.mem_cons_self

end Framing

section Sample

/-- The checksum of the codec is compared. -/
def verifyNetworkChecksum (header : MessageHeader) (body : List UInt8) : Bool :=
  networkCodec.calculateMessageChecksum body == header.checksum

theorem networkCodec_magicFirst : MagicFirst networkCodec := by
  intro bytes length
  have long : headerSize ≤ bytes.length := Nat.le_of_eq length.symm
  refine ⟨_, dif_pos long, ?_⟩
  show (UInt32.ofNat (bigEndianValue ((bytes.drop 0).take 4))).toNat = _
  have small := bigEndianValue_lt (bytes.take 4)
  have width : (bytes.take 4).length = 4 := by
    rw [List.length_take, length]
    decide
  rw [width] at small
  rw [List.drop_zero, UInt32.toNat_ofNat']
  exact Nat.mod_eq_of_lt small

/-- An empty notification. -/
def noticeHeader : MessageHeader :=
  { emptyHeader with
    magic := protocolMagic
    version := protocolVersion
    type := msgSystemNotification
    checksum := crc32 [] }

/-- A new client that is connected to a peer with the given stream. -/
def connectedTo (stream : List UInt8) : ClientHost :=
  (clientConnect (clientCreate 30000 5 fun _ => ⟨0, 0, 64, 0⟩) (.connected 3 stream true)).host

/-- A notification behind three bytes of garbage, which the socket cuts after ten bytes. -/
theorem receiveMessageInternal_framing_cut :
    let stream := [1, 2, 3] ++ writeNetworkHeader noticeHeader
    let calls := [⟨true, .bytes 9⟩, ⟨true, .bytes 100⟩]
    ((receiveMachine networkCodec verifyNetworkChecksum).run (connectedTo stream) calls).2 =
        (processReceivedData networkCodec verifyNetworkChecksum (fillRecvBuffer (connectedTo stream))).2 ∧
      ⟨noticeHeader, []⟩ ∈
        ((receiveMachine networkCodec verifyNetworkChecksum).run (connectedTo stream) calls).2 := by
  intro stream calls
  have framing := receiveMessageInternal_framing networkCodec verifyNetworkChecksum (connectedTo stream)
    (Ready.empty _ _ _ ⟨List.length_replicate, Nat.zero_le _⟩ rfl) calls (by decide +kernel)
  refine ⟨framing.1, framing.2.2.2.2 networkCodec_magicFirst [1, 2, 3] (writeNetworkHeader noticeHeader) []
    ⟨noticeHeader, []⟩ ?_ ?_ ?_⟩
  · decide +kernel
  · constructor <;> decide +kernel
  · unfold NoMagic
    decide +kernel

end Sample

end SecureChat.Client
