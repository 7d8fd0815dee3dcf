import SecureChat.Proof.Server.Framing

namespace SecureChat.Server
open Library Protocol

section Wire

theorem checkRateLimitReset_traffic (host : Host) :
    (checkRateLimitReset host).world.wire = host.world.wire ∧
      (checkRateLimitReset host).world.sent = host.world.sent := by
  unfold checkRateLimitReset
  dsimp only
  split <;> exact ⟨rfl, rfl⟩

/-- The rate limiter sends nothing. -/
theorem connectionCheckRateLimit_traffic (host : Host) (messageSize : Nat) :
    (connectionCheckRateLimit host messageSize).2.world.wire = host.world.wire ∧
      (connectionCheckRateLimit host messageSize).2.world.sent = host.world.sent := by
  have reset := checkRateLimitReset_traffic host
  unfold connectionCheckRateLimit
  dsimp only
  split
  · exact reset
  · split <;> exact reset

/-- The loop puts as many bytes on the wire as it reports. -/
theorem sendLoop_wire (fuel : Nat) (data : List UInt8) (world : World) (total : Nat)
    (sent : (sendLoop fuel data world).1 = some total) :
    total ≤ data.length ∧ (sendLoop fuel data world).2.wire = world.wire ++ data.take total := by
  induction fuel generalizing data world total with
  | zero =>
      cases sent
      simp [sendLoop]
  | succ fuel ih =>
      rw [sendLoop] at sent ⊢
      split at sent
      · rename_i empty
        cases sent
        simp [empty]
      · rename_i present
        rw [if_neg present]
        dsimp only at sent ⊢
        split at sent
        · rename_i more taken
          let count := min (more + 1) data.length
          let next : World := { world with
            socketWrites := world.socketWrites + 1
            wire := world.wire ++ data.take count }
          have size : count ≤ data.length := Nat.min_le_right _ _
          obtain ⟨rest, remaining, rfl⟩ := Option.map_eq_some_iff.mp sent
          obtain ⟨shorter, wire⟩ := ih (data.drop count) next rest remaining
          rw [List.length_drop] at shorter
          constructor
          · show rest + count ≤ data.length
            omega
          · show (sendLoop fuel (data.drop count) next).2.wire = _
            rw [wire, Nat.add_comm rest count, List.take_add, ← List.append_assoc]
        · cases sent
          simp
        · cases sent

/-- Both kinds of connection send with the same loop. -/
theorem sendLoop_either (conn : ClientConnection) (data : List UInt8) (world : World) :
    (if conn.ssl then sslSend conn data world else plainSend data world) =
      sendLoop data.length data world := by
  unfold sslSend plainSend
  split <;> rfl

/-- A call that reports the whole length has put the whole data on the wire. -/
theorem connectionSend_wire (host : Host) (data : List UInt8) (sent : (connectionSend host data).1 = data.length)
    (present : 0 < data.length) :
    (connectionSend host data).2.world.wire = host.world.wire ++ data := by
  obtain ⟨checked, -⟩ := connectionCheckRateLimit_traffic host data.length
  unfold connectionSend at sent ⊢
  split at sent
  · simp only at sent
    omega
  · rename_i usable
    rw [if_neg usable]
    dsimp only at sent ⊢
    split at sent
    · simp only at sent
      omega
    · rename_i allowed
      rw [if_neg allowed]
      rw [sendLoop_either] at sent ⊢
      cases reported : (sendLoop data.length data (connectionCheckRateLimit host data.length).2.world).1 with
      | none =>
          rw [reported] at sent
          simp only at sent
          omega
      | some total =>
          rw [reported] at sent
          obtain ⟨-, wire⟩ := sendLoop_wire _ _ _ _ reported
          rw [checked] at wire
          cases total with
          | zero =>
              simp only at sent
              omega
          | succ total =>
              dsimp only at sent ⊢
              have complete : total + 1 = data.length := by omega
              rw [complete, List.take_length] at wire
              exact (checkRateLimitReset_traffic _).1.trans wire

variable (codec : HeaderCodec)

/-- The bytes of one message. -/
def messageBytes (messageType : UInt32) (body : List UInt8) (timestamp messageId : UInt64) :
    List UInt8 :=
  codec.serializeMessageHeader (outgoingHeader codec messageType body timestamp messageId) ++ body

/-- A successful call puts one message on the wire, and its body is within the limit. -/
theorem connectionSendMessage_wire (host : Host) (messageType : UInt32) (body : List UInt8)
    (sent : (connectionSendMessage codec host messageType body).1 = 0) :
    body.length ≤ maxMessageSize ∧ ∃ timestamp messageId,
      (connectionSendMessage codec host messageType body).2.world.wire =
        host.world.wire ++ messageBytes codec messageType body timestamp messageId := by
  unfold connectionSendMessage at sent ⊢
  split at sent
  · cases sent
  · rename_i fits
    rw [if_neg fits]
    refine ⟨by omega, (getCurrentTimestampMs host.world).1, (host.conn.messagesSent + 1).toUInt64, ?_⟩
    have measured := codec.serialize_length (outgoingHeader codec messageType body
      (getCurrentTimestampMs host.world).1 (host.conn.messagesSent + 1).toUInt64)
    unfold messageBytes
    dsimp only at sent ⊢
    generalize codec.serializeMessageHeader (outgoingHeader codec messageType body
      (getCurrentTimestampMs host.world).1 (host.conn.messagesSent + 1).toUInt64) = header
      at sent measured ⊢
    generalize started : Host.mk { host.conn with messagesSent := host.conn.messagesSent + 1 }
      (getCurrentTimestampMs host.world).2 = start at sent ⊢
    have initial : start.world.wire = host.world.wire := by
      rw [← started]
      rfl
    split at sent
    · cases sent
    · rename_i complete
      rw [not_not] at complete
      have first := connectionSend_wire start header (by rw [measured]; exact complete)
        (by rw [measured]; decide)
      rw [if_neg (not_not.mpr complete)]
      split at sent
      · rename_i present
        rw [if_pos present]
        split at sent
        · cases sent
        · rename_i whole
          rw [not_not] at whole
          rw [if_neg (not_not.mpr whole)]
          have second := connectionSend_wire (connectionSend start header).2 body whole present
          show (connectionSend (connectionSend start header).2 body).2.world.wire = _
          rw [second, first, initial, List.append_assoc]
      · rename_i absent
        have empty : body = [] := List.eq_nil_of_length_eq_zero (by omega)
        rw [if_neg absent]
        show (connectionSend start header).2.world.wire = _
        rw [first, initial, empty, List.append_nil]

/-- The bytes are the messages one behind the other. -/
inductive Encodes : List (UInt32 × List UInt8) → List UInt8 → Prop where
  | nil : Encodes [] []
  | cons {messageType : UInt32} {body : List UInt8} {messages : List (UInt32 × List UInt8)}
      {rest : List UInt8} (timestamp messageId : UInt64) (fits : body.length ≤ maxMessageSize)
      (later : Encodes messages rest) :
      Encodes ((messageType, body) :: messages)
        (messageBytes codec messageType body timestamp messageId ++ rest)

/-- A connection that sends one message after another and reports each result. -/
def sendMachine : Machine Host (UInt32 × List UInt8) Int where
  step host message :=
    ((connectionSendMessage codec host message.1 message.2).2,
      [(connectionSendMessage codec host message.1 message.2).1])

/-- Successful calls put the messages on the wire one behind the other. -/
theorem sendMachine_encodes (host : Host) (messages : List (UInt32 × List UInt8))
    (successful : ∀ result ∈ ((sendMachine codec).run host messages).2, result = 0) :
    ∃ bytes, ((sendMachine codec).run host messages).1.world.wire = host.world.wire ++ bytes ∧
      Encodes codec messages bytes := by
  induction messages generalizing host with
  | nil => exact ⟨[], by simp, .nil⟩
  | cons message messages ih =>
      rw [Machine.run_cons, List.forall_mem_append] at successful
      obtain ⟨fits, timestamp, messageId, wire⟩ := connectionSendMessage_wire codec host message.1
        message.2 (successful.1 _ List.mem_cons_self)
      obtain ⟨bytes, later, encoded⟩ := ih _ successful.2
      refine ⟨messageBytes codec message.1 message.2 timestamp messageId ++ bytes, ?_,
        .cons timestamp messageId fits encoded⟩
      rw [Machine.run_cons, later]
      show (connectionSendMessage codec host message.1 message.2).2.world.wire ++ bytes = _
      rw [wire, List.append_assoc]

theorem outgoingHeader_bodyLength (messageType : UInt32) (body : List UInt8)
    (timestamp messageId : UInt64) (fits : body.length ≤ maxMessageSize) :
    (outgoingHeader codec messageType body timestamp messageId).bodyLength.toNat = body.length := by
  simp only [maxMessageSize] at fits
  simp only [outgoingHeader, UInt32.toNat_ofNat']
  omega

/-- The decoder reads back a message that was written, with all that follows left over. -/
theorem nextMessage_messageBytes (inverts : codec.Inverts) (messageType : UInt32) (body : List UInt8)
    (timestamp messageId : UInt64) (rest : List UInt8) (fits : body.length ≤ maxMessageSize) :
    nextMessage codec (messageBytes codec messageType body timestamp messageId ++ rest) =
      some (⟨outgoingHeader codec messageType body timestamp messageId, body⟩,
        headerSize + body.length) := by
  have measured := codec.serialize_length (outgoingHeader codec messageType body timestamp messageId)
  have length := outgoingHeader_bodyLength codec messageType body timestamp messageId fits
  apply (nextMessage_some codec _ _ _).mpr
  unfold messageBytes
  rw [List.append_assoc]
  constructor
  · rw [List.take_left' measured]
    exact inverts _
  · rw [length]
  · simp only [List.length_append, measured]
    omega
  · rw [List.drop_left' measured, length, List.take_left]

end Wire

section Receiving

variable (codec : HeaderCodec)

/-- The tests that `connection_receive_message` makes on a complete message. -/
def WellFormed (message : HandedMessage) : Prop :=
  message.header.magic = protocolMagic ∧ (0 < message.header.bodyLength →
    codec.calculateMessageChecksum message.body = message.header.checksum)

instance (message : HandedMessage) : Decidable (WellFormed codec message) :=
  inferInstanceAs (Decidable (_ ∧ (_ → _)))

/-- What the caller gets of a message. -/
def receivedMessage (message : HandedMessage) : ReceivedMessage :=
  ⟨message.header.type, message.body, message.header.bodyLength.toNat⟩

/-- What receiving can do.
It leaves everything as it is, or it takes a well-formed message from the front of the buffer. -/
theorem connectionReceiveMessage_cases (conn : ClientConnection) (mallocOk : Bool)
    (out : ReceivedMessage) :
    (∃ result, result ≤ 0 ∧ connectionReceiveMessage codec conn mallocOk out = (result, conn, out)) ∨
    ∃ header, ¬ conn.recvBufferUsed < headerSize ∧ parseMessageHeader codec conn = some header ∧
      ¬ conn.recvBufferUsed < headerSize + header.bodyLength.toNat ∧
      WellFormed codec ⟨header, frontBody conn header⟩ ∧
      connectionReceiveMessage codec conn mallocOk out =
        (1, { removeMessage conn (headerSize + header.bodyLength.toNat) with
          messagesReceived := conn.messagesReceived + 1 },
          receivedMessage ⟨header, frontBody conn header⟩) := by
  unfold connectionReceiveMessage
  split
  · exact .inl ⟨0, by decide, rfl⟩
  · rename_i long
    cases parsed : parseMessageHeader codec conn with
    | none => exact .inl ⟨-2, by decide, rfl⟩
    | some header =>
        dsimp only
        split
        · exact .inl ⟨-3, by decide, rfl⟩
        · rename_i magic
          split
          · exact .inl ⟨0, by decide, rfl⟩
          · rename_i complete
            split
            · exact .inl ⟨-4, by decide, rfl⟩
            · split
              · exact .inl ⟨-5, by decide, rfl⟩
              · rename_i checked
                rw [not_and, not_not] at checked
                exact .inr ⟨header, long, rfl, complete, ⟨not_not.mp magic, checked⟩, rfl⟩

/-- A call without a message leaves the buffer and the output parameters as they are. -/
theorem connectionReceiveMessage_unchanged (conn : ClientConnection) (mallocOk : Bool)
    (out : ReceivedMessage) (failed : (connectionReceiveMessage codec conn mallocOk out).1 ≤ 0) :
    (connectionReceiveMessage codec conn mallocOk out).2 = (conn, out) := by
  rcases connectionReceiveMessage_cases codec conn mallocOk out with
    ⟨result, -, same⟩ | ⟨header, -, -, -, -, taken⟩
  · rw [same]
  · rw [taken] at failed
    dsimp only at failed
    exact absurd failed (by decide)

/-- A received message is the next one of the content, and its bytes are gone. -/
theorem connectionReceiveMessage_taken (conn : ClientConnection) (valid : RecvBuffer conn)
    (mallocOk : Bool) (out : ReceivedMessage) :
    (∃ result, result ≤ 0 ∧ connectionReceiveMessage codec conn mallocOk out = (result, conn, out)) ∨
    ∃ message size next, nextMessage codec (content conn) = some (message, size) ∧
      WellFormed codec message ∧
      connectionReceiveMessage codec conn mallocOk out = (1, next, receivedMessage message) ∧
      RecvBuffer next ∧ content next = (content conn).drop size := by
  rcases connectionReceiveMessage_cases codec conn mallocOk out with
    same | ⟨header, long, parsed, complete, wellFormed, taken⟩
  · exact .inl same
  · have read := nextMessage_content codec conn valid
    rw [if_neg long, parsed] at read
    dsimp only at read
    rw [if_neg complete] at read
    obtain ⟨kept, shorter⟩ := removeMessage_content conn valid (headerSize + header.bodyLength.toNat)
      (by omega)
    exact .inr ⟨_, _, _, read, wellFormed, taken, ⟨kept.capacity, kept.within⟩, shorter⟩

/-- A well-formed message at the front of the buffer is received when `malloc` succeeds. -/
theorem connectionReceiveMessage_next (conn : ClientConnection) (valid : RecvBuffer conn)
    (out : ReceivedMessage) (message : HandedMessage) (size : Nat)
    (read : nextMessage codec (content conn) = some (message, size))
    (wellFormed : WellFormed codec message) :
    (connectionReceiveMessage codec conn true out).1 = 1 := by
  rw [nextMessage_content codec conn valid] at read
  unfold connectionReceiveMessage
  split at read
  · cases read
  · rename_i long
    rw [if_neg long]
    cases parsed : parseMessageHeader codec conn with
    | none =>
        rw [parsed] at read
        cases read
    | some header =>
        rw [parsed] at read
        dsimp only at read ⊢
        split at read
        · cases read
        · rename_i complete
          cases read
          rw [if_neg (not_not.mpr wellFormed.1), if_neg complete, if_neg (by decide), if_neg]
          rintro ⟨present, wrong⟩
          exact wrong (wellFormed.2 present)

/-- Every message that is sent passes the tests of the receiver. -/
theorem wellFormed_outgoing (messageType : UInt32) (body : List UInt8) (timestamp messageId : UInt64)
    (fits : body.length ≤ maxMessageSize) :
    WellFormed codec ⟨outgoingHeader codec messageType body timestamp messageId, body⟩ := by
  apply And.intro rfl
  intro present
  have length := outgoingHeader_bodyLength codec messageType body timestamp messageId fits
  have positive : 0 < body.length := by
    rw [← length]
    exact UInt32.lt_iff_toNat_lt.mp present
  exact (if_pos positive).symm

/-- What the receiver should see of a message that was sent. -/
def expectedMessage (message : UInt32 × List UInt8) : ReceivedMessage :=
  ⟨message.1, message.2, message.2.length⟩

variable {codec}

/-- The next message of an encoded stream is the first one of the list. -/
theorem Encodes.next (inverts : codec.Inverts) {messages : List (UInt32 × List UInt8)}
    {stream : List UInt8} (encoded : Encodes codec messages stream) (message : HandedMessage)
    (size : Nat) (read : nextMessage codec stream = some (message, size)) :
    ∃ first rest, messages = first :: rest ∧ receivedMessage message = expectedMessage first ∧
      Encodes codec rest (stream.drop size) := by
  cases encoded with
  | nil => cases read
  | @cons messageType body messages rest timestamp messageId fits later =>
      have length := outgoingHeader_bodyLength codec messageType body timestamp messageId fits
      have measured : (messageBytes codec messageType body timestamp messageId).length =
          headerSize + body.length := by
        rw [messageBytes, List.length_append, codec.serialize_length]
      rw [nextMessage_messageBytes codec inverts messageType body timestamp messageId rest fits] at read
      cases read
      refine ⟨(messageType, body), messages, rfl, ?_, ?_⟩
      · rw [receivedMessage, length]
        rfl
      · rw [List.drop_left' measured]
        exact later

/-- An encoded stream that is not empty starts with a well-formed message. -/
theorem Encodes.present (inverts : codec.Inverts) {first : UInt32 × List UInt8}
    {messages : List (UInt32 × List UInt8)} {stream : List UInt8}
    (encoded : Encodes codec (first :: messages) stream) :
    ∃ message size, nextMessage codec stream = some (message, size) ∧ WellFormed codec message := by
  cases encoded with
  | @cons messageType body messages rest timestamp messageId fits later =>
      exact ⟨_, _, nextMessage_messageBytes codec inverts messageType body timestamp messageId rest fits,
        wellFormed_outgoing codec messageType body timestamp messageId fits⟩

end Receiving

/-- The receiver gets more bytes, or asks for a message. -/
inductive ReceiverOperation where
  | append (data : List UInt8)
  | receive
  deriving DecidableEq, Repr

/-- The bytes that the operations append, in their order. -/
def appendedBytes (operations : List ReceiverOperation) : List UInt8 :=
  operations.flatMap fun
    | .append data => data
    | .receive => []

/-- The output parameters before a call. -/
def noMessage : ReceivedMessage := ⟨0, [], 0⟩

/-- A receiver whose allocations succeed. -/
def receiverMachine (codec : HeaderCodec) :
    Machine ClientConnection ReceiverOperation (Int × ReceivedMessage) where
  step conn operation :=
    match operation with
    | .append data => ((appendRecvBuffer conn data true).getD conn, [])
    | .receive =>
        let (result, next, out) := connectionReceiveMessage codec conn true noMessage
        (next, [(result, out)])

/-- The messages of the calls that returned one. -/
def receivedMessages (results : List (Int × ReceivedMessage)) : List ReceivedMessage :=
  results.filterMap fun result => if result.1 = 1 then some result.2 else none

section RoundTrip

variable (codec : HeaderCodec) (inverts : codec.Inverts)

/-- A call that finds no message adds nothing. -/
theorem receivedMessages_failed (result : Int) (out : ReceivedMessage)
    (later : List (Int × ReceivedMessage)) (failed : result ≤ 0) :
    receivedMessages ([(result, out)] ++ later) = receivedMessages later := by
  have other : result ≠ 1 := by omega
  simp [receivedMessages, other]

theorem receivedMessages_taken (out : ReceivedMessage) (later : List (Int × ReceivedMessage)) :
    receivedMessages ([(1, out)] ++ later) = out :: receivedMessages later := rfl

theorem receiverMachine_receive (conn : ClientConnection) :
    (receiverMachine codec).step conn .receive =
      ((connectionReceiveMessage codec conn true noMessage).2.1,
        [((connectionReceiveMessage codec conn true noMessage).1,
          (connectionReceiveMessage codec conn true noMessage).2.2)]) := rfl

include inverts

/-- At any time the receiver has got the first messages, and the rest is still on its way. -/
theorem receiverMachine_progress (conn : ClientConnection) (valid : RecvBuffer conn)
    (operations : List ReceiverOperation) (messages : List (UInt32 × List UInt8))
    (encoded : Encodes codec messages (content conn ++ appendedBytes operations)) :
    RecvBuffer ((receiverMachine codec).run conn operations).1 ∧
      ∃ count, receivedMessages ((receiverMachine codec).run conn operations).2 =
        (messages.take count).map expectedMessage ∧
        Encodes codec (messages.drop count)
          (content ((receiverMachine codec).run conn operations).1) := by
  induction operations generalizing conn messages with
  | nil => exact ⟨valid, 0, rfl, by simpa [appendedBytes] using encoded⟩
  | cons operation rest ih =>
      rw [Machine.run_cons]
      cases operation with
      | append data =>
          rcases appendRecvBuffer_content conn valid data true with
            ⟨-, memory⟩ | ⟨next, appended, nextValid, joined⟩
          · cases memory
          · dsimp only [receiverMachine]
            rw [appended]
            apply ih next nextValid messages
            rw [joined, List.append_assoc]
            exact encoded
      | receive =>
          rw [receiverMachine_receive]
          rcases connectionReceiveMessage_taken codec conn valid true noMessage with
            ⟨result, failed, same⟩ | ⟨message, size, next, read, -, taken, nextValid, shorter⟩
          · rw [same]
            obtain ⟨kept, count, received, left⟩ := ih conn valid messages encoded
            refine ⟨kept, count, ?_, left⟩
            rw [receivedMessages_failed result noMessage _ failed]
            exact received
          · have within := ((nextMessage_some codec _ _ _).mp read).within
            obtain ⟨first, later, rfl, expected, remaining⟩ := encoded.next inverts message size
              ((messageStream codec).stable _ _ _ _ read)
            rw [List.drop_append_of_le_length within, ← shorter] at remaining
            obtain ⟨kept, count, received, left⟩ := ih next nextValid later remaining
            rw [taken]
            refine ⟨kept, count + 1, ?_, left⟩
            rw [receivedMessages_taken, List.take_succ_cons, List.map_cons, expected, received]

/-- Enough calls empty the buffer and return all that it holds. -/
theorem receiverMachine_drains (conn : ClientConnection) (valid : RecvBuffer conn)
    (messages : List (UInt32 × List UInt8)) (encoded : Encodes codec messages (content conn))
    (calls : Nat) (enough : messages.length ≤ calls) :
    RecvBuffer ((receiverMachine codec).run conn (List.replicate calls .receive)).1 ∧
      receivedMessages ((receiverMachine codec).run conn (List.replicate calls .receive)).2 =
        messages.map expectedMessage ∧
      content ((receiverMachine codec).run conn (List.replicate calls .receive)).1 = [] := by
  induction calls generalizing conn messages with
  | zero =>
      obtain rfl : messages = [] := List.eq_nil_of_length_eq_zero (by omega)
      cases empty : content conn with
      | nil => exact ⟨valid, rfl, empty⟩
      | cons byte rest =>
          rw [empty] at encoded
          cases encoded
  | succ calls ih =>
      rw [List.replicate_succ, Machine.run_cons]
      rw [receiverMachine_receive]
      rcases connectionReceiveMessage_taken codec conn valid true noMessage with
        ⟨result, failed, same⟩ | ⟨message, size, next, read, -, taken, nextValid, shorter⟩
      · cases messages with
        | cons first later =>
            obtain ⟨message, size, read, wellFormed⟩ := encoded.present inverts
            have success := connectionReceiveMessage_next codec conn valid noMessage message size read
              wellFormed
            rw [same] at success
            dsimp only at success
            omega
        | nil =>
            rw [same]
            obtain ⟨kept, received, empty⟩ := ih conn valid [] encoded (Nat.zero_le _)
            refine ⟨kept, ?_, empty⟩
            rw [receivedMessages_failed result noMessage _ failed]
            exact received
      · obtain ⟨first, later, rfl, expected, remaining⟩ := encoded.next inverts message size read
        rw [← shorter] at remaining
        obtain ⟨kept, received, empty⟩ := ih next nextValid later remaining (by simpa using enough)
        rw [taken]
        refine ⟨kept, ?_, empty⟩
        rw [receivedMessages_taken, List.map_cons, expected, received]

/-- All messages that were sent arrive once and in order, whatever the cuts of the stream are.
Then the buffer is empty, and no call without a message ever changes anything. -/
theorem connectionReceiveMessage_roundTrip (sender : Host) (messages : List (UInt32 × List UInt8))
    (receiver : ClientConnection) (operations : List ReceiverOperation) (calls : Nat)
    (successful : ∀ result ∈ ((sendMachine codec).run sender messages).2, result = 0)
    (valid : RecvBuffer receiver) (unused : receiver.recvBufferUsed = 0)
    (carried : ((sendMachine codec).run sender messages).1.world.wire =
      sender.world.wire ++ appendedBytes operations)
    (enough : messages.length ≤ calls) :
    receivedMessages ((receiverMachine codec).run receiver
        (operations ++ List.replicate calls .receive)).2 = messages.map expectedMessage ∧
      ((receiverMachine codec).run receiver
        (operations ++ List.replicate calls .receive)).1.recvBufferUsed = 0 ∧
      (∀ out, (connectionReceiveMessage codec ((receiverMachine codec).run receiver
        (operations ++ List.replicate calls .receive)).1 true out).1 = 0) ∧
      ∀ conn mallocOk out, (connectionReceiveMessage codec conn mallocOk out).1 ≤ 0 →
        (connectionReceiveMessage codec conn mallocOk out).2 = (conn, out) := by
  obtain ⟨bytes, wire, encoded⟩ := sendMachine_encodes codec sender messages successful
  rw [wire, List.append_cancel_left_eq] at carried
  have start : content receiver = [] := by
    rw [content, unused, List.take_zero]
  obtain ⟨kept, count, received, left⟩ := receiverMachine_progress codec inverts receiver valid
    operations messages (by rw [start, List.nil_append, ← carried]; exact encoded)
  obtain ⟨finalValid, drained, empty⟩ := receiverMachine_drains codec inverts _ kept _ left calls
    (by rw [List.length_drop]; omega)
  rw [Machine.run_append]
  have used : ((receiverMachine codec).run ((receiverMachine codec).run receiver operations).1
      (List.replicate calls .receive)).1.recvBufferUsed = 0 := by
    rw [← content_length _ finalValid, empty]
    rfl
  refine ⟨?_, used, ?_, connectionReceiveMessage_unchanged codec⟩
  · have joined : ∀ first second, receivedMessages (first ++ second) =
        receivedMessages first ++ receivedMessages second := fun _ _ => List.filterMap_append
    rw [joined, received, drained, ← List.map_append, List.take_append_drop]
  · intro out
    unfold connectionReceiveMessage
    rw [if_pos (by rw [used]; decide)]

end RoundTrip

/-- A written field is gone once the reader is behind it. -/
theorem drop_bigEndian (width value offset : Nat) (behind : width ≤ offset) (rest : List UInt8) :
    (bigEndian width value ++ rest).drop offset = rest.drop (offset - width) := by
  rw [List.drop_append, bigEndian_length, List.drop_eq_nil_of_le (by simpa using behind),
    List.nil_append]

/-- The network codec reads back every header. -/
theorem networkCodec_inverts : networkCodec.Inverts := by
  intro header
  show readNetworkHeader (writeNetworkHeader header) = some header
  have narrow (value : UInt32) : value.toNat < 256 ^ 4 := value.toNat_lt
  have wide (value : UInt64) : value.toNat < 256 ^ 8 := value.toNat_lt
  have reserved : header.reserved.val.take 16 = header.reserved.val := by
    apply List.take_of_length_le
    exact Nat.le_of_eq header.reserved.property
  unfold readNetworkHeader
  rw [dif_pos (Nat.le_of_eq (writeNetworkHeader_length header).symm)]
  simp [readField, writeNetworkHeader, drop_bigEndian, bigEndianValue_bigEndian _ _ (narrow _),
    bigEndianValue_bigEndian _ _ (wide _), reserved]

/-- A chat text and an empty heartbeat. -/
def sampleMessages : List (UInt32 × List UInt8) :=
  [(msgChatTextSend, [0x68, 0x69]), (msgSystemHeartbeat, [])]

/-- The bytes of the two messages, cut inside the second header. -/
def sampleOperations : List ReceiverOperation :=
  let wire := ((sendMachine networkCodec).run sampleHost sampleMessages).1.world.wire
  [.append (wire.take 70), .receive, .append (wire.drop 70)]

theorem connectionReceiveMessage_roundTrip_two :
    receivedMessages ((receiverMachine networkCodec).run (connectionCreate 5 false 0)
        (sampleOperations ++ List.replicate 2 .receive)).2 = sampleMessages.map expectedMessage := by
  have carried : ((sendMachine networkCodec).run sampleHost sampleMessages).1.world.wire =
      sampleHost.world.wire ++ appendedBytes sampleOperations := by
    show _ = [] ++ _
    simp [appendedBytes, sampleOperations]
  exact (connectionReceiveMessage_roundTrip networkCodec networkCodec_inverts sampleHost sampleMessages
    (connectionCreate 5 false 0) sampleOperations 2 (by decide +kernel)
    (connectionCreate_valid 5 false 0) rfl carried (by decide)).1

end SecureChat.Server
