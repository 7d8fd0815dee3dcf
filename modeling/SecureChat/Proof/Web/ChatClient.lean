import SecureChat.Construction.Server.Connection
import SecureChat.Construction.Web.ChatClient
import SecureChat.Proof.Web.Header

namespace SecureChat.Web
open Library Library.JsNumber Utils

/-- The CRC-32 of the four checksum bytes and all that follows them goes back to those bytes. -/
theorem tableChecksum_field (front first second back : List UInt8) (four : first.length = 4)
    (same : second.length = 4) :
    Crc.tableChecksum crc32Polynomial (front ++ first ++ back) =
      Crc.tableChecksum crc32Polynomial (front ++ second ++ back) ↔ first = second := by
  rw [Crc.tableChecksum_eq crc32Polynomial (by decide), Crc.tableChecksum_eq crc32Polynomial (by decide),
    BitVec.not_inj, List.append_assoc, List.append_assoc, Crc.update_append _ _ front, Crc.update_append _ _ front]
  exact Crc.update_inj crc32Polynomial (by decide) _ first second back (four.trans same.symm) (by omega)

/-- A signed number is the unsigned number of other bits only when the bits are the same. -/
theorem toInt_eq_toNat_of (first second : BitVec 32) (same : first.toInt = second.toNat) : first = second := by
  have residue := toInt_emod first
  have small := second.isLt
  have equal : first.toNat = second.toNat := by omega
  exact BitVec.eq_of_toNat_eq equal

section Headers

variable (type flags correlationId messageId timestamp checksum : Int)

/-- The header of a message without a body. -/
def bareHeader : MessageHeader where
  magic := 0x53435400
  version := bitOr (bitOr (shiftLeft 3 16) (shiftLeft 0 8)) 0
  type := type
  flags := flags
  timestamp := timestamp
  messageId := messageId
  correlationId := correlationId
  bodyLength := 0
  checksum := checksum

/-- The eight fields in front of the checksum. -/
def bareFront : List UInt8 :=
  ((ProtocolCodec.headerFields (bareHeader type flags correlationId messageId timestamp 0)).take 8).flatten

theorem headerBytes_bareHeader :
    ProtocolCodec.headerBytes (bareHeader type flags correlationId messageId timestamp checksum) =
      bareFront type flags correlationId messageId timestamp ++ uintBytes 4 checksum ++
        List.replicate 16 0 := by
  simp only [ProtocolCodec.headerBytes, ProtocolCodec.headerFields, bareFront, bareHeader,
    List.take_succ_cons, List.take_zero, List.flatten_cons, List.flatten_nil, List.append_assoc,
    List.append_nil]

/-- A header with the checksum of the header without one has the same checksum only when that is zero. -/
theorem calculateChecksum_self_iff :
    ProtocolCodec.calculateChecksum (ProtocolCodec.headerBytes (bareHeader type flags correlationId messageId
        timestamp (ProtocolCodec.calculateChecksum (ProtocolCodec.headerBytes
          (bareHeader type flags correlationId messageId timestamp 0))))) =
      ProtocolCodec.calculateChecksum (ProtocolCodec.headerBytes
        (bareHeader type flags correlationId messageId timestamp 0)) % 2 ^ 32 ↔
    Crc.tableChecksum crc32Polynomial (ProtocolCodec.headerBytes
      (bareHeader type flags correlationId messageId timestamp 0)) = 0#32 := by
  rw [calculateChecksum_eq, calculateChecksum_eq, toInt_emod]
  constructor
  · intro same
    have equal := toInt_eq_toNat_of _ _ same
    rw [headerBytes_bareHeader, headerBytes_bareHeader type flags correlationId messageId timestamp 0,
      tableChecksum_field _ _ _ _ (uintBytes_length _ _) (uintBytes_length _ _)] at equal
    have value := congrArg (fun bytes => (bigEndianValue bytes : Int)) equal
    rw [bigEndianValue_uintBytes_mod, bigEndianValue_uintBytes_mod] at value
    have wrapped : (256 : Int) ^ 4 = 2 ^ 32 := by decide
    rw [wrapped, toInt_emod] at value
    apply BitVec.eq_of_toNat_eq
    rw [headerBytes_bareHeader]
    exact Int.natCast_inj.mp value
  · intro none
    have start : (Crc.tableChecksum crc32Polynomial (ProtocolCodec.headerBytes
        (bareHeader type flags correlationId messageId timestamp 0))).toInt = 0 := by
      rw [none]
      rfl
    rw [start, none]
    rfl

end Headers

section Messages

variable {Number Text : Type} (platform : Platform Number Text)
  (type flags correlationId messageId timestamp : Int)

/-- With a body the checksum is asked for a typed array, and nothing is sent. -/
theorem sendMessage_truthy (data : JsonValue Number Text) (some : ChatClient.truthy platform data = true) :
    ChatClient.sendMessage platform type flags correlationId data messageId timestamp = none := by
  rw [ChatClient.sendMessage, if_pos some]
  dsimp only
  rw [ProtocolCodec.serializeHeader_eq]
  rfl

/-- Without a body the header is sent alone. -/
theorem sendMessage_falsy (data : JsonValue Number Text) (empty : ChatClient.truthy platform data = false) :
    ChatClient.sendMessage platform type flags correlationId data messageId timestamp =
      some (ProtocolCodec.headerBytes (bareHeader type flags correlationId messageId timestamp
        (ProtocolCodec.calculateChecksum (ProtocolCodec.headerBytes
          (bareHeader type flags correlationId messageId timestamp 0))))) := by
  have unset : ¬ ChatClient.truthy platform data = true := by
    rw [empty]
    decide
  have chain : ChatClient.sendMessage platform type flags correlationId data messageId timestamp =
      (ProtocolCodec.serializeHeader (bareHeader type flags correlationId messageId timestamp 0)).bind
        fun headerBuffer => (checksumOf (.arrayBuffer headerBuffer)).bind
          fun checksum => ProtocolCodec.serializeHeader
            (bareHeader type flags correlationId messageId timestamp checksum) := by
    rw [ChatClient.sendMessage, if_neg unset]
    rfl
  rw [chain, ProtocolCodec.serializeHeader_eq, Option.bind_some, checksumOf, Option.bind_some,
    ProtocolCodec.serializeHeader_eq]

/-- A header without a body is dispatched with the value null when its checksum fits. -/
theorem handleBinaryMessage_bareHeader (checksum : Int) :
    ChatClient.handleBinaryMessage platform
        (ProtocolCodec.headerBytes (bareHeader type flags correlationId messageId timestamp checksum)) =
      if ProtocolCodec.calculateChecksum (ProtocolCodec.headerBytes
          (bareHeader type flags correlationId messageId timestamp checksum)) ≠ checksum % 2 ^ 32 then .refused
      else .dispatched (ProtocolCodec.wrapped
        (bareHeader type flags correlationId messageId timestamp checksum)) .null := by
  have whole := sliceBytes_whole (ProtocolCodec.headerBytes
    (bareHeader type flags correlationId messageId timestamp checksum))
  rw [ProtocolCodec.headerBytes_length] at whole
  have read := ProtocolCodec.deserializeHeader_headerBytes
    (bareHeader type flags correlationId messageId timestamp checksum) []
  rw [List.append_nil] at read
  have valid : ProtocolCodec.validateHeader (ProtocolCodec.wrapped
      (bareHeader type flags correlationId messageId timestamp checksum)) = true := rfl
  rw [ChatClient.handleBinaryMessage, whole, read]
  dsimp only
  rw [valid, if_neg (not_not_intro rfl), checksumOf]
  have refused_iff : some (ProtocolCodec.calculateChecksum (ProtocolCodec.headerBytes
      (bareHeader type flags correlationId messageId timestamp checksum))) ≠
        some (ProtocolCodec.wrapped
          (bareHeader type flags correlationId messageId timestamp checksum)).checksum ↔
      ProtocolCodec.calculateChecksum (ProtocolCodec.headerBytes
        (bareHeader type flags correlationId messageId timestamp checksum)) ≠ checksum % 2 ^ 32 := by
    rw [ne_eq, Option.some_inj]
    rfl
  by_cases refused : some (ProtocolCodec.calculateChecksum (ProtocolCodec.headerBytes
      (bareHeader type flags correlationId messageId timestamp checksum))) ≠
        some (ProtocolCodec.wrapped
          (bareHeader type flags correlationId messageId timestamp checksum)).checksum
  · rw [if_pos refused, if_pos (refused_iff.mp refused)]
  · rw [if_neg refused, if_neg fun other => refused (refused_iff.mpr other)]
    rfl

end Messages

/-- The connection of a server that has received exactly these bytes. -/
def receivedBy (bytes : List UInt8) : Server.ClientConnection :=
  { Server.connectionCreate 0 false 0 with
    recvBuffer := bytes
    recvBufferUsed := bytes.length }

/-- The bytes are sent, a peer dispatches them with the same value,
and the server takes them with its checksum of the body alone. -/
structure Understood {Number Text : Type} (platform : Platform Number Text)
    (type flags correlationId : Int) (data : JsonValue Number Text) (messageId timestamp : Int)
    (bytes : List UInt8) : Prop where
  sent : ChatClient.sendMessage platform type flags correlationId data messageId timestamp = some bytes
  dispatched : ∃ header, ChatClient.handleBinaryMessage platform bytes = .dispatched header data
  server : (Server.connectionReceiveMessage Protocol.networkCodec (receivedBy bytes) true ⟨0, [], 0⟩).1 = 1

/-- The server does not look at the checksum of a message without a body. -/
theorem connectionReceiveMessage_bareHeader (type flags correlationId messageId timestamp checksum : Int) :
    (Server.connectionReceiveMessage Protocol.networkCodec (receivedBy (ProtocolCodec.headerBytes
      (bareHeader type flags correlationId messageId timestamp checksum))) true ⟨0, [], 0⟩).1 = 1 := by
  have size := ProtocolCodec.headerBytes_length
    (bareHeader type flags correlationId messageId timestamp checksum)
  have field := ProtocolCodec.readField_headerBytes
    (bareHeader type flags correlationId messageId timestamp checksum)
  have magic := field 0 4 0 0x53435400 rfl rfl
  have bodyLength := field 7 4 40 0 rfl rfl
  generalize ProtocolCodec.headerBytes (bareHeader type flags correlationId messageId timestamp checksum) =
    bytes at size magic bodyLength
  have whole : (receivedBy bytes).recvBuffer.take Protocol.headerSize = bytes := List.take_of_length_le (by
    rw [Protocol.headerSize]
    exact Nat.le_of_eq size)
  have long : Protocol.headerSize ≤ bytes.length := Nat.le_of_eq size.symm
  have enough : ¬ (receivedBy bytes).recvBufferUsed < Protocol.headerSize := Nat.not_lt.mpr long
  have magicValue : Protocol.readField bytes 0 4 = 0x53435400 :=
    Int.natCast_inj.mp (magic.trans (by decide))
  have lengthValue : Protocol.readField bytes 40 4 = 0 := Int.natCast_inj.mp (bodyLength.trans (by decide))
  obtain ⟨header, parsed, valid, empty⟩ : ∃ header,
      Server.parseMessageHeader Protocol.networkCodec (receivedBy bytes) = some header ∧
        header.magic = Protocol.protocolMagic ∧ header.bodyLength = 0 := by
    rw [Server.parseMessageHeader, whole]
    show ∃ header, Protocol.readNetworkHeader bytes = some header ∧ _
    rw [Protocol.readNetworkHeader, dif_pos long]
    refine ⟨_, rfl, ?_, ?_⟩
    · show UInt32.ofNat (Protocol.readField bytes 0 4) = _
      rw [magicValue]
      rfl
    · show UInt32.ofNat (Protocol.readField bytes 40 4) = _
      rw [lengthValue]
      rfl
  rw [Server.connectionReceiveMessage, if_neg enough, parsed]
  simp [valid, empty, enough]

/-- A message is understood exactly when its value is null
and the CRC-32 of its header is zero without the checksum. -/
theorem sendMessage_understood_iff {Number Text : Type} (platform : Platform Number Text)
    (type flags correlationId : Int) (data : JsonValue Number Text) (messageId timestamp : Int) :
    (∃ bytes, Understood platform type flags correlationId data messageId timestamp bytes) ↔
      data = .null ∧ Crc.tableChecksum crc32Polynomial (ProtocolCodec.headerBytes
        (bareHeader type flags correlationId messageId timestamp 0)) = 0#32 := by
  rw [← calculateChecksum_self_iff]
  constructor
  · rintro ⟨bytes, sent, ⟨header, handled⟩, -⟩
    cases value : ChatClient.truthy platform data with
    | true =>
        rw [sendMessage_truthy platform _ _ _ _ _ data value] at sent
        cases sent
    | false =>
        rw [sendMessage_falsy platform _ _ _ _ _ data value] at sent
        obtain rfl := Option.some.inj sent
        rw [handleBinaryMessage_bareHeader] at handled
        split at handled
        · cases handled
        · rename_i same
          obtain ⟨-, rfl⟩ := Processing.dispatched.inj handled
          exact ⟨rfl, not_not.mp same⟩
  · rintro ⟨rfl, same⟩
    refine ⟨_, sendMessage_falsy platform type flags correlationId messageId timestamp .null rfl, ?_,
      connectionReceiveMessage_bareHeader _ _ _ _ _ _⟩
    rw [handleBinaryMessage_bareHeader, if_neg (not_not_intro same)]
    exact ⟨_, rfl⟩

/-- A heartbeat whose header has the CRC-32 zero. -/
example : Crc.tableChecksum crc32Polynomial (ProtocolCodec.headerBytes
    (bareHeader 2 0 0 1700003401830650 1700000000000 0)) = 0#32 := by decide +kernel

/-- A platform for the values null, true and false. -/
def plainPlatform : Platform Int (List UInt8) where
  nonzero value := value ≠ 0
  nonempty text := text ≠ []
  stringify
    | .bool true => [0x74, 0x72, 0x75, 0x65]
    | .bool false => [0x66, 0x61, 0x6c, 0x73, 0x65]
    | _ => [0x6e, 0x75, 0x6c, 0x6c]
  parse text :=
    if text = [0x74, 0x72, 0x75, 0x65] then some (.bool true)
    else if text = [0x66, 0x61, 0x6c, 0x73, 0x65] then some (.bool false)
    else if text = [0x6e, 0x75, 0x6c, 0x6c] then some .null
    else none
  encode text := text
  decode bytes := bytes
  decryptMessage _ := none

/-- The value true is not sent at all, and a heartbeat without a value is refused by the peer. -/
theorem sendMessage_not_understood :
    ChatClient.sendMessage plainPlatform 0x03000001 0 0 (.bool true) 1700000000000000 1700000000000 = none ∧
      (¬ ∃ bytes, Understood plainPlatform 0x03000001 0 0 (.bool true) 1700000000000000 1700000000000 bytes) ∧
      ¬ ∃ bytes, Understood plainPlatform 2 0 0 .null 1700000000000000 1700000000000 bytes := by
  have unsent : ChatClient.sendMessage plainPlatform 0x03000001 0 0 (.bool true) 1700000000000000
      1700000000000 = none := sendMessage_truthy plainPlatform _ _ _ _ _ _ rfl
  refine ⟨unsent, ?_, ?_⟩
  · rintro ⟨bytes, understood⟩
    exact nomatch unsent.symm.trans understood.sent
  · rintro ⟨bytes, sent, ⟨header, handled⟩, -⟩
    rw [sendMessage_falsy plainPlatform _ _ _ _ _ .null rfl] at sent
    obtain rfl := Option.some.inj sent
    rw [handleBinaryMessage_bareHeader, if_pos] at handled
    · cases handled
    · exact fun same => absurd ((calculateChecksum_self_iff _ _ _ _ _).mp same) (by decide +kernel)

namespace ConnectionOutput

def schedules : ConnectionOutput → Bool
  | .scheduled _ => true
  | _ => false

def creates : ConnectionOutput → Bool
  | .created => true
  | _ => false

/-- The connection is open, or the user has given it up. -/
def resets : ConnectionOutput → Bool
  | .connected => true
  | .disconnected byUser => byUser
  | _ => false

end ConnectionOutput

/-- A call of the user for a connection. -/
def ConnectionEvent.calls : ConnectionEvent → Bool
  | .connect _ => true
  | _ => false

namespace ChatConnection

/-- What a step may spend: attempts are scheduled out of a budget of five that each reset fills again, and sockets are
made for calls and for timers that fire. -/
structure Spends (calls : Nat) (client next : ChatConnection) (outputs : List ConnectionOutput) : Prop where
  few : next.reconnectAttempts ≤ 5
  budget : outputs.countP (·.schedules) + client.reconnectAttempts ≤
    5 * outputs.countP (·.resets) + next.reconnectAttempts
  made : outputs.countP (·.creates) + next.reconnectTimers.length ≤
    calls + outputs.countP (·.schedules) + client.reconnectTimers.length
  delays : ∀ delay, .scheduled delay ∈ outputs → delay ∈ [1000, 2000, 4000, 8000, 16000]

section Steps

variable {client next : ChatConnection} {outputs : List ConnectionOutput}

theorem Spends.rest (calls : Nat) (few : client.reconnectAttempts ≤ 5) : Spends calls client client [] :=
  ⟨few, by simp, by simp, by simp⟩

/-- An output that spends nothing may stand in front, and the other fields do not count. -/
theorem Spends.cons {calls : Nat} (spends : Spends calls client next outputs) (output : ConnectionOutput)
    (schedules : output.schedules = false) (creates : output.creates = false) :
    Spends calls client next (output :: outputs) := by
  obtain ⟨few, budget, made, delays⟩ := spends
  have later : outputs.countP (·.resets) ≤ (output :: outputs).countP (·.resets) :=
    List.Sublist.countP_le (List.sublist_cons_self _ _)
  refine ⟨few, ?_, ?_, ?_⟩
  · rw [List.countP_cons_of_neg (by simp [schedules])]
    omega
  · rw [List.countP_cons_of_neg (by simp [creates]), List.countP_cons_of_neg (by simp [schedules])]
    exact made
  · rintro delay (_ | ⟨_, member⟩)
    · cases schedules
    · exact delays delay member

theorem Spends.of_eq {calls : Nat} {changed : ChatConnection} (spends : Spends calls client next outputs)
    (attempts : changed.reconnectAttempts = client.reconnectAttempts)
    (timers : changed.reconnectTimers = client.reconnectTimers) : Spends calls changed next outputs :=
  ⟨spends.few, attempts ▸ spends.budget, timers ▸ spends.made, spends.delays⟩

theorem scheduleReconnect_spends (few : client.reconnectAttempts ≤ 5) :
    Spends 0 client client.scheduleReconnect.1 client.scheduleReconnect.2 := by
  rw [scheduleReconnect]
  split
  · exact (Spends.rest 0 few).cons _ rfl rfl
  · rename_i room
    rw [maxReconnectAttempts, Nat.not_le] at room
    refine ⟨room, ?_, ?_, ?_⟩
    · show 1 + client.reconnectAttempts ≤ 5 * 0 + (client.reconnectAttempts + 1)
      omega
    · show 0 + (client.reconnectTimers ++ [_]).length ≤ 0 + 1 + client.reconnectTimers.length
      rw [List.length_append, List.length_singleton]
      omega
    · intro delay member
      have shown := List.mem_singleton.mp member
      rw [ConnectionOutput.scheduled.injEq, Nat.add_sub_cancel] at shown
      have all : ∀ attempts < 5, min (reconnectDelay * 2 ^ attempts) 30000 ∈ [1000, 2000, 4000, 8000, 16000] := by decide
      exact shown ▸ all _ room

theorem handleError_spends (few : client.reconnectAttempts ≤ 5) :
    Spends 0 client client.handleError.1 client.handleError.2 :=
  (scheduleReconnect_spends few).cons _ rfl rfl

/-- A call may make a socket. -/
theorem connect_spends (constructs : Bool) (few : client.reconnectAttempts ≤ 5) :
    Spends 1 client (client.connect constructs).1 (client.connect constructs).2 := by
  rw [connect]
  split
  · exact .rest 1 few
  · split
    · refine ⟨few, ?_, ?_, by simp⟩
      · simp [ConnectionOutput.schedules]
      · simp [ConnectionOutput.schedules, ConnectionOutput.creates]
    · obtain ⟨few, budget, made, delays⟩ := handleError_spends few
      exact ⟨few, budget, by omega, delays⟩

/-- Both ways to begin afresh fill the budget. -/
theorem Spends.reset (output : ConnectionOutput) (few : client.reconnectAttempts ≤ 5)
    (none : next.reconnectAttempts = 0) (timers : next.reconnectTimers = client.reconnectTimers)
    (resets : output.resets = true) (schedules : output.schedules = false) (creates : output.creates = false) :
    Spends 0 client next [output] := by
  refine ⟨by omega, ?_, ?_, ?_⟩
  · simp [schedules, resets, none]
    exact few
  · simp [schedules, creates, timers]
  · intro delay member
    cases List.mem_singleton.mp member
    cases schedules

/-- One event spends within the budget. -/
theorem step_spends (event : ConnectionEvent) (few : client.reconnectAttempts ≤ 5) :
    Spends event.calls.toNat client (connectionMachine.step client event).1 (connectionMachine.step client event).2 := by
  cases event with
  | connect constructs => exact connect_spends constructs few
  | disconnect =>
      have timers : client.disconnect.1.reconnectTimers = client.reconnectTimers := by
        rw [disconnect]
        split <;> rfl
      exact .reset _ few rfl timers rfl rfl rfl
  | opened socket =>
      dsimp only [connectionMachine]
      split
      · exact .reset _ few rfl rfl rfl rfl rfl
      · exact .rest 0 few
  | errored socket =>
      dsimp only [connectionMachine]
      split
      · exact .rest 0 few
      · exact handleError_spends few
  | closed socket code =>
      dsimp only [connectionMachine]
      split
      · exact .rest 0 few
      · rw [handleClose]
        split
        · have spends := @scheduleReconnect_spends { client with
            sockets := client.sockets.set socket .closed, isConnected := false } few
          exact (spends.cons (.disconnected false) rfl rfl).of_eq rfl rfl
        · have rests := @Spends.rest { client with
            sockets := client.sockets.set socket .closed, isConnected := false } 0 few
          exact (rests.cons (.disconnected false) rfl rfl).of_eq rfl rfl
  | reconnect index constructs =>
      dsimp only [connectionMachine]
      split
      · rename_i pending
        have fired := List.length_eraseIdx_of_lt pending
        have kept : ({ client with
            reconnectTimers := client.reconnectTimers.eraseIdx index } : ChatConnection).reconnectAttempts ≤ 5 := few
        split
        · exact ⟨few, by simp, by simp; omega, by simp⟩
        · obtain ⟨few, budget, made, delays⟩ := connect_spends constructs kept
          refine ⟨few, budget, ?_, delays⟩
          dsimp only at made
          rw [fired] at made
          show _ ≤ 0 + _ + _
          omega
      · exact .rest 0 few
  | connectTimeout =>
      dsimp only [connectionMachine]
      split
      · exact .rest 0 few
      · have rests := @Spends.rest { client with connectTimers := client.connectTimers - 1 } 0 few
        rw [handleConnectTimeout]
        split
        · exact rests.of_eq rfl rfl
        · rename_i socket _
          split
          · have spends := @handleError_spends
              ({ client with connectTimers := client.connectTimers - 1 }.closeSocket socket) few
            exact spends.of_eq rfl rfl
          · exact rests.of_eq rfl rfl

end Steps

end ChatConnection

end SecureChat.Web
