import SecureChat.Construction.Web.Codec
import SecureChat.Construction.Protocol
import SecureChat.Construction.Utils.Checksum
import SecureChat.Construction.Web.WebSocketClient

namespace SecureChat.Web.ProtocolCodec
open Library

/-- Every number fits the width of its field. -/
structure Fits (header : MessageHeader) : Prop where
  magic : 0 ≤ header.magic ∧ header.magic < 2 ^ 32
  version : 0 ≤ header.version ∧ header.version < 2 ^ 32
  type : 0 ≤ header.type ∧ header.type < 2 ^ 32
  flags : 0 ≤ header.flags ∧ header.flags < 2 ^ 32
  timestamp : 0 ≤ header.timestamp ∧ header.timestamp < 2 ^ 64
  messageId : 0 ≤ header.messageId ∧ header.messageId < 2 ^ 64
  correlationId : 0 ≤ header.correlationId ∧ header.correlationId < 2 ^ 64
  bodyLength : 0 ≤ header.bodyLength ∧ header.bodyLength < 2 ^ 32
  checksum : 0 ≤ header.checksum ∧ header.checksum < 2 ^ 32

/-- The struct of the server holds the same values. -/
structure SameFields (header : MessageHeader) (struct : Protocol.MessageHeader) : Prop where
  magic : header.magic = struct.magic.toNat
  version : header.version = struct.version.toNat
  type : header.type = struct.type.toNat
  flags : header.flags = struct.flags.toNat
  timestamp : header.timestamp = struct.timestamp.toNat
  messageId : header.messageId = struct.messageId.toNat
  correlationId : header.correlationId = struct.correlationId.toNat
  bodyLength : header.bodyLength = struct.bodyLength.toNat
  checksum : header.checksum = struct.checksum.toNat

/-- Each field as it comes back, cut to its width. -/
def wrapped (header : MessageHeader) : MessageHeader where
  magic := header.magic % 256 ^ 4
  version := header.version % 256 ^ 4
  type := header.type % 256 ^ 4
  flags := header.flags % 256 ^ 4
  timestamp := header.timestamp % 256 ^ 8
  messageId := header.messageId % 256 ^ 8
  correlationId := header.correlationId % 256 ^ 8
  bodyLength := header.bodyLength % 256 ^ 4
  checksum := header.checksum % 256 ^ 4

theorem wrapped_of_fits (header : MessageHeader) (fits : Fits header) : wrapped header = header := by
  obtain ⟨magic, version, type, flags, timestamp, messageId, correlationId, bodyLength, checksum⟩ := fits
  have four : (256 : Int) ^ 4 = 2 ^ 32 := by decide
  have eight : (256 : Int) ^ 8 = 2 ^ 64 := by decide
  unfold wrapped
  rw [four, eight, Int.emod_eq_of_lt magic.1 magic.2, Int.emod_eq_of_lt version.1 version.2,
    Int.emod_eq_of_lt type.1 type.2, Int.emod_eq_of_lt flags.1 flags.2,
    Int.emod_eq_of_lt timestamp.1 timestamp.2, Int.emod_eq_of_lt messageId.1 messageId.2,
    Int.emod_eq_of_lt correlationId.1 correlationId.2, Int.emod_eq_of_lt bodyLength.1 bodyLength.2,
    Int.emod_eq_of_lt checksum.1 checksum.2]

/-- What is read back of any header. -/
theorem deserializeHeader_headerBytes (header : MessageHeader) (rest : List UInt8) :
    deserializeHeader (headerBytes header ++ rest) = some (wrapped header) := by
  have long : ¬ (headerBytes header ++ rest).length < headerSize := by
    rw [List.length_append, headerBytes_length]
    exact Nat.not_lt.mpr (Nat.le_add_right _ _)
  have field : ∀ index width offset value, (headerFields header)[index]? = some (uintBytes width value) →
      ((headerFields header).take index).flatten.length = offset →
      getUint width offset (headerBytes header ++ rest) = some (bigEndianValue (uintBytes width value)) := by
    intro index width offset value found start
    rw [headerBytes, List.append_assoc]
    exact getUint_flatten _ _ index width offset _ found start (uintBytes_length width value)
  rw [deserializeHeader, if_neg long, field 0 4 0 _ rfl rfl, field 1 4 4 _ rfl rfl, field 2 4 8 _ rfl rfl,
    field 3 4 12 _ rfl rfl, field 4 8 16 _ rfl rfl, field 5 8 24 _ rfl rfl, field 6 8 32 _ rfl rfl,
    field 7 4 40 _ rfl rfl, field 8 4 44 _ rfl rfl]
  simp only [bigEndianValue_uintBytes_mod, Option.bind_eq_bind, Option.bind_some]
  rfl

/-- The server reads each field at the offset where the browser has written it. -/
theorem readField_headerBytes (header : MessageHeader) (index width offset : Nat) (value : Int)
    (found : (headerFields header)[index]? = some (uintBytes width value))
    (start : ((headerFields header).take index).flatten.length = offset) :
    (Protocol.readField (headerBytes header) offset width : Int) = value % 256 ^ width := by
  have read := getUint_flatten (headerFields header) (List.replicate 16 0) index width offset _ found start
    (uintBytes_length width value)
  rw [getUint] at read
  split at read
  · have same := Option.some.inj read
    rw [sliceBytes, Nat.add_sub_cancel_left] at same
    rw [Protocol.readField, headerBytes, same, bigEndianValue_uintBytes_mod]
  · cases read

theorem readNetworkHeader_headerBytes (header : MessageHeader) (fits : Fits header) :
    ∃ struct, Protocol.readNetworkHeader (headerBytes header) = some struct ∧ SameFields header struct ∧
      struct.reserved.val = List.replicate 16 0 := by
  have long : Protocol.headerSize ≤ (headerBytes header).length := Nat.le_of_eq (headerBytes_length header).symm
  have field := readField_headerBytes header
  have four : ∀ (read : Nat) (value : Int), 0 ≤ value ∧ value < 2 ^ 32 → (read : Int) = value % 256 ^ 4 →
      value = (UInt32.ofNat read).toNat := by
    intro read value inside same
    rw [UInt32.toNat_ofNat']
    omega
  have eight : ∀ (read : Nat) (value : Int), 0 ≤ value ∧ value < 2 ^ 64 → (read : Int) = value % 256 ^ 8 →
      value = (UInt64.ofNat read).toNat := by
    intro read value inside same
    rw [UInt64.toNat_ofNat']
    omega
  rw [Protocol.readNetworkHeader, dif_pos long]
  refine ⟨_, rfl, ?_, ?_⟩
  · constructor
    · exact four _ _ fits.magic (field 0 4 0 _ rfl rfl)
    · exact four _ _ fits.version (field 1 4 4 _ rfl rfl)
    · exact four _ _ fits.type (field 2 4 8 _ rfl rfl)
    · exact four _ _ fits.flags (field 3 4 12 _ rfl rfl)
    · exact eight _ _ fits.timestamp (field 4 8 16 _ rfl rfl)
    · exact eight _ _ fits.messageId (field 5 8 24 _ rfl rfl)
    · exact eight _ _ fits.correlationId (field 6 8 32 _ rfl rfl)
    · exact four _ _ fits.bodyLength (field 7 4 40 _ rfl rfl)
    · exact four _ _ fits.checksum (field 8 4 44 _ rfl rfl)
  · show ((headerBytes header).drop 48).take 16 = List.replicate 16 0
    rw [headerBytes, ← headerFields_length header, List.drop_left]
    rfl

/-- The header that is read is written again as it was. -/
theorem serializeHeader_deserializeHeader (bytes : List UInt8) (size : bytes.length = 64)
    (cleared : bytes.drop 48 = List.replicate 16 0) :
    ∃ header, deserializeHeader bytes = some header ∧ serializeHeader header = some bytes := by
  have read : ∀ width offset, offset + width ≤ 48 →
      getUint width offset bytes = some (bigEndianValue (sliceBytes offset (offset + width) bytes)) := by
    intro width offset inside
    rw [getUint, if_pos (by omega)]
  have written : ∀ width offset, offset + width ≤ 48 →
      uintBytes width (bigEndianValue (sliceBytes offset (offset + width) bytes)) =
        sliceBytes offset (offset + width) bytes := by
    intro width offset inside
    have same := uintBytes_bigEndianValue (sliceBytes offset (offset + width) bytes)
    rwa [sliceBytes_length offset width bytes (by omega)] at same
  have long : ¬ bytes.length < headerSize := Nat.not_lt.mpr (Nat.le_of_eq size.symm)
  rw [deserializeHeader, if_neg long, read 4 0 (by omega), read 4 4 (by omega), read 4 8 (by omega),
    read 4 12 (by omega), read 8 16 (by omega), read 8 24 (by omega), read 8 32 (by omega),
    read 4 40 (by omega), read 4 44 (by omega)]
  refine ⟨_, rfl, ?_⟩
  rw [serializeHeader_eq, headerBytes, headerFields]
  dsimp only
  rw [written 4 0 (by omega), written 4 4 (by omega), written 4 8 (by omega), written 4 12 (by omega),
    written 8 16 (by omega), written 8 24 (by omega), written 8 32 (by omega), written 4 40 (by omega),
    written 4 44 (by omega)]
  have joined : ∀ first middle last, first ≤ middle → middle ≤ last → ∀ rest : List UInt8,
      sliceBytes first middle bytes ++ (sliceBytes middle last bytes ++ rest) =
        sliceBytes first last bytes ++ rest := by
    intro first middle last order later rest
    rw [← List.append_assoc, sliceBytes_append first middle last bytes order later]
  simp only [List.flatten_cons, List.flatten_nil, List.append_assoc, List.nil_append]
  rw [joined 0 4 8 (by omega) (by omega), joined 0 8 12 (by omega) (by omega),
    joined 0 12 16 (by omega) (by omega), joined 0 16 24 (by omega) (by omega),
    joined 0 24 32 (by omega) (by omega), joined 0 32 40 (by omega) (by omega),
    joined 0 40 44 (by omega) (by omega), joined 0 44 48 (by omega) (by omega), ← cleared]
  exact congrArg some (List.take_append_drop 48 bytes)

/-- Browser and server agree on the header. -/
theorem serializeHeader_agrees (header : MessageHeader) (fits : Fits header) (bytes : List UInt8)
    (size : bytes.length = 64) (cleared : bytes.drop 48 = List.replicate 16 0) :
    (∃ image struct, serializeHeader header = some image ∧ image.length = 64 ∧
      Protocol.readNetworkHeader image = some struct ∧ SameFields header struct ∧
      struct.reserved.val = List.replicate 16 0 ∧
      ∀ rest, deserializeHeader (image ++ rest) = some header) ∧
      ∃ read, deserializeHeader bytes = some read ∧ serializeHeader read = some bytes := by
  obtain ⟨struct, found, same, reserved⟩ := readNetworkHeader_headerBytes header fits
  refine ⟨⟨headerBytes header, struct, serializeHeader_eq header, headerBytes_length header, found, same,
    reserved, ?_⟩, serializeHeader_deserializeHeader bytes size cleared⟩
  intro rest
  rw [deserializeHeader_headerBytes, wrapped_of_fits header fits]

/-- A heartbeat at the first millisecond, and a buffer of zeros. -/
theorem serializeHeader_agrees_heartbeat :
    (∃ image struct, serializeHeader ⟨protocolMagic, protocolVersion, 2, 0, 1, 1, 0, 0, 0⟩ = some image ∧
      image.length = 64 ∧ Protocol.readNetworkHeader image = some struct ∧
      SameFields ⟨protocolMagic, protocolVersion, 2, 0, 1, 1, 0, 0, 0⟩ struct ∧
      struct.reserved.val = List.replicate 16 0 ∧
      ∀ rest, deserializeHeader (image ++ rest) = some ⟨protocolMagic, protocolVersion, 2, 0, 1, 1, 0, 0, 0⟩) ∧
      ∃ read, deserializeHeader (List.replicate 64 0) = some read ∧
        serializeHeader read = some (List.replicate 64 0) :=
  serializeHeader_agrees _ (by constructor <;> decide) (List.replicate 64 0) rfl rfl

end SecureChat.Web.ProtocolCodec

namespace SecureChat.Web
open Library Library.JsNumber Utils

section Loop

/-- The operators of the browser do one step of the CRC. -/
theorem toInt32_checksumBit (crc : Int) :
    toInt32 (ProtocolCodec.checksumBit crc) = Crc.bitStep crc32Polynomial (toInt32 crc) := by
  have lowest : bitAnd crc 1 ≠ 0 ↔ (toInt32 crc).getLsbD 0 = true := by
    have one : toInt32 1 = 1#32 := rfl
    rw [bitAnd, one, BitVec.and_one_eq_setWidth_ofBool_getLsbD]
    cases (toInt32 crc).getLsbD 0 <;> decide
  rw [ProtocolCodec.checksumBit, toInt32_bitXor, toInt32_shiftRightUnsigned, Crc.bitStep]
  by_cases odd : (toInt32 crc).getLsbD 0 = true
  · rw [if_pos (lowest.mpr odd), if_pos odd]
    rfl
  · rw [if_neg (fun set => odd (lowest.mp set)), if_neg odd]
    exact BitVec.xor_zero

theorem toInt32_checksumByte (crc : Int) (byte : UInt8) :
    toInt32 (ProtocolCodec.checksumByte crc byte) = Crc.byteStep crc32Polynomial (toInt32 crc) byte := by
  have steps : ∀ (count : Nat) (start : Int),
      toInt32 ((List.range count).foldl (fun crc _ => ProtocolCodec.checksumBit crc) start) =
        Crc.bitSteps crc32Polynomial count (toInt32 start) := by
    intro count start
    induction count with
    | zero => rfl
    | succ count ih =>
        rw [List.range_succ, List.foldl_append, List.foldl_cons, List.foldl_nil, toInt32_checksumBit, ih]
        exact (Function.iterate_succ_apply' ..).symm
  have mixed : toInt32 (byte.toNat : Int) = byte.toBitVec.setWidth 32 := by
    rw [toInt32, BitVec.ofInt_natCast, ← BitVec.toNat_inj, BitVec.toNat_ofNat, BitVec.toNat_setWidth]
    rfl
  rw [ProtocolCodec.checksumByte, steps, toInt32_bitXor, mixed]
  rfl

/-- The checksum is the signed number of the bits of the CRC. -/
theorem calculateChecksum_eq (data : List UInt8) :
    ProtocolCodec.calculateChecksum data = (Crc.tableChecksum crc32Polynomial data).toInt := by
  have folded : ∀ (bytes : List UInt8) (start : Int), toInt32 (bytes.foldl ProtocolCodec.checksumByte start) =
      Crc.update crc32Polynomial (toInt32 start) bytes := by
    intro bytes
    induction bytes with
    | nil => exact fun _ => rfl
    | cons byte rest ih =>
        intro start
        rw [List.foldl_cons, ih, toInt32_checksumByte]
        rfl
  have ones : toInt32 0xFFFFFFFF = BitVec.allOnes 32 := rfl
  rw [ProtocolCodec.calculateChecksum, bitXor, folded, ones, BitVec.xor_allOnes,
    Crc.tableChecksum_eq crc32Polynomial (by decide)]

end Loop

section Frames

variable (type : Int) (data : List UInt8) (messageId correlationId now : Int)

/-- The header of a frame. -/
def frameHeader : MessageHeader where
  magic := 0x53435400
  version := 0x030000
  type := type
  flags := 0
  timestamp := now
  messageId := messageId
  correlationId := correlationId
  bodyLength := data.length
  checksum := ProtocolCodec.calculateChecksum data

theorem messageFrame_eq : SecureChatWebSocket.messageFrame type data messageId correlationId now =
    some (ProtocolCodec.headerBytes (frameHeader type data messageId correlationId now) ++ data) := by
  show (ProtocolCodec.serializeHeader (frameHeader type data messageId correlationId now)).map (· ++ data) = _
  rw [ProtocolCodec.serializeHeader_eq]
  rfl

/-- A frame is checked with the part of its body that its header announces. -/
theorem acceptMessage_frame :
    SecureChatWebSocket.acceptMessage
        (ProtocolCodec.headerBytes (frameHeader type data messageId correlationId now) ++ data) =
      if ProtocolCodec.calculateChecksum (data.take (data.length % 2 ^ 32)) ≠
          ProtocolCodec.calculateChecksum data % 2 ^ 32 then none
      else some (ProtocolCodec.wrapped (frameHeader type data messageId correlationId now),
        data.take (data.length % 2 ^ 32)) := by
  have header : sliceBytes 0 64
      (ProtocolCodec.headerBytes (frameHeader type data messageId correlationId now) ++ data) =
        ProtocolCodec.headerBytes (frameHeader type data messageId correlationId now) := by
    have found := sliceBytes_field [] (ProtocolCodec.headerBytes
      (frameHeader type data messageId correlationId now)) data 0 64 rfl
      (by rw [ProtocolCodec.headerBytes_length])
    rwa [List.nil_append] at found
  have read := ProtocolCodec.deserializeHeader_headerBytes
    (frameHeader type data messageId correlationId now) []
  rw [List.append_nil] at read
  have valid : ProtocolCodec.validateHeader
      (ProtocolCodec.wrapped (frameHeader type data messageId correlationId now)) = true := rfl
  have size : (ProtocolCodec.wrapped (frameHeader type data messageId correlationId now)).bodyLength.toNat =
      data.length % 2 ^ 32 := by
    show ((data.length : Int) % 256 ^ 4).toNat = _
    omega
  have body : sliceBytes 64 (64 + data.length % 2 ^ 32)
      (ProtocolCodec.headerBytes (frameHeader type data messageId correlationId now) ++ data) =
        data.take (data.length % 2 ^ 32) := by
    rw [sliceBytes, ← ProtocolCodec.headerBytes_length (frameHeader type data messageId correlationId now),
      List.drop_left, Nat.add_sub_cancel_left]
  rw [SecureChatWebSocket.acceptMessage, header, read]
  simp only [Option.bind_eq_bind, Option.bind_some]
  rw [valid, size, body]
  rfl

end Frames

/-- The frame passes the tests of a receiver with its body unchanged,
and its checksum is the one of the server. -/
structure PassesChecks (crc32 : UInt32 → List UInt8 → UInt32) (data frame : List UInt8) : Prop where
  accepted : ∃ header, SecureChatWebSocket.acceptMessage frame = some (header, data)
  checksum : ∃ header, ProtocolCodec.deserializeHeader frame = some header ∧
    header.checksum = (utilsCrc32 crc32 data).toNat

theorem passesChecks_frame_iff (crc32 : UInt32 → List UInt8 → UInt32) (standard : StandardCrc32 crc32)
    (type : Int) (data : List UInt8) (messageId correlationId now : Int) :
    PassesChecks crc32 data
        (ProtocolCodec.headerBytes (frameHeader type data messageId correlationId now) ++ data) ↔
      data.length < 2 ^ 32 ∧ (utilsCrc32 crc32 data).toNat < 2 ^ 31 := by
  have accepted := acceptMessage_frame type data messageId correlationId now
  have read := ProtocolCodec.deserializeHeader_headerBytes (frameHeader type data messageId correlationId now)
    data
  rw [calculateChecksum_eq, calculateChecksum_eq, toInt_emod] at accepted
  constructor
  · rintro ⟨⟨header, passed⟩, -⟩
    rw [accepted] at passed
    split at passed
    · cases passed
    · rename_i same
      have body : data.take (data.length % 2 ^ 32) = data := congrArg Prod.snd (Option.some.inj passed)
      have short : data.length < 2 ^ 32 := by
        have size := congrArg List.length body
        rw [List.length_take] at size
        omega
      rw [body] at same
      refine ⟨short, ?_⟩
      rw [utilsCrc32, body]
      show (crc32 0 data).toBitVec.toNat < _
      rw [standard]
      exact (toInt_eq_toNat_iff _).mp (not_not.mp same)
  · rintro ⟨short, positive⟩
    have body : data.take (data.length % 2 ^ 32) = data := by
      rw [Nat.mod_eq_of_lt short, List.take_length]
    have value : (utilsCrc32 crc32 data).toNat = (Crc.tableChecksum crc32Polynomial data).toNat := by
      rw [utilsCrc32, body, ← standard]
      rfl
    rw [value] at positive
    rw [body, if_neg (not_not_intro ((toInt_eq_toNat_iff _).mpr positive))] at accepted
    refine ⟨⟨_, accepted⟩, _, read, ?_⟩
    rw [value, ← toInt_emod, ← calculateChecksum_eq]
    rfl

/-- With an open socket a message is sent at once. -/
theorem sendMessage_open (client : SecureChatWebSocket) (socket : Nat) (current : client.socket = some socket)
    (opened : client.readyState socket = some .open) (connected : client.state = .connected)
    (clock : Int → Int) (expectResponse : Bool) (message : Message) :
    (client.sendMessage clock expectResponse message).2 = [⟨socket, message.call,
      ProtocolCodec.headerBytes (frameHeader message.type message.data client.nextMessageId
        (if expectResponse then client.nextCorrelationId else 0) (clock client.nextMessageId)) ++
        message.data⟩] := by
  rw [SecureChatWebSocket.sendMessage, current]
  dsimp only
  rw [if_neg (not_not_intro connected), messageFrame_eq]
  simp only [opened]

/-- A message passes the tests of its own client exactly when its body has less than 2^32 bytes
and the highest bit of its CRC-32 is zero. -/
theorem sendMessage_passesChecks_iff (crc32 : UInt32 → List UInt8 → UInt32) (standard : StandardCrc32 crc32)
    (client : SecureChatWebSocket) (socket : Nat) (current : client.socket = some socket)
    (opened : client.readyState socket = some .open) (connected : client.state = .connected)
    (clock : Int → Int) (expectResponse : Bool) (message : Message) :
    ∃ frame, (client.sendMessage clock expectResponse message).2 = [⟨socket, message.call, frame⟩] ∧
      (PassesChecks crc32 message.data frame ↔
        message.data.length < 2 ^ 32 ∧ (utilsCrc32 crc32 message.data).toNat < 2 ^ 31) := by
  have sent := sendMessage_open client socket current opened connected clock expectResponse message
  exact ⟨_, sent, passesChecks_frame_iff crc32 standard ..⟩

/-- The result of zlib for one buffer. -/
def bufferCrc32 (_ : UInt32) (bytes : List UInt8) : UInt32 :=
  UInt32.ofBitVec (Crc.tableChecksum crc32Polynomial bytes)

theorem bufferCrc32_standard : StandardCrc32 bufferCrc32 := fun _ => rfl

/-- A client with one socket that is open. -/
def connectedClient : SecureChatWebSocket :=
  { SecureChatWebSocket.create 5 with
    socket := some 0
    state := .connected
    sockets := [⟨.open, false, true, true⟩] }

theorem sendMessage_passesChecks_letter :
    ∃ frame, (connectedClient.sendMessage (fun _ => 1700000000000) false
        ⟨0, 0x03000001, [0x62]⟩).2 = [⟨0, 0, frame⟩] ∧
      (PassesChecks bufferCrc32 [0x62] frame ↔
        [(0x62 : UInt8)].length < 2 ^ 32 ∧ (utilsCrc32 bufferCrc32 [0x62]).toNat < 2 ^ 31) :=
  sendMessage_passesChecks_iff bufferCrc32 bufferCrc32_standard connectedClient 0 rfl rfl rfl _ false
    ⟨0, 0x03000001, [0x62]⟩

/-- The CRC-32 of the letter a is 0xE8B7BE43, and the client refuses its own message. -/
theorem sendMessage_refuses_letter :
    StandardCrc32 bufferCrc32 ∧ ∃ frame, (connectedClient.sendMessage (fun _ => 1700000000000) false
      ⟨0, 0x03000001, [0x61]⟩).2 = [⟨0, 0, frame⟩] ∧
      SecureChatWebSocket.acceptMessage frame = none ∧ ¬ PassesChecks bufferCrc32 [0x61] frame := by
  have refused : SecureChatWebSocket.acceptMessage (ProtocolCodec.headerBytes
      (frameHeader 0x03000001 [0x61] 1 0 1700000000000) ++ [0x61]) = none := by decide +kernel
  refine ⟨bufferCrc32_standard, _, sendMessage_open connectedClient 0 rfl rfl rfl _ false _, refused, ?_⟩
  · rintro ⟨⟨header, accepted⟩, -⟩
    exact nomatch refused.symm.trans accepted

end SecureChat.Web
