/-
This file holds the message header of the native protocol.
-/

import SecureChat.Library.ByteOrder

namespace SecureChat.Protocol
open Library

def protocolMagic : UInt32 := 0x53435400
def protocolVersion : UInt32 := ((3 : UInt32) <<< 16) ||| ((0 : UInt32) <<< 8) ||| 0

def msgSystemHandshake : UInt32 := 0x00000001
def msgSystemHeartbeat : UInt32 := 0x00000002
def msgSystemError : UInt32 := 0x00000003
def msgSystemNotification : UInt32 := 0x00000004
def msgSystemMaintenance : UInt32 := 0x00000005
def msgChatTextSend : UInt32 := 0x03000001

/-- The message types that the protocol lists as system messages. -/
def systemTypes : List UInt32 :=
  [msgSystemHandshake, msgSystemHeartbeat, msgSystemError, msgSystemNotification,
    msgSystemMaintenance]

/-- `sizeof(message_header_t)` of the packed struct. -/
def headerSize : Nat := 64

/-- The limit of one message body. -/
def maxMessageSize : Nat := 65536

structure MessageHeader where
  magic : UInt32
  version : UInt32
  type : UInt32
  flags : UInt32
  timestamp : UInt64
  messageId : UInt64
  correlationId : UInt64
  bodyLength : UInt32
  checksum : UInt32
  reserved : { bytes : List UInt8 // bytes.length = 16 }
  deriving DecidableEq, Repr

/-- The zeroed header. -/
def emptyHeader : MessageHeader :=
  ⟨0, 0, 0, 0, 0, 0, 0, 0, 0, List.replicate 16 0, List.length_replicate⟩

/-- A header with the body behind it. -/
structure HandedMessage where
  header : MessageHeader
  body : List UInt8
  deriving DecidableEq, Repr

/-- `sizeof(message_content_t)` of the packed struct, without the content behind it. -/
def messageContentSize : Nat := 113

/-- The fields of `message_content_t` in front of the content. -/
structure MessageContent where
  messageId : UInt64
  senderId : UInt64
  receiverId : UInt64
  timestamp : UInt64
  messageType : UInt32
  replyToId : UInt64
  encrypted : UInt8
  contentHash : { bytes : List UInt8 // bytes.length = 64 }
  contentLength : UInt32
  deriving DecidableEq, Repr

/-- The number in a field of a structure that a little-endian machine has in memory. -/
def memoryField (memory : Nat → UInt8) (offset width : Nat) : Nat :=
  littleEndianValue ((List.range width).map fun index => memory (offset + index))

/-- Memory that is cast to the struct. -/
def castMessageContent (memory : Nat → UInt8) : MessageContent where
  messageId := UInt64.ofNat (memoryField memory 0 8)
  senderId := UInt64.ofNat (memoryField memory 8 8)
  receiverId := UInt64.ofNat (memoryField memory 16 8)
  timestamp := UInt64.ofNat (memoryField memory 24 8)
  messageType := UInt32.ofNat (memoryField memory 32 4)
  replyToId := UInt64.ofNat (memoryField memory 36 8)
  encrypted := memory 44
  contentHash := ⟨(List.range 64).map fun index => memory (45 + index), by simp⟩
  contentLength := UInt32.ofNat (memoryField memory 109 4)

/-- The three functions that the protocol declares and leaves to its library.
The header buffer always has the size of the struct. -/
structure HeaderCodec where
  serializeMessageHeader : MessageHeader → List UInt8
  deserializeMessageHeader : List UInt8 → Option MessageHeader
  calculateMessageChecksum : List UInt8 → UInt32
  serialize_length : ∀ header, (serializeMessageHeader header).length = headerSize

/-- Reading gives back every header that was written. -/
def HeaderCodec.Inverts (codec : HeaderCodec) : Prop :=
  ∀ header, codec.deserializeMessageHeader (codec.serializeMessageHeader header) = some header

/-- One bit of the reflected CRC-32. -/
def crcBit (crc : UInt32) : UInt32 :=
  if crc &&& 1 = 1 then (crc >>> 1) ^^^ 0xEDB88320 else crc >>> 1

def crcByte (crc : UInt32) (byte : UInt8) : UInt32 :=
  (List.range 8).foldl (fun crc _ => crcBit crc) (crc ^^^ byte.toUInt32)

def crc32 (bytes : List UInt8) : UInt32 := bytes.foldl crcByte 0xFFFFFFFF ^^^ 0xFFFFFFFF

/-- The number in a field of the header. -/
def readField (bytes : List UInt8) (offset width : Nat) : Nat :=
  bigEndianValue ((bytes.drop offset).take width)

/-- The fields in network order, one behind the other, as the browser client writes them. -/
def writeNetworkHeader (header : MessageHeader) : List UInt8 :=
  bigEndian 4 header.magic.toNat ++ (bigEndian 4 header.version.toNat ++
    (bigEndian 4 header.type.toNat ++ (bigEndian 4 header.flags.toNat ++
      (bigEndian 8 header.timestamp.toNat ++ (bigEndian 8 header.messageId.toNat ++
        (bigEndian 8 header.correlationId.toNat ++ (bigEndian 4 header.bodyLength.toNat ++
          (bigEndian 4 header.checksum.toNat ++ header.reserved.val))))))))

def readNetworkHeader (bytes : List UInt8) : Option MessageHeader :=
  if long : headerSize ≤ bytes.length then
    some {
      magic := UInt32.ofNat (readField bytes 0 4)
      version := UInt32.ofNat (readField bytes 4 4)
      type := UInt32.ofNat (readField bytes 8 4)
      flags := UInt32.ofNat (readField bytes 12 4)
      timestamp := UInt64.ofNat (readField bytes 16 8)
      messageId := UInt64.ofNat (readField bytes 24 8)
      correlationId := UInt64.ofNat (readField bytes 32 8)
      bodyLength := UInt32.ofNat (readField bytes 40 4)
      checksum := UInt32.ofNat (readField bytes 44 4)
      reserved := ⟨(bytes.drop 48).take 16, by
        simp only [headerSize] at long
        simp only [List.length_take, List.length_drop]
        omega⟩ }
  else none

theorem writeNetworkHeader_length (header : MessageHeader) :
    (writeNetworkHeader header).length = headerSize := by
  simp [writeNetworkHeader, header.reserved.property, headerSize]

/-- A codec in network order with a CRC-32. -/
def networkCodec : HeaderCodec where
  serializeMessageHeader := writeNetworkHeader
  deserializeMessageHeader := readNetworkHeader
  calculateMessageChecksum := crc32
  serialize_length := writeNetworkHeader_length

end SecureChat.Protocol
