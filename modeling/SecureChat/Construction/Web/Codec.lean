/-
This file holds the header codec and the checksum of the browser client,
and the user record of the protocol: the packed struct of the server and the codec of the client.
-/

import SecureChat.Library.ByteOrder
import SecureChat.Library.Doubles

namespace SecureChat.Web
open Library Library.JsNumber

def protocolMagic : Int := 0x53435400
def protocolVersion : Int := bitOr (bitOr (shiftLeft 3 16) (shiftLeft 0 8)) 0

/-- The fields are numbers and big integers, which have no width of their own. -/
structure MessageHeader where
  magic : Int
  version : Int
  type : Int
  flags : Int
  timestamp : Int
  messageId : Int
  correlationId : Int
  bodyLength : Int
  checksum : Int
  deriving DecidableEq, Repr

namespace ProtocolCodec

def headerSize : Nat := 64

def serializeHeader (header : MessageHeader) : Option (List UInt8) := do
  let view ← setUint 4 0 header.magic (List.replicate headerSize 0)
  let view ← setUint 4 4 header.version view
  let view ← setUint 4 8 header.type view
  let view ← setUint 4 12 header.flags view
  let view ← setUint 8 16 header.timestamp view
  let view ← setUint 8 24 header.messageId view
  let view ← setUint 8 32 header.correlationId view
  let view ← setUint 4 40 header.bodyLength view
  let view ← setUint 4 44 header.checksum view
  -- The reserved bytes are cleared.
  (List.range (headerSize - 48)).foldlM (fun view index => setUint 1 (48 + index) 0 view) view

def deserializeHeader (buffer : List UInt8) : Option MessageHeader :=
  if buffer.length < headerSize then none
  else do
    let magic ← getUint 4 0 buffer
    let version ← getUint 4 4 buffer
    let type ← getUint 4 8 buffer
    let flags ← getUint 4 12 buffer
    let timestamp ← getUint 8 16 buffer
    let messageId ← getUint 8 24 buffer
    let correlationId ← getUint 8 32 buffer
    let bodyLength ← getUint 4 40 buffer
    let checksum ← getUint 4 44 buffer
    some ⟨magic, version, type, flags, timestamp, messageId, correlationId, bodyLength, checksum⟩

def validateHeader (header : MessageHeader) : Bool :=
  if header.magic ≠ protocolMagic then false
  else if header.version ≠ protocolVersion then false
  else true

/-- One bit of the loop in `calculateChecksum`. -/
def checksumBit (crc : Int) : Int :=
  bitXor (shiftRightUnsigned crc 1) (if bitAnd crc 1 ≠ 0 then 0xEDB88320 else 0)

def checksumByte (crc : Int) (byte : UInt8) : Int :=
  (List.range 8).foldl (fun crc _ => checksumBit crc) (bitXor crc byte.toNat)

def calculateChecksum (data : List UInt8) : Int := bitXor (data.foldl checksumByte 0xFFFFFFFF) 0xFFFFFFFF

/-- The nine fields of a header. -/
def headerFields (header : MessageHeader) : List (List UInt8) :=
  [uintBytes 4 header.magic, uintBytes 4 header.version, uintBytes 4 header.type, uintBytes 4 header.flags,
    uintBytes 8 header.timestamp, uintBytes 8 header.messageId, uintBytes 8 header.correlationId,
    uintBytes 4 header.bodyLength, uintBytes 4 header.checksum]

/-- The bytes of a header. -/
def headerBytes (header : MessageHeader) : List UInt8 :=
  (headerFields header).flatten ++ List.replicate 16 0

theorem headerFields_length (header : MessageHeader) : (headerFields header).flatten.length = 48 := by
  simp [headerFields]

theorem headerBytes_length (header : MessageHeader) : (headerBytes header).length = 64 := by
  rw [headerBytes, List.length_append, headerFields_length, List.length_replicate]

/-- Writing a header never leaves its buffer. -/
theorem serializeHeader_eq (header : MessageHeader) : serializeHeader header = some (headerBytes header) := by
  have chain : serializeHeader header =
      writeFields 0 (headerFields header ++ List.replicate 16 [0]) (List.replicate 64 0) := by
    simp only [serializeHeader, headerFields, List.cons_append, List.nil_append, writeFields, setUint,
      uintBytes_length, Option.bind_eq_bind, Nat.zero_add, Nat.reduceAdd]
    rfl
  have zeros : (List.replicate 16 [(0 : UInt8)]).flatten = List.replicate 16 0 := rfl
  rw [chain, writeFields_zero, List.flatten_append, zeros]
  · rw [List.length_append, headerFields_length, List.length_replicate, headerBytes, Nat.sub_self,
      List.replicate_zero, List.append_nil]
  · rw [List.flatten_append, zeros, List.length_append, headerFields_length, List.length_replicate]

end ProtocolCodec

end SecureChat.Web

namespace SecureChat.Protocol
open Library

/-- The packed `user_info_t`. -/
structure UserInfo where
  userId : UInt64
  username : { bytes : List UInt8 // bytes.length = 64 }
  nickname : { bytes : List UInt8 // bytes.length = 64 }
  email : { bytes : List UInt8 // bytes.length = 128 }
  avatarId : UInt32
  status : UInt32
  statusMessage : { bytes : List UInt8 // bytes.length = 128 }
  lastSeen : UInt64
  friendCount : UInt32
  groupCount : UInt32
  isVerified : UInt8
  isPremium : UInt8
  createdAt : UInt64
  deriving DecidableEq

/-- The text in a character array, up to its first zero. -/
def cString (bytes : List UInt8) : List UInt8 := bytes.takeWhile (· ≠ 0)

/-- The fields of the struct with its integers in network order. -/
def UserInfo.fields (record : UserInfo) : List (List UInt8) :=
  [bigEndian 8 record.userId.toNat, record.username.val, record.nickname.val, record.email.val,
    bigEndian 4 record.avatarId.toNat, bigEndian 4 record.status.toNat, record.statusMessage.val,
    bigEndian 8 record.lastSeen.toNat, bigEndian 4 record.friendCount.toNat,
    bigEndian 4 record.groupCount.toNat, [record.isVerified], [record.isPremium],
    bigEndian 8 record.createdAt.toNat]

def UserInfo.image (record : UserInfo) : List UInt8 := record.fields.flatten

end SecureChat.Protocol

namespace SecureChat.Web
open Library

/-- The strings are left open, with the encoder and the decoder of the platform. -/
structure UserInfo (Text : Type) where
  userId : Int
  username : Text
  nickname : Text
  email : Text
  avatarId : Int
  status : Int
  statusMessage : Text
  lastSeen : Int
  friendCount : Int
  groupCount : Int
  isVerified : Bool
  isPremium : Bool
  createdAt : Int
  deriving DecidableEq

namespace ProtocolCodec

variable {Text : Type} (encode : Text → List UInt8) (decode : List UInt8 → Text)

/-- A string in a field of fixed size is cut to leave place for its zero. -/
def serializeString (str : Text) (maxLength : Nat) : List UInt8 :=
  let encoded := encode str
  let length := min encoded.length (maxLength - 1)
  encoded.take length ++ List.replicate (maxLength - length) 0

def deserializeString (buffer : List UInt8) (maxLength : Nat) : Text :=
  decode ((buffer.take maxLength).takeWhile (· ≠ 0))

def serializeUserInfo (info : UserInfo Text) : Option (List UInt8) := do
  let offset := 0
  let view ← setUint 8 offset info.userId (List.replicate 512 0)
  let offset := offset + 8
  let view ← setBytes offset (serializeString encode info.username 64) view
  let offset := offset + 64
  let view ← setBytes offset (serializeString encode info.nickname 64) view
  let offset := offset + 64
  let view ← setBytes offset (serializeString encode info.email 128) view
  let offset := offset + 128
  let view ← setUint 4 offset info.avatarId view
  let offset := offset + 4
  let view ← setUint 1 offset info.status view
  let offset := offset + 1
  let view ← setBytes offset (serializeString encode info.statusMessage 128) view
  let offset := offset + 128
  let view ← setUint 8 offset info.lastSeen view
  let offset := offset + 8
  let view ← setUint 4 offset info.friendCount view
  let offset := offset + 4
  let view ← setUint 4 offset info.groupCount view
  let offset := offset + 4
  let view ← setUint 1 offset (if info.isVerified then 1 else 0) view
  let offset := offset + 1
  let view ← setUint 1 offset (if info.isPremium then 1 else 0) view
  let offset := offset + 1
  let view ← setUint 8 offset info.createdAt view
  let offset := offset + 8
  some (sliceBytes 0 offset view)

def deserializeUserInfo (buffer : List UInt8) : Option (UserInfo Text) := do
  let offset := 0
  let userId ← getUint 8 offset buffer
  let offset := offset + 8
  let username := deserializeString decode (sliceBytes offset (offset + 64) buffer) 64
  let offset := offset + 64
  let nickname := deserializeString decode (sliceBytes offset (offset + 64) buffer) 64
  let offset := offset + 64
  let email := deserializeString decode (sliceBytes offset (offset + 128) buffer) 128
  let offset := offset + 128
  let avatarId ← getUint 4 offset buffer
  let offset := offset + 4
  let status ← getUint 1 offset buffer
  let offset := offset + 1
  let statusMessage := deserializeString decode (sliceBytes offset (offset + 128) buffer) 128
  let offset := offset + 128
  let lastSeen ← getUint 8 offset buffer
  let offset := offset + 8
  let friendCount ← getUint 4 offset buffer
  let offset := offset + 4
  let groupCount ← getUint 4 offset buffer
  let offset := offset + 4
  let isVerified ← getUint 1 offset buffer
  let offset := offset + 1
  let isPremium ← getUint 1 offset buffer
  let offset := offset + 1
  let createdAt ← getUint 8 offset buffer
  some ⟨userId, username, nickname, email, avatarId, status, statusMessage, lastSeen, friendCount,
    groupCount, isVerified ≠ 0, isPremium ≠ 0, createdAt⟩

/-- The fields that the browser writes, one behind the other. -/
def userFields (info : UserInfo Text) : List (List UInt8) :=
  [uintBytes 8 info.userId, serializeString encode info.username 64,
    serializeString encode info.nickname 64, serializeString encode info.email 128,
    uintBytes 4 info.avatarId, uintBytes 1 info.status, serializeString encode info.statusMessage 128,
    uintBytes 8 info.lastSeen, uintBytes 4 info.friendCount, uintBytes 4 info.groupCount,
    uintBytes 1 (if info.isVerified then 1 else 0), uintBytes 1 (if info.isPremium then 1 else 0),
    uintBytes 8 info.createdAt]

@[simp] theorem serializeString_length (str : Text) (maxLength : Nat) :
    (serializeString encode str maxLength).length = maxLength := by
  rw [serializeString]
  simp only [List.length_append, List.length_take, List.length_replicate]
  omega

theorem userFields_length (info : UserInfo Text) : (userFields encode info).flatten.length = 423 := by
  simp [userFields]

/-- Writing a user record never leaves its buffer. -/
theorem serializeUserInfo_eq (info : UserInfo Text) :
    serializeUserInfo encode info = some (userFields encode info).flatten := by
  have chain : serializeUserInfo encode info =
      (writeFields 0 (userFields encode info) (List.replicate 512 0)).bind
        fun view => some (sliceBytes 0 423 view) := by
    simp only [serializeUserInfo, userFields, writeFields, setUint, uintBytes_length,
      serializeString_length, Option.bind_assoc, Option.bind_some, Option.bind_eq_bind, Nat.zero_add,
      Nat.reduceAdd]
  have size := userFields_length encode info
  rw [chain, writeFields_zero _ _ (by omega), Option.bind_some, size, sliceBytes, List.drop_zero,
    Nat.sub_zero, List.take_left' size]

end ProtocolCodec

end SecureChat.Web
