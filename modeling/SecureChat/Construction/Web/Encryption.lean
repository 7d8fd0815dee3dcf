/-
This file encrypts and decrypts the messages of the browser client, holds the secrecy layer between two users,
and codes the secrets of the second factor.
-/

import SecureChat.Library.Base64
import SecureChat.Library.JsText
import SecureChat.Library.Search

namespace SecureChat.Web
open Library

/-- AES-GCM of the browser. A tag of 16 bytes follows the ciphertext, and nothing else is opened. -/
structure AesGcm (Key : Type) where
  encrypt : Key → List UInt8 → List UInt8 → List UInt8
  decrypt : Key → List UInt8 → List UInt8 → Option (List UInt8)
  length_encrypt : ∀ key iv data, (encrypt key iv data).length = data.length + 16
  decrypt_eq_some : ∀ key iv encrypted data,
    decrypt key iv encrypted = some data ↔ encrypted = encrypt key iv data

/-- A view of some bytes of a buffer. -/
structure Uint8Array where
  buffer : List UInt8
  byteOffset : Nat
  length : Nat
  deriving DecidableEq, Repr

/-- The view of a whole buffer. -/
def Uint8Array.whole (buffer : List UInt8) : Uint8Array := ⟨buffer, 0, buffer.length⟩

def Uint8Array.bytes (array : Uint8Array) : List UInt8 := (array.buffer.drop array.byteOffset).take array.length

inductive MessageContent where
  | text (units : List UInt16)
  | buffer (bytes : List UInt8)
  deriving DecidableEq, Repr

/-- The buffer that is encrypted. -/
def MessageContent.data : MessageContent → List UInt8
  | .text units => (Uint8Array.whole (JsText.textEncode units)).buffer
  | .buffer bytes => bytes

def arrayBufferToBase64 (buffer : List UInt8) : List Char := Base64.encode (Uint8Array.whole buffer).bytes

def base64ToArrayBuffer (base64 : List Char) : Except String (List UInt8) :=
  match Base64.decode base64 with
  | none => .error "InvalidCharacterError"
  | some bytes => .ok bytes

def encryptionVersion : Nat := 1
def encryptionAlgorithm : String := "AES-GCM"
def tagSize : Nat := 16

/-- The texts that the three classes put into their messages. -/
structure EncodedParts where
  iv : List Char
  ciphertext : List Char
  tag : List Char
  deriving DecidableEq, Repr

variable {Key : Type} (aes : AesGcm Key)

/-- The ciphertext and the tag are views of the same buffer. -/
def encryptParts (key : Key) (iv data : List UInt8) : EncodedParts :=
  let encrypted := aes.encrypt key iv data
  let ciphertext : Uint8Array := ⟨encrypted, 0, encrypted.length - tagSize⟩
  let tag : Uint8Array := ⟨encrypted, encrypted.length - tagSize, tagSize⟩
  { iv := arrayBufferToBase64 (Uint8Array.whole iv).buffer
    ciphertext := arrayBufferToBase64 ciphertext.buffer
    tag := arrayBufferToBase64 tag.buffer }

/-- The parts are joined again and opened. -/
def decryptParts (key : Key) (parts : EncodedParts) : Except String (List UInt8) := do
  let iv ← base64ToArrayBuffer parts.iv
  let ciphertext ← base64ToArrayBuffer parts.ciphertext
  let tag ← base64ToArrayBuffer parts.tag
  let combined := (Uint8Array.whole ciphertext).bytes ++ (Uint8Array.whole tag).bytes
  match aes.decrypt key iv combined with
  | none => .error "OperationError"
  | some decrypted => .ok decrypted

/-- What is returned is text, unless the metadata deny it. -/
def decodeMessage (isText : Option Bool) (decrypted : List UInt8) : MessageContent :=
  if isText ≠ some false then .text (JsText.textDecode decrypted) else .buffer decrypted

structure MessageEncryptionKey (Key : Type) where
  keyId : String
  keyData : Key
  createdAt : Nat
  expiresAt : Nat
  userIds : List Int
  groupId : Option Int
  deriving DecidableEq

structure MessageMetadata where
  receiverId : String
  groupId : Option String
  isText : Option Bool
  deriving DecidableEq, Repr

structure EncryptedMessageData where
  version : Nat
  algorithm : String
  parts : EncodedParts
  keyId : Option String
  timestamp : Nat
  metadata : Option MessageMetadata
  deriving DecidableEq, Repr

namespace MessageEncryptionManager

/-- `encryptMessage` with the key that was found for it. -/
def encryptWithKey (encryptionKey : MessageEncryptionKey Key) (iv : List UInt8) (now : Nat) (message : MessageContent)
    (receiverId : Int) (groupId : Option Int) : EncryptedMessageData where
  version := encryptionVersion
  algorithm := encryptionAlgorithm
  parts := encryptParts aes encryptionKey.keyData iv message.data
  keyId := some encryptionKey.keyId
  timestamp := now
  metadata := some ⟨toString receiverId, groupId.map toString, none⟩

/-- The checks of `decryptMessage` before it looks for a key. -/
def checkFormat (encryptedData : EncryptedMessageData) : Except String Unit :=
  if encryptedData.version ≠ encryptionVersion then
    .error s!"Unsupported encryption version: {encryptedData.version}"
  else if encryptedData.algorithm ≠ encryptionAlgorithm then
    .error s!"Unsupported encryption algorithm: {encryptedData.algorithm}"
  else .ok ()

/-- `decryptMessage` with the key that was found for the identifier of the message. -/
def decryptWithKey (encryptionKey : Option (MessageEncryptionKey Key)) (encryptedData : EncryptedMessageData) :
    Except String MessageContent := do
  checkFormat encryptedData
  match encryptionKey with
  | none =>
      let keyId := encryptedData.keyId.getD "undefined"
      throw s!"Encryption key not found: {keyId}"
  | some encryptionKey =>
      let decrypted ← decryptParts aes encryptionKey.keyData encryptedData.parts
      return decodeMessage (encryptedData.metadata.bind (·.isText)) decrypted

end MessageEncryptionManager

structure GroupMessageMetadata where
  timestamp : Nat
  algorithm : String
  isText : Option Bool
  deriving DecidableEq, Repr

structure EncryptedGroupMessage where
  version : Nat
  groupId : Int
  keyVersion : Nat
  keyId : String
  parts : EncodedParts
  metadata : Option GroupMessageMetadata
  deriving DecidableEq, Repr

namespace GroupEncryptionService

/-- `encryptGroupMessage` with the key that was found for the group and the version. -/
def encryptWithKey (groupKey : Option Key) (iv : List UInt8) (now : Nat) (groupId : Int) (keyVersion : Nat)
    (message : MessageContent) : Except String EncryptedGroupMessage :=
  match groupKey with
  | none => .error s!"群组密钥不存在: {groupId} v{keyVersion}"
  | some groupKey => .ok
      { version := 1
        groupId := groupId
        keyVersion := keyVersion
        keyId := s!"group_{groupId}_v{keyVersion}"
        parts := encryptParts aes groupKey iv message.data
        metadata := some ⟨now, "AES-GCM-256", none⟩ }

def decryptWithKey (groupKey : Option Key) (encryptedMessage : EncryptedGroupMessage) :
    Except String MessageContent :=
  match groupKey with
  | none => .error s!"群组密钥不存在: {encryptedMessage.groupId} v{encryptedMessage.keyVersion}"
  | some groupKey => do
      let decrypted ← decryptParts aes groupKey encryptedMessage.parts
      return decodeMessage (encryptedMessage.metadata.bind (·.isText)) decrypted

end GroupEncryptionService

structure EncryptedMessage where
  parts : EncodedParts
  timestamp : Nat
  deriving DecidableEq, Repr

namespace EndToEndEncryption

def encryptMessage (key : Key) (iv : List UInt8) (now : Nat) (message : List UInt16) : EncryptedMessage :=
  ⟨encryptParts aes key iv (JsText.textEncode message), now⟩

def decryptMessage (key : Key) (encrypted : EncryptedMessage) : Except String (List UInt16) := do
  let decrypted ← decryptParts aes key encrypted.parts
  return JsText.textDecode decrypted

end EndToEndEncryption

end SecureChat.Web

namespace SecureChat.Web
open Library

/-- What the layer calls in the browser. Both ends of a key agreement have the same secret, different secrets or
salts have different keys, and data are opened with their own key only. -/
structure SubtleCrypto (Private Public Key : Type) where
  publicKey : Private → Public
  deriveBits : Private → Public → Vector UInt8 32
  deriveBits_comm : ∀ first second, deriveBits first (publicKey second) = deriveBits second (publicKey first)
  deriveKey : Vector UInt8 32 → Vector UInt8 16 → Key
  deriveKey_injective : ∀ secret secret' salt salt',
    deriveKey secret salt = deriveKey secret' salt' → secret = secret' ∧ salt = salt'
  encrypt : Key → List UInt8 → List UInt8 → List UInt8
  decrypt : Key → List UInt8 → List UInt8 → Option (List UInt8)
  decrypt_own : ∀ key iv data, decrypt key iv (encrypt key iv data) = some data
  decrypt_foreign : ∀ key key' iv data, key ≠ key' → decrypt key' iv (encrypt key iv data) = none

/-- The private key, and the default key that is there or is made when it is asked for. -/
structure SecurityManager (Private Key : Type) where
  privateKey : Private
  defaultEncryptionKey : Option Key

namespace SecurityManager

variable {Private Public Key : Type} (crypto : SubtleCrypto Private Public Key)

def ivLength : Nat := 12

/-- A salt is drawn if none is given. -/
def deriveEncryptionKey (sharedSecret : Vector UInt8 32) (salt : Option (Vector UInt8 16)) (random : Vector UInt8 16) :
    Key × Vector UInt8 16 :=
  let salt := salt.getD random
  (crypto.deriveKey sharedSecret salt, salt)

def deriveKeyForUser (manager : SecurityManager Private Key) (otherPublicKey : Public) (random : Vector UInt8 16) :
    Key :=
  let sharedSecret := crypto.deriveBits manager.privateKey otherPublicKey
  let derivedKey := deriveEncryptionKey crypto sharedSecret none random
  derivedKey.1

/-- The key of both directions. -/
def messageKey (manager : SecurityManager Private Key) (publicKey : Option Public) (random : Vector UInt8 16) :
    Option Key :=
  match publicKey with
  | some publicKey => some (deriveKeyForUser crypto manager publicKey random)
  | none => manager.defaultEncryptionKey

def encryptMessage (manager : SecurityManager Private Key) (message : List UInt16) (receiverPublicKey : Option Public)
    (random : Vector UInt8 16) (iv : Vector UInt8 ivLength) : Except String (List Char) :=
  match messageKey crypto manager receiverPublicKey random with
  | none => .error "加密失败: 没有可用的加密密钥"
  | some encryptionKey =>
      let encryptedData := crypto.encrypt encryptionKey iv.toList (JsText.textEncode message)
      .ok (arrayBufferToBase64 (iv.toList ++ encryptedData))

def decryptMessage (manager : SecurityManager Private Key) (encryptedMessage : List Char)
    (senderPublicKey : Option Public) (random : Vector UInt8 16) : Except String (List UInt16) :=
  match messageKey crypto manager senderPublicKey random with
  | none => .error "解密失败: 没有可用的解密密钥"
  | some decryptionKey =>
      match base64ToArrayBuffer encryptedMessage with
      | .error reason => .error s!"解密失败: {reason}"
      | .ok encryptedArray =>
          match crypto.decrypt decryptionKey (encryptedArray.take ivLength) (encryptedArray.drop ivLength) with
          | none => .error "解密失败: OperationError"
          | some decryptedData => .ok (JsText.textDecode decryptedData)

end SecurityManager

/-- What the platform makes of a character in upper case. Outside of ASCII this may be several characters. -/
structure UpperCase where
  toUpperCase : Char → List Char
  ascii : ∀ char : Char, char.toNat < 128 → toUpperCase char = [char.toUpper]

namespace TwoFactorAuth

def alphabet : List Char :=
  ['A', 'B', 'C', 'D', 'E', 'F', 'G', 'H', 'I', 'J', 'K', 'L', 'M', 'N', 'O', 'P',
    'Q', 'R', 'S', 'T', 'U', 'V', 'W', 'X', 'Y', 'Z', '2', '3', '4', '5', '6', '7']

def base32Char (digit : UInt32) : Char := alphabet.getD digit.toNat 'A'

/-- The loop `while (bits >= 5)`: the digits that it puts out, and the bits that are left. -/
def emitDigits (value : UInt32) : Nat → List UInt32 × Nat
  | bits + 5 =>
      let (digits, rest) := emitDigits value bits
      (((value >>> UInt32.ofNat bits) &&& 31) :: digits, rest)
  | bits => ([], bits)

/-- The accumulator is a 32-bit integer that loses its high bits. -/
def encodeFrom : List UInt8 → Nat → UInt32 → List UInt32
  | [], bits, value => if bits > 0 then [(value <<< UInt32.ofNat (5 - bits)) &&& 31] else []
  | byte :: rest, bits, value =>
      let value := (value <<< 8) ||| byte.toUInt32
      let (digits, bits) := emitDigits value (bits + 8)
      digits ++ encodeFrom rest bits value

def base32Encode (data : List UInt8) : List Char := (encodeFrom data 0 0).map base32Char

variable (platform : UpperCase)

/-- The position in the alphabet of what is one character in upper case. -/
def base32Index (char : Char) : Option Nat := firstOccurrence (platform.toUpperCase char) alphabet

def decodeFrom : List Char → Nat → UInt32 → List UInt8
  | [], _, _ => []
  | char :: rest, bits, value =>
      match base32Index platform char with
      | none => decodeFrom rest bits value
      | some index =>
          let value := (value <<< 5) ||| UInt32.ofNat index
          let bits := bits + 5
          if bits ≥ 8 then
            ((value >>> UInt32.ofNat (bits - 8)) &&& 255).toUInt8 :: decodeFrom rest (bits - 8) value
          else decodeFrom rest bits value

def base32Decode (input : List Char) : List UInt8 := decodeFrom platform input 0 0

end TwoFactorAuth

end SecureChat.Web
