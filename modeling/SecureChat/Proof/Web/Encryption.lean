import SecureChat.Construction.Web.Encryption

namespace SecureChat.Web
open Library

variable {Key : Type} (aes : AesGcm Key)

@[simp] theorem Uint8Array.bytes_whole (buffer : List UInt8) : (Uint8Array.whole buffer).bytes = buffer := by
  simp [Uint8Array.whole, Uint8Array.bytes]

/-- A buffer is read back from its text. -/
@[simp] theorem base64ToArrayBuffer_encode (buffer : List UInt8) :
    base64ToArrayBuffer (arrayBufferToBase64 buffer) = .ok buffer := by
  rw [base64ToArrayBuffer, arrayBufferToBase64, Uint8Array.bytes_whole, Base64.decode_encode]

/-- The parts are joined to the encrypted buffer twice. -/
theorem decryptParts_encryptParts (key : Key) (iv data : List UInt8) :
    decryptParts aes key (encryptParts aes key iv data) =
      match aes.decrypt key iv (aes.encrypt key iv data ++ aes.encrypt key iv data) with
      | none => .error "OperationError"
      | some decrypted => .ok decrypted := by
  simp only [decryptParts, encryptParts, base64ToArrayBuffer_encode, bind, Except.bind, Uint8Array.bytes_whole]
  rfl

variable {aes} {key : Key} {iv data decrypted : List UInt8}

/-- Data that are opened at all are longer than twice the data that were encrypted. -/
theorem length_decrypted (opened : decryptParts aes key (encryptParts aes key iv data) = .ok decrypted) :
    decrypted.length = 2 * data.length + 16 := by
  rw [decryptParts_encryptParts] at opened
  split at opened
  · cases opened
  · rename_i found
    cases opened
    have same := congrArg List.length ((aes.decrypt_eq_some _ _ _ _).mp found)
    rw [List.length_append, aes.length_encrypt, aes.length_encrypt] at same
    omega

/-- They are not read as the text that was encrypted. -/
theorem textDecode_decrypted {text : List UInt16}
    (opened : decryptParts aes key (encryptParts aes key iv (JsText.textEncode text)) = .ok decrypted) :
    JsText.textDecode decrypted ≠ text := by
  intro same
  have long := length_decrypted opened
  have short := JsText.length_textDecode_le decrypted
  rw [same] at short
  omega

/-- A message that says nothing of its kind never comes back. -/
theorem decodeMessage_decrypted {message : MessageContent}
    (opened : decryptParts aes key (encryptParts aes key iv message.data) = .ok decrypted) :
    decodeMessage none decrypted ≠ message := by
  cases message with
  | text units =>
      intro same
      exact textDecode_decrypted opened (MessageContent.text.inj same)
  | buffer bytes => exact MessageContent.noConfusion

/-- The manager reads the parts of its own messages with the key. -/
theorem manager_decrypts (encryptionKey : MessageEncryptionKey Key) (iv : List UInt8) (now : Nat)
    (message : MessageContent) (receiverId : Int) (groupId : Option Int) :
    MessageEncryptionManager.decryptWithKey aes (some encryptionKey)
        (MessageEncryptionManager.encryptWithKey aes encryptionKey iv now message receiverId groupId) =
      (decryptParts aes encryptionKey.keyData (encryptParts aes encryptionKey.keyData iv message.data)).map
        (decodeMessage none) := by
  unfold MessageEncryptionManager.decryptWithKey
  simp only [MessageEncryptionManager.encryptWithKey]
  cases decryptParts aes encryptionKey.keyData (encryptParts aes encryptionKey.keyData iv message.data) <;> rfl

theorem service_decrypts (groupKey : Key) (iv : List UInt8) (now : Nat) (groupId : Int) (keyVersion : Nat)
    (message : MessageContent) :
    (GroupEncryptionService.encryptWithKey aes (some groupKey) iv now groupId keyVersion message >>=
        GroupEncryptionService.decryptWithKey aes (some groupKey)) =
      (decryptParts aes groupKey (encryptParts aes groupKey iv message.data)).map (decodeMessage none) := by
  simp only [GroupEncryptionService.encryptWithKey, bind, Except.bind,
    GroupEncryptionService.decryptWithKey]
  cases decryptParts aes groupKey (encryptParts aes groupKey iv message.data) <;> rfl

theorem endToEnd_decrypts (key : Key) (iv : List UInt8) (now : Nat) (message : List UInt16) :
    EndToEndEncryption.decryptMessage aes key (EndToEndEncryption.encryptMessage aes key iv now message) =
      (decryptParts aes key (encryptParts aes key iv (JsText.textEncode message))).map JsText.textDecode := by
  simp only [EndToEndEncryption.decryptMessage, EndToEndEncryption.encryptMessage]
  cases decryptParts aes key (encryptParts aes key iv (JsText.textEncode message)) <;> rfl

theorem map_ne_ok {Content : Type} {parts : Except String (List UInt8)} {read : List UInt8 → Content}
    {message : Content} (other : ∀ decrypted, parts = .ok decrypted → read decrypted ≠ message) :
    parts.map read ≠ .ok message := by
  intro same
  cases parts with
  | error reason => cases same
  | ok decrypted => exact other decrypted rfl (Except.ok.inj same)

/-- No class gives a message back. -/
theorem roundTrip_never (aes : AesGcm Key) :
    (∀ encryptionKey iv now message receiverId groupId,
      MessageEncryptionManager.decryptWithKey aes (some encryptionKey)
        (MessageEncryptionManager.encryptWithKey aes encryptionKey iv now message receiverId groupId) ≠
          .ok message) ∧
    (∀ groupKey iv now groupId keyVersion message,
      (GroupEncryptionService.encryptWithKey aes (some groupKey) iv now groupId keyVersion message >>=
        GroupEncryptionService.decryptWithKey aes (some groupKey)) ≠ .ok message) ∧
    ∀ key iv now message,
      EndToEndEncryption.decryptMessage aes key (EndToEndEncryption.encryptMessage aes key iv now message) ≠
        .ok message := by
  refine ⟨?_, ?_, ?_⟩
  · intro encryptionKey iv now message receiverId groupId
    rw [manager_decrypts]
    exact map_ne_ok fun decrypted opened => decodeMessage_decrypted opened
  · intro groupKey iv now groupId keyVersion message
    rw [service_decrypts]
    exact map_ne_ok fun decrypted opened => decodeMessage_decrypted opened
  · intro key iv now message
    rw [endToEnd_decrypts]
    exact map_ne_ok fun decrypted opened => textDecode_decrypted opened

/-- A cipher with the lengths of AES-GCM, whose tag depends on the length of the data. -/
def sampleEncrypt (key : UInt8) (data : List UInt8) : List UInt8 :=
  data.map (· ^^^ key) ++ List.replicate 16 (UInt8.ofNat data.length)

def sampleDecrypt (key : UInt8) (encrypted : List UInt8) : Option (List UInt8) :=
  let data := (encrypted.take (encrypted.length - 16)).map (· ^^^ key)
  if encrypted = sampleEncrypt key data then some data else none

theorem sampleDecrypt_eq_some (key : UInt8) (encrypted data : List UInt8) :
    sampleDecrypt key encrypted = some data ↔ encrypted = sampleEncrypt key data := by
  constructor
  · intro opened
    rw [sampleDecrypt] at opened
    split at opened
    · rename_i whole
      rw [Option.some.inj opened] at whole
      exact whole
    · cases opened
  · rintro rfl
    have twice : ((· ^^^ key) ∘ (· ^^^ key) : UInt8 → UInt8) = id := by
      funext byte
      simp [UInt8.xor_assoc]
    have back : ((sampleEncrypt key data).take ((sampleEncrypt key data).length - 16)).map (· ^^^ key) = data := by
      simp [sampleEncrypt, twice]
    rw [sampleDecrypt, back, if_pos rfl]

/-- The cipher of one byte of the key. -/
def sampleGcm (byte : Key → UInt8) : AesGcm Key where
  encrypt key _ data := sampleEncrypt (byte key) data
  decrypt key _ encrypted := sampleDecrypt (byte key) encrypted
  length_encrypt key _ data := by simp [sampleEncrypt]
  decrypt_eq_some key _ encrypted data := sampleDecrypt_eq_some (byte key) encrypted data

/-- A text of two letters is refused by all three classes. -/
theorem roundTrip_letters_fails :
    MessageEncryptionManager.decryptWithKey (sampleGcm id) (some ⟨"key_1_a", 7, 0, 10, [2], none⟩)
        (MessageEncryptionManager.encryptWithKey (sampleGcm id) ⟨"key_1_a", 7, 0, 10, [2], none⟩ (List.replicate 12 3) 5
          (.text [104, 105]) 2 none) ≠ .ok (.text [104, 105]) ∧
      (GroupEncryptionService.encryptWithKey (sampleGcm id) (some (7 : UInt8)) (List.replicate 12 3) 5 1 1
          (.text [104, 105]) >>=
        GroupEncryptionService.decryptWithKey (sampleGcm id) (some (7 : UInt8))) ≠ .ok (.text [104, 105]) ∧
      EndToEndEncryption.decryptMessage (sampleGcm id) 7
        (EndToEndEncryption.encryptMessage (sampleGcm id) 7 (List.replicate 12 3) 5 [104, 105]) ≠ .ok [104, 105] := by
  decide +kernel

end SecureChat.Web

namespace SecureChat.Web.SecurityManager
open Library

variable {Private Public Key : Type} (crypto : SubtleCrypto Private Public Key)

/-- Both ends derive one key exactly if they drew the same salt. -/
theorem deriveKeyForUser_eq_iff (sender receiver : SecurityManager Private Key) (salt salt' : Vector UInt8 16) :
    deriveKeyForUser crypto sender (crypto.publicKey receiver.privateKey) salt =
        deriveKeyForUser crypto receiver (crypto.publicKey sender.privateKey) salt' ↔ salt = salt' := by
  rw [deriveKeyForUser, deriveKeyForUser, deriveEncryptionKey, deriveEncryptionKey, Option.getD_none, Option.getD_none,
    crypto.deriveBits_comm receiver.privateKey]
  constructor
  · intro same
    exact (crypto.deriveKey_injective _ _ _ _ same).2
  · rintro rfl
    rfl

/-- What the receiver reads, from what the key of the receiver opens. -/
theorem decrypt_encrypt (sender receiver : SecurityManager Private Key) (message : List UInt16)
    (salt salt' : Vector UInt8 16) (iv : Vector UInt8 ivLength) (opened : Option (List UInt8))
    (decrypted : crypto.decrypt (deriveKeyForUser crypto receiver (crypto.publicKey sender.privateKey) salt') iv.toList
      (crypto.encrypt (deriveKeyForUser crypto sender (crypto.publicKey receiver.privateKey) salt) iv.toList
        (JsText.textEncode message)) = opened) :
    (encryptMessage crypto sender message (some (crypto.publicKey receiver.privateKey)) salt iv >>= fun encrypted =>
        decryptMessage crypto receiver encrypted (some (crypto.publicKey sender.privateKey)) salt') =
      opened.elim (.error "解密失败: OperationError") fun data => .ok (JsText.textDecode data) := by
  have front : ∀ rest : List UInt8, (iv.toList ++ rest).take ivLength = iv.toList := by
    intro rest
    rw [List.take_append_of_le_length (by simp), List.take_of_length_le (by simp)]
  have back : ∀ rest : List UInt8, (iv.toList ++ rest).drop ivLength = rest := by
    intro rest
    rw [List.drop_append_of_le_length (by simp), List.drop_of_length_le (by simp), List.nil_append]
  simp only [encryptMessage, decryptMessage, messageKey, bind, Except.bind, base64ToArrayBuffer_encode, front, back,
    decrypted]
  cases opened <;> rfl

/-- A message comes back exactly if both ends drew the same salt and the text survives its bytes. -/
theorem roundTrip_iff (sender receiver : SecurityManager Private Key) (message : List UInt16)
    (salt salt' : Vector UInt8 16) (iv : Vector UInt8 ivLength) :
    (encryptMessage crypto sender message (some (crypto.publicKey receiver.privateKey)) salt iv >>= fun encrypted =>
        decryptMessage crypto receiver encrypted (some (crypto.publicKey sender.privateKey)) salt') = .ok message ↔
      salt = salt' ∧ JsText.isWellFormed message = true ∧ message.head? ≠ some 0xFEFF := by
  rw [← JsText.textDecode_textEncode]
  have keys := deriveKeyForUser_eq_iff crypto sender receiver salt salt'
  by_cases same : salt = salt'
  · rw [decrypt_encrypt crypto sender receiver message salt salt' iv (some (JsText.textEncode message))
      (keys.mpr same ▸ crypto.decrypt_own _ _ _)]
    simp [same]
  · rw [decrypt_encrypt crypto sender receiver message salt salt' iv none
      (crypto.decrypt_foreign _ _ _ _ (mt keys.mp same))]
    simp [same]

/-- A crypto suite whose ciphertexts begin with their key. -/
def sampleCrypto : SubtleCrypto UInt8 UInt8 (Vector UInt8 32 × Vector UInt8 16) where
  publicKey := id
  deriveBits first second := Vector.replicate 32 (first + second)
  deriveBits_comm first second := by rw [id, id, UInt8.add_comm]
  deriveKey secret salt := (secret, salt)
  deriveKey_injective _ _ _ _ same := Prod.mk.inj same
  encrypt key _ data := key.1.toList ++ key.2.toList ++ data
  decrypt key _ encrypted :=
    if encrypted.take 48 = key.1.toList ++ key.2.toList then some (encrypted.drop 48) else none
  decrypt_own key _ data := by
    have size : (key.1.toList ++ key.2.toList).length = 48 := by simp
    rw [if_pos (List.take_left' size), List.drop_left' size]
  decrypt_foreign key key' _ data other := by
    have size : (key.1.toList ++ key.2.toList).length = 48 := by simp
    rw [List.take_left' size, if_neg]
    intro same
    obtain ⟨first, second⟩ := List.append_inj same (by simp)
    exact other (Prod.ext (Vector.toList_inj.mp first) (Vector.toList_inj.mp second))

/-- Two letters do not reach a receiver who draws another salt. -/
theorem roundTrip_salts_fails :
    (encryptMessage sampleCrypto ⟨3, none⟩ [104, 105] (some (sampleCrypto.publicKey 5)) (Vector.replicate 16 1)
        (Vector.replicate ivLength 9) >>= fun encrypted =>
      decryptMessage sampleCrypto ⟨5, none⟩ encrypted (some (sampleCrypto.publicKey 3)) (Vector.replicate 16 2)) ≠
        .ok [104, 105] := by
  decide +kernel

end SecureChat.Web.SecurityManager
