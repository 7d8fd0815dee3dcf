import SecureChat.Construction.Web.TextMessages

namespace SecureChat.Web
open Library Library.JsNumber

/-- An unsigned integer of 64 bits that a number holds without rounding. -/
structure Exact (value : Int) : Prop where
  nonneg : 0 ≤ value
  fits : value < 2 ^ 64
  whole : 2 ^ excessBits 53 value.toNat ∣ value.toNat

/-- The server fills in the identifiers of the message and of its sender. -/
def fillIds (messageId senderId : Int) (data : List UInt8) : Option (List UInt8) :=
  (setUint 8 0 messageId data).bind (setUint 8 8 senderId)

/-- What was prepared comes back with the identifiers that were filled in. -/
def RoundTrips (message : OfflineMessage) (content : List UInt8) (replyToId messageId senderId : Int) : Prop :=
  ∃ data filled parsed, MessageSyncManager.prepareTextMessageData message content = some data ∧
    fillIds messageId senderId data = some filled ∧
    MessageSyncManager.parseIncomingMessage filled = some parsed ∧
    (parsed.replyToId : Int) = replyToId ∧
    MessageSyncManager.processIncomingMessage parsed = {
      messageId := messageId
      senderId := senderId
      receiverId := message.receiverId
      type := 0
      content := content
      encrypted := message.encrypted
      timestamp := parsed.timestamp } ∧
    (parsed.timestamp : Int) = message.timestamp

/-- Both encoders write the same bytes for a text that is not encrypted. -/
def EncodersAgree (receiverId now : Int) (text : List UInt8) : Prop :=
  ∃ data, SecureChatWebSocket.sendTextMessage receiverId text now = some data ∧
    MessageSyncManager.prepareTextMessageData ⟨receiverId, false, now⟩ text = some data

theorem fillIds_textFields (messageId senderId receiverId timestamp : Int) (encrypted : Bool)
    (content : List UInt8) :
    fillIds messageId senderId
        ((textFields 0 0 receiverId timestamp encrypted content.length).flatten ++ content) =
      some ((textFields messageId senderId receiverId timestamp encrypted content.length).flatten ++
        content) := by
  have size : ∀ first second, (uintBytes 8 first).length = (uintBytes 8 second).length := by
    intro first second
    rw [uintBytes_length, uintBytes_length]
  have first := setBytes_replace [] (uintBytes 8 0) (uintBytes 8 messageId)
    (((textFields 0 0 receiverId timestamp encrypted content.length).drop 1).flatten ++ content) 0 rfl
    (size _ _)
  have second := setBytes_replace (uintBytes 8 messageId) (uintBytes 8 0) (uintBytes 8 senderId)
    (((textFields 0 0 receiverId timestamp encrypted content.length).drop 2).flatten ++ content) 8
    (uintBytes_length _ _) (size _ _)
  simp only [textFields, List.flatten_cons, List.append_assoc, List.nil_append, List.drop_succ_cons,
    List.drop_zero] at first second ⊢
  rw [fillIds, setUint, first, Option.bind_some, setUint, second]

/-- What is read of a message with any identifiers. -/
theorem parseIncomingMessage_textFields (messageId senderId receiverId timestamp : Int) (encrypted : Bool)
    (content : List UInt8) :
    MessageSyncManager.parseIncomingMessage
        ((textFields messageId senderId receiverId timestamp encrypted content.length).flatten ++ content) =
      some {
        messageId := numberOfBigInt (messageId % 256 ^ 8).toNat
        senderId := numberOfBigInt (senderId % 256 ^ 8).toNat
        receiverId := numberOfBigInt (receiverId % 256 ^ 8).toNat
        timestamp := numberOfBigInt (timestamp % 256 ^ 8).toNat
        type := 0
        replyToId := 0
        encrypted := encrypted
        contentHash := (List.replicate 64 0).flatMap hexByte
        content := content.take (content.length % 256 ^ 4) } := by
  have size := textFields_length messageId senderId receiverId timestamp encrypted content.length
  have integer : ∀ index width offset value,
      (textFields messageId senderId receiverId timestamp encrypted content.length)[index]? =
        some (uintBytes width value) →
      ((textFields messageId senderId receiverId timestamp encrypted content.length).take
        index).flatten.length = offset →
      getUint width offset ((textFields messageId senderId receiverId timestamp encrypted
        content.length).flatten ++ content) = some (value % 256 ^ width).toNat := by
    intro index width offset value found start
    rw [getUint_flatten _ content index width offset _ found start (uintBytes_length _ _),
      ← bigEndianValue_uintBytes_mod, Int.toNat_natCast]
  have long : ¬ ((textFields messageId senderId receiverId timestamp encrypted
      content.length).flatten ++ content).length < 45 + 64 := by
    rw [List.length_append, size]
    omega
  have whole : sliceBytes 113 (113 + ((content.length : Int) % 256 ^ 4).toNat)
      ((textFields messageId senderId receiverId timestamp encrypted content.length).flatten ++ content) =
        content.take (content.length % 256 ^ 4) := by
    have length : ((content.length : Int) % 256 ^ 4).toNat = content.length % 256 ^ 4 := by omega
    rw [sliceBytes, List.drop_left' size, Nat.add_sub_cancel_left, length]
  have flag : ((if encrypted then 1 else 0 : Int) % 256 ^ 1).toNat = if encrypted then 1 else 0 := by
    cases encrypted <;> rfl
  have hash : sliceBytes 45 109 ((textFields messageId senderId receiverId timestamp encrypted
      content.length).flatten ++ content) = List.replicate 64 0 := by
    exact sliceBytes_flatten _ content 7 45 109 _ rfl rfl rfl
  simp only [MessageSyncManager.parseIncomingMessage, Nat.zero_add, Nat.reduceAdd,
    integer 0 8 0 messageId rfl rfl, integer 1 8 8 senderId rfl rfl, integer 2 8 16 receiverId rfl rfl,
    integer 3 8 24 timestamp rfl rfl, integer 4 4 32 0 rfl rfl, integer 5 8 36 0 rfl rfl,
    integer 6 1 44 _ rfl rfl, integer 8 4 109 _ rfl rfl, if_neg long, whole, hash, flag, Option.bind_eq_bind,
    Option.bind_some]
  cases encrypted <;> rfl

/-- An integer comes back out of 64 bits and a number exactly when it is exact. -/
theorem exact_iff (value : Int) :
    ((numberOfBigInt (value % 256 ^ 8).toNat : Nat) : Int) = value ↔ Exact value := by
  have wrapped : (256 : Int) ^ 8 = 2 ^ 64 := by decide
  rw [wrapped]
  constructor
  · intro same
    have small : (value % 2 ^ 64).toNat < 2 ^ 64 := by omega
    have places := excessBits_le 53 64 _ (by decide) small
    have unit : 2 ^ excessBits 53 (value % 2 ^ 64).toNat ≤ 2 ^ 11 :=
      Nat.pow_le_pow_right (by decide) places
    have near := roundToEven_le (excessBits 53 (value % 2 ^ 64).toNat) (value % 2 ^ 64).toNat
    rw [numberOfBigInt, roundNat] at same
    have inside : 0 ≤ value ∧ value < 2 ^ 64 := by omega
    rw [← roundNat, Int.emod_eq_of_lt inside.1 inside.2] at same
    refine ⟨inside.1, inside.2, (roundNat_eq_self_iff 53 _).mp ?_⟩
    omega
  · rintro ⟨nonneg, fits, whole⟩
    rw [Int.emod_eq_of_lt nonneg fits, numberOfBigInt, (roundNat_eq_self_iff 53 _).mpr whole,
      Int.toNat_of_nonneg nonneg]

/-- A message round-trips exactly when its identifiers and its time are exact,
it answers no other message, and the length of its content fits. -/
theorem roundTrips_iff (message : OfflineMessage) (content : List UInt8) (replyToId messageId senderId : Int) :
    RoundTrips message content replyToId messageId senderId ↔
      Exact messageId ∧ Exact senderId ∧ Exact message.receiverId ∧ Exact message.timestamp ∧
        replyToId = 0 ∧ content.length < 2 ^ 32 := by
  have prepared := MessageSyncManager.prepareTextMessageData_eq message content
  have filled := fillIds_textFields messageId senderId message.receiverId message.timestamp message.encrypted
    content
  have parsed := parseIncomingMessage_textFields messageId senderId message.receiverId message.timestamp
    message.encrypted content
  constructor
  · rintro ⟨data, stored, read, first, second, third, reply, processed, time⟩
    obtain rfl := Option.some.inj (prepared.symm.trans first)
    obtain rfl := Option.some.inj (filled.symm.trans second)
    obtain rfl := Option.some.inj (parsed.symm.trans third)
    rw [MessageSyncManager.processIncomingMessage, ReceivedMessage.mk.injEq] at processed
    obtain ⟨ofMessage, ofSender, ofReceiver, -, whole, -, -⟩ := processed
    refine ⟨(exact_iff _).mp ofMessage, (exact_iff _).mp ofSender, (exact_iff _).mp ofReceiver,
      (exact_iff _).mp time, reply.symm, ?_⟩
    have size := congrArg List.length whole
    rw [List.length_take] at size
    omega
  · rintro ⟨ofMessage, ofSender, ofReceiver, time, rfl, short⟩
    have whole : content.take (content.length % 256 ^ 4) = content := by
      rw [Nat.mod_eq_of_lt (by omega), List.take_length]
    refine ⟨_, _, _, prepared, filled, parsed, rfl, ?_, (exact_iff _).mpr time⟩
    rw [MessageSyncManager.processIncomingMessage, ReceivedMessage.mk.injEq]
    exact ⟨(exact_iff _).mpr ofMessage, (exact_iff _).mpr ofSender, (exact_iff _).mpr ofReceiver, rfl, whole,
      rfl, rfl⟩

/-- The three codecs never agree: one encoder always leaves its buffer.
The other one and the decoder agree exactly on exact identifiers without a reply. -/
theorem textMessage_codecs (message : OfflineMessage) (content : List UInt8)
    (replyToId messageId senderId now : Int) (text : List UInt8) :
    ¬ EncodersAgree message.receiverId now text ∧
      (RoundTrips message content replyToId messageId senderId ↔
        Exact messageId ∧ Exact senderId ∧ Exact message.receiverId ∧ Exact message.timestamp ∧
          replyToId = 0 ∧ content.length < 2 ^ 32) := by
  refine ⟨?_, roundTrips_iff message content replyToId messageId senderId⟩
  rintro ⟨data, written, -⟩
  rw [SecureChatWebSocket.sendTextMessage_overflows] at written
  cases written

/-- The letter a for the user with the number 2^53 + 1 is refused by one encoder,
and it comes back for the user with the number 2^53. -/
theorem textMessage_changes_receiver :
    SecureChatWebSocket.sendTextMessage 9007199254740993 [0x61] 1700000000000 = none ∧
      ¬ EncodersAgree 9007199254740993 1700000000000 [0x61] ∧
      ((MessageSyncManager.prepareTextMessageData ⟨9007199254740993, false, 1700000000000⟩ [0x61]).bind
        MessageSyncManager.parseIncomingMessage).map
          (fun parsed => (MessageSyncManager.processIncomingMessage parsed).receiverId) =
            some 9007199254740992 ∧
      ¬ RoundTrips ⟨9007199254740993, false, 1700000000000⟩ [0x61] 0 0 0 := by
  have refused := SecureChatWebSocket.sendTextMessage_overflows 9007199254740993 [0x61] 1700000000000
  refine ⟨refused, ?_, by decide +kernel, ?_⟩
  · rintro ⟨data, written, -⟩
    exact nomatch refused.symm.trans written
  · intro comes
    have exact := ((roundTrips_iff _ _ _ _ _).mp comes).2.2.1
    exact absurd exact.whole (by decide)

end SecureChat.Web
