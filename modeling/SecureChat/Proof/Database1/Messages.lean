import SecureChat.Construction.Database1.Messages
import SecureChat.Library.Text

namespace SecureChat.Database1
open Library Protocol

/-- The row holds the fields of the message, and all bytes of its content and nothing else. -/
structure RowHolds (row : MessageRow) (memory : MessageMemory) : Prop where
  senderId : row.senderId = .integer memory.message.senderId.toNat
  receiverId : row.receiverId = .integer memory.message.receiverId.toNat
  messageType : row.messageType = .integer memory.message.messageType.toNat
  content : row.content = .text memory.content
  contentHash : row.contentHash = .text memory.message.contentHash.val
  timestamp : row.timestamp = .integer memory.message.timestamp.toNat
  isEncrypted : row.isEncrypted = .integer memory.message.encrypted.toNat
  replyToId : row.replyToId = .integer memory.message.replyToId.toNat

/-- SQLite can take the row: both users may exist, and no column that must have a value is null. -/
structure Storable (memory : MessageMemory) (binds : Nat → Bool) : Prop where
  senderId : memory.message.senderId.toNat < 2 ^ 63
  receiverId : memory.message.receiverId.toNat < 2 ^ 63
  bound : ∀ index ∈ [0, 1, 2, 3, 5], binds index = true

/-- Every field survives the way through its buffer, the text and the column. -/
structure FitsColumns (memory : MessageMemory) (binds : Nat → Bool) : Prop where
  messageType : memory.message.messageType.toNat < 1000
  timestamp : memory.message.timestamp.toNat < 2 ^ 63
  replyToId : memory.message.replyToId.toNat < 2 ^ 63
  contentHash : 0 ∉ memory.message.contentHash.val
  contentLength : memory.message.contentLength.toNat % 256 = 0
  content : 0 ∉ memory.content
  beyond : memory.beyond = []
  bound : ∀ index ∈ [4, 7, 8], binds index = true

section Texts

theorem textAt_append_cons_iff (front rest : List UInt8) (next : UInt8) :
    textAt (front ++ next :: rest) = front ↔ 0 ∉ front ∧ next = 0 := by
  unfold textAt
  rw [takeWhile_append_cons_iff]
  refine and_congr ⟨fun kept zero => ?_, fun absent letter member => ?_⟩ ?_
  · exact absurd (kept 0 zero) (by decide)
  · exact decide_eq_true fun zero => absent (zero ▸ member)
  · simp

/-- The column reads the digits that the buffer holds. -/
theorem integerAffinity_printNumber (size number : Nat) :
    integerAffinity (.text (printNumber size number)) =
      if Nat.ofDigitChars 10 ((Nat.toDigits 10 number).take (size - 1)) 0 < 2 ^ 63 then
        .integer (Nat.ofDigitChars 10 ((Nat.toDigits 10 number).take (size - 1)) 0)
      else .real (printNumber size number) := by
  have read : (printNumber size number).map (fun byte => Char.ofNat byte.toNat) =
      (Nat.toDigits 10 number).take (size - 1) := by
    rw [printNumber, List.map_map]
    refine (List.map_congr_left fun digit member => ?_).trans (List.map_id _)
    have shown := Nat.isDigit_of_mem_toDigits (by decide) (by decide) (List.mem_of_mem_take member)
    rw [Char.isDigit_iff_toNat] at shown
    have last : '9'.toNat = 57 := rfl
    rw [Function.comp_apply, byteOf, UInt8.toNat_ofNat', Nat.mod_eq_of_lt (by omega), Char.ofNat_toNat, id_eq]
  rw [integerAffinity, read]

/-- A number arrives in its column if it fits into the buffer and into a signed integer. -/
theorem integerAffinity_iff (size number : Nat) (room : 1 < size) :
    integerAffinity (.text (printNumber size number)) = .integer number ↔
      number < 10 ^ (size - 1) ∧ number < 2 ^ 63 := by
  have whole := ofDigitChars_take_iff (Nat.sub_pos_of_lt room) number
  rw [integerAffinity_printNumber]
  split
  · rename_i small
    rw [SqlValue.integer.injEq, Int.ofNat_inj, whole]
    exact (and_iff_left_of_imp fun fits => whole.mpr fits ▸ small).symm
  · rename_i large
    refine iff_of_false nofun fun fits => large ?_
    rw [whole.mpr fits.1]
    exact fits.2

end Texts

section Row

variable (memory : MessageMemory) (binds : Nat → Bool)

/-- A parameter as it arrives at the table. -/
def boundText (index : Nat) (bytes : List UInt8) : SqlValue := if binds index then .text bytes else .null

/-- The row that SQLite gets. -/
def rowOf : MessageRow where
  senderId := integerAffinity (boundText binds 0 (printNumber 32 memory.message.senderId.toNat))
  receiverId := integerAffinity (boundText binds 1 (printNumber 32 memory.message.receiverId.toNat))
  messageType := integerAffinity (boundText binds 2 (printNumber 4 memory.message.messageType.toNat))
  content := boundText binds 3 (textAt memory.fromContent)
  contentHash := boundText binds 4 (textAt memory.fromContentHash)
  timestamp := integerAffinity (boundText binds 5 (printNumber 32 memory.message.timestamp.toNat))
  status := integerAffinity (boundText binds 6 (printNumber 4 messageStatusSent))
  isEncrypted := integerAffinity (boundText binds 7 (printNumber 4 memory.message.encrypted.toNat))
  replyToId := integerAffinity (boundText binds 8 (printNumber 32 memory.message.replyToId.toNat))

/-- The constraints of the table. -/
def AcceptedRow (users : Int → Bool) (row : MessageRow) : Prop :=
  isUser users row.senderId ∧ isUser users row.receiverId ∧ row.messageType ≠ .null ∧ row.content ≠ .null ∧
    row.timestamp ≠ .null

instance (users : Int → Bool) (row : MessageRow) : Decidable (AcceptedRow users row) := by
  unfold AcceptedRow
  infer_instance

theorem insertMessage_eq (users : Int → Bool) :
    insertMessage users (bindParams binds (messageParams memory)) =
      if AcceptedRow users (rowOf memory binds) then some (rowOf memory binds) else none := rfl

/-- The call returns true exactly when SQLite gets as far as the table and the table accepts the row. -/
theorem databaseSaveMessage_eq (users : Int → Bool) (answers : UpdateAnswers) :
    databaseSaveMessage users answers memory =
      if answers.connection ∧ answers.prepares ∧ answers.steps ∧
          AcceptedRow users (rowOf memory answers.binds) then
        (true, some (rowOf memory answers.binds))
      else (false, none) := by
  unfold databaseSaveMessage databaseExecuteUpdateParams
  rw [insertMessage_eq]
  cases answers.connection
  · rfl
  · cases answers.prepares
    · rfl
    · by_cases accepted : AcceptedRow users (rowOf memory answers.binds)
      · rw [if_pos accepted]
        cases answers.steps
        · rfl
        · simp [accepted]
      · rw [if_neg accepted]
        simp [accepted]

theorem numberColumn_iff (index size number : Nat) (room : 1 < size) :
    integerAffinity (boundText binds index (printNumber size number)) = .integer number ↔
      binds index = true ∧ number < 10 ^ (size - 1) ∧ number < 2 ^ 63 := by
  unfold boundText
  split
  · rename_i bound
    rw [integerAffinity_iff size number room, and_iff_right bound]
  · rename_i unbound
    exact iff_of_false nofun fun fits => unbound fits.1

theorem textColumn_iff (index : Nat) (front rest : List UInt8) (next : UInt8) :
    boundText binds index (textAt (front ++ next :: rest)) = .text front ↔
      binds index = true ∧ 0 ∉ front ∧ next = 0 := by
  unfold boundText
  split
  · rename_i bound
    rw [SqlValue.text.injEq, textAt_append_cons_iff, and_iff_right bound]
  · rename_i unbound
    exact iff_of_false nofun fun fits => unbound fits.1

/-- The content arrives whole if it has no zero byte and the next byte is one. -/
theorem contentColumn_iff :
    (rowOf memory binds).content = .text memory.content ↔
      binds 3 = true ∧ 0 ∉ memory.content ∧ memory.beyond = [] := by
  show boundText binds 3 (textAt (memory.content ++ (memory.beyond ++ [0]))) = _ ↔ _
  have ends := memory.ends
  cases shape : memory.beyond with
  | nil => rw [List.nil_append, textColumn_iff, and_iff_left rfl, and_iff_left rfl]
  | cons next beyond =>
      rw [shape] at ends
      rw [List.cons_append, textColumn_iff]
      have kept : next ≠ 0 := fun zero => ends (zero ▸ List.mem_cons_self ..)
      exact iff_of_false (fun fits => kept fits.2.2) fun fits => nomatch fits.2.2

/-- The hash arrives whole if it has no zero byte and the length of the content begins with one. -/
theorem contentHashColumn_iff :
    (rowOf memory binds).contentHash = .text memory.message.contentHash.val ↔
      binds 4 = true ∧ 0 ∉ memory.message.contentHash.val ∧
        memory.message.contentLength.toNat % 256 = 0 := by
  show boundText binds 4 (textAt (memory.message.contentHash.val ++
    UInt8.ofNat memory.message.contentLength.toNat :: _)) = _ ↔ _
  rw [textColumn_iff, ← UInt8.toNat_inj, UInt8.toNat_ofNat']
  rfl

/-- A row of a message that SQLite can take is exact if and only if every field fits. -/
theorem rowHolds_iff (storable : Storable memory binds) :
    RowHolds (rowOf memory binds) memory ↔ FitsColumns memory binds := by
  have bound := storable.bound
  simp only [List.forall_mem_cons] at bound
  have wide : (2 : Nat) ^ 64 ≤ 10 ^ (32 - 1) := by decide
  have sender := memory.message.senderId.toNat_lt
  have receiver := memory.message.receiverId.toNat_lt
  have type := memory.message.messageType.toNat_lt
  have stamp := memory.message.timestamp.toNat_lt
  have flag := memory.message.encrypted.toNat_lt
  have reply := memory.message.replyToId.toNat_lt
  constructor
  · rintro ⟨-, -, messageType, content, contentHash, timestamp, isEncrypted, replyToId⟩
    have typeFits := ((numberColumn_iff binds 2 4 _ (by decide)).mp messageType).2.1
    have contentFits := ((contentColumn_iff memory binds).mp content).2
    obtain ⟨hashBound, hashFits, lengthFits⟩ := (contentHashColumn_iff memory binds).mp contentHash
    have stampFits := ((numberColumn_iff binds 5 32 _ (by decide)).mp timestamp).2.2
    have flagBound := ((numberColumn_iff binds 7 4 _ (by decide)).mp isEncrypted).1
    obtain ⟨replyBound, -, replyFits⟩ := (numberColumn_iff binds 8 32 _ (by decide)).mp replyToId
    exact ⟨typeFits, stampFits, replyFits, hashFits, lengthFits, contentFits.1, contentFits.2, by
      simp [hashBound, flagBound, replyBound]⟩
  · rintro ⟨messageType, timestamp, replyToId, contentHash, contentLength, content, beyond, others⟩
    simp only [List.forall_mem_cons] at others
    exact {
      senderId := (numberColumn_iff binds 0 32 _ (by decide)).mpr
        ⟨bound.1, Nat.lt_of_lt_of_le sender wide, storable.senderId⟩
      receiverId := (numberColumn_iff binds 1 32 _ (by decide)).mpr
        ⟨bound.2.1, Nat.lt_of_lt_of_le receiver wide, storable.receiverId⟩
      messageType := (numberColumn_iff binds 2 4 _ (by decide)).mpr ⟨bound.2.2.1, messageType, by omega⟩
      content := (contentColumn_iff memory binds).mpr ⟨bound.2.2.2.1, content, beyond⟩
      contentHash := (contentHashColumn_iff memory binds).mpr ⟨others.1, contentHash, contentLength⟩
      timestamp := (numberColumn_iff binds 5 32 _ (by decide)).mpr
        ⟨bound.2.2.2.2.1, Nat.lt_of_lt_of_le stamp wide, timestamp⟩
      isEncrypted := (numberColumn_iff binds 7 4 _ (by decide)).mpr ⟨others.2.1, by omega, by omega⟩
      replyToId := (numberColumn_iff binds 8 32 _ (by decide)).mpr
        ⟨others.2.2.1, Nat.lt_of_lt_of_le reply wide, replyToId⟩ }

/-- A column of integers refers to some user if its number is a signed integer. -/
theorem isUser_iff (users : Int → Bool) (index number : Nat) (fits : number < 10 ^ 31) :
    isUser users (integerAffinity (boundText binds index (printNumber 32 number))) = true ↔
      binds index = true ∧ number < 2 ^ 63 ∧ users number = true := by
  have column := numberColumn_iff binds index 32 number (by decide)
  by_cases holds : binds index = true ∧ number < 2 ^ 63
  · rw [column.mpr ⟨holds.1, fits, holds.2⟩]
    exact ⟨fun known => ⟨holds.1, holds.2, known⟩, fun all => all.2.2⟩
  · refine iff_of_false ?_ fun all => holds ⟨all.1, all.2.1⟩
    unfold boundText
    split
    · rename_i bound
      rw [integerAffinity_printNumber, (ofDigitChars_take_iff (by decide) number).mpr fits,
        if_neg fun small => holds ⟨bound, small⟩]
      exact Bool.false_ne_true
    · exact Bool.false_ne_true

theorem integerAffinity_ne_null (index : Nat) (bytes : List UInt8) :
    integerAffinity (boundText binds index bytes) ≠ .null ↔ binds index = true := by
  unfold boundText
  split
  · rename_i bound
    refine iff_of_true ?_ bound
    dsimp only [integerAffinity]
    split
    · exact nofun
    · exact nofun
  · rename_i unbound
    exact iff_of_false (fun present => present rfl) unbound

theorem boundText_ne_null (index : Nat) (bytes : List UInt8) :
    boundText binds index bytes ≠ .null ↔ binds index = true := by
  unfold boundText
  split
  · rename_i bound
    exact iff_of_true nofun bound
  · rename_i unbound
    exact iff_of_false (fun present => present rfl) unbound

/-- Some users make the table accept the row exactly when SQLite can take the message. -/
theorem acceptedRow_iff (users : Int → Bool) :
    AcceptedRow users (rowOf memory binds) ↔
      Storable memory binds ∧ users memory.message.senderId.toNat = true ∧
        users memory.message.receiverId.toNat = true := by
  have wide : (2 : Nat) ^ 64 ≤ 10 ^ 31 := by decide
  have sender := isUser_iff binds users 0 memory.message.senderId.toNat
    (Nat.lt_of_lt_of_le memory.message.senderId.toNat_lt wide)
  have receiver := isUser_iff binds users 1 memory.message.receiverId.toNat
    (Nat.lt_of_lt_of_le memory.message.receiverId.toNat_lt wide)
  unfold AcceptedRow rowOf
  dsimp only
  rw [sender, receiver, integerAffinity_ne_null, boundText_ne_null, integerAffinity_ne_null]
  constructor
  · rintro ⟨⟨first, small, known⟩, ⟨second, small', known'⟩, third, fourth, sixth⟩
    exact ⟨⟨small, small', by simp [first, second, third, fourth, sixth]⟩, known, known'⟩
  · rintro ⟨⟨small, small', bound⟩, known, known'⟩
    simp only [List.forall_mem_cons] at bound
    obtain ⟨first, second, third, fourth, sixth, -⟩ := bound
    exact ⟨⟨first, small, known⟩, ⟨second, small', known'⟩, third, fourth, sixth⟩

end Row

/-- Whatever users there are and whatever SQLite answers besides the results of the bindings,
a message that is saved is saved exactly. -/
def SavedExactly (memory : MessageMemory) (binds : Nat → Bool) : Prop :=
  ∀ (users : Int → Bool) (connection prepares steps : Bool),
    (databaseSaveMessage users ⟨connection, prepares, binds, steps⟩ memory).1 = true →
      ∃ row, (databaseSaveMessage users ⟨connection, prepares, binds, steps⟩ memory).2 = some row ∧
        RowHolds row memory

/-- Saved messages are exact if and only if SQLite refuses the message anyway, or every field fits. -/
theorem databaseSaveMessage_iff (memory : MessageMemory) (binds : Nat → Bool) :
    SavedExactly memory binds ↔ (Storable memory binds → FitsColumns memory binds) := by
  constructor
  · intro exactly storable
    have accepted := (acceptedRow_iff memory binds fun _ => true).mpr ⟨storable, rfl, rfl⟩
    have saved := databaseSaveMessage_eq memory (fun _ => true) ⟨true, true, binds, true⟩
    rw [if_pos ⟨rfl, rfl, rfl, accepted⟩] at saved
    obtain ⟨row, same, holds⟩ := exactly (fun _ => true) true true true (congrArg Prod.fst saved)
    rw [saved] at same
    obtain rfl := Option.some.inj same
    exact (rowHolds_iff memory binds storable).mp holds
  · intro fits users connection prepares steps
    rw [databaseSaveMessage_eq]
    split
    · rename_i taken
      have storable := ((acceptedRow_iff memory binds users).mp taken.2.2.2).1
      exact fun _ => ⟨_, rfl, (rowHolds_iff memory binds storable).mpr (fits storable)⟩
    · exact nofun

/-- The text "hello" with its final zero byte and the hexadecimal digits of a hash in front of it. -/
def helloMemory : MessageMemory where
  message := ⟨1, 7, 8, 1000, 0, 0, 0, ⟨List.replicate 64 97, by decide⟩, 5⟩
  content := [104, 101, 108, 108, 111]
  beyond := []
  sized := by decide
  ends := by decide

/-- The hash of a short text is stored with the length of the text behind it. -/
theorem databaseSaveMessage_hello :
    ¬ ∀ memory : MessageMemory, SavedExactly memory fun _ => true := by
  intro always
  obtain ⟨row, same, holds⟩ := always helloMemory (fun _ => true) true true true (by decide)
  have hash := holds.contentHash
  have stored : (databaseSaveMessage (fun _ => true) ⟨true, true, fun _ => true, true⟩ helloMemory).2.map
      (·.contentHash) = some (.text (List.replicate 64 97 ++ [5])) := by decide
  rw [same, Option.map_some, hash] at stored
  exact absurd stored (by decide)

end SecureChat.Database1
