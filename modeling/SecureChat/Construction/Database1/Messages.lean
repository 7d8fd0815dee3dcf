/-
This file writes chat messages into the table of the second database module.
-/

import SecureChat.Construction.Protocol
import SecureChat.Library.SqlTransaction

namespace SecureChat.Database1
open Library Protocol

/-- A value in a row. A floating-point number is told by the digits that it was made of. -/
inductive SqlValue where
  | null
  | integer (value : Int)
  | real (digits : List UInt8)
  | text (bytes : List UInt8)
  deriving DecidableEq, Repr

/-- Digits become an integer, or a floating-point number if they are too many for a signed 64-bit integer. -/
def integerAffinity : SqlValue → SqlValue
  | .text digits =>
      let value := Nat.ofDigitChars 10 (digits.map fun byte => Char.ofNat byte.toNat) 0
      if value < 2 ^ 63 then .integer value else .real digits
  | value => value

/-- What SQLite answers while a statement is executed. The result of a binding is told by its position. -/
structure UpdateAnswers where
  connection : Bool
  prepares : Bool
  binds : Nat → Bool
  steps : Bool

/-- A parameter that is not bound is null. Nothing looks at the result of a binding. -/
def bindParams (binds : Nat → Bool) (params : List (Option (List UInt8))) : List SqlValue :=
  params.mapIdx fun index param =>
    match param with
    | none => .null
    | some bytes => if binds index then .text bytes else .null

/-- The statement inserts at most one row. -/
def databaseExecuteUpdateParams {Row : Type} (answers : UpdateAnswers) (insert : List SqlValue → Option Row)
    (params : List (Option (List UInt8))) : Bool × Option Row :=
  if !answers.connection then (false, none)
  else if !answers.prepares then (false, none)
  else
    match insert (bindParams answers.binds params) with
    | none => (false, none)
    | some row => if answers.steps then (true, some row) else (false, none)

/-- The columns of `messages` that the statement sets. -/
structure MessageRow where
  senderId : SqlValue
  receiverId : SqlValue
  messageType : SqlValue
  content : SqlValue
  contentHash : SqlValue
  timestamp : SqlValue
  status : SqlValue
  isEncrypted : SqlValue
  replyToId : SqlValue
  deriving DecidableEq, Repr

/-- The foreign keys refer to the integer keys of the users. -/
def isUser (users : Int → Bool) : SqlValue → Bool
  | .integer id => users id
  | _ => false

/-- The types and constraints of the table `messages` in the schema. -/
def insertMessage (users : Int → Bool) : List SqlValue → Option MessageRow
  | [senderId, receiverId, messageType, content, contentHash, timestamp, status, isEncrypted, replyToId] =>
      let row : MessageRow := ⟨integerAffinity senderId, integerAffinity receiverId, integerAffinity messageType,
        content, contentHash, integerAffinity timestamp, integerAffinity status, integerAffinity isEncrypted,
        integerAffinity replyToId⟩
      if isUser users row.senderId ∧ isUser users row.receiverId ∧ row.messageType ≠ .null ∧
          row.content ≠ .null ∧ row.timestamp ≠ .null then some row
      else none
  | _ => none

/-- A message in memory with its content, and the bytes behind it up to the next zero byte. -/
structure MessageMemory where
  message : MessageContent
  content : List UInt8
  beyond : List UInt8
  sized : content.length = message.contentLength.toNat
  ends : 0 ∉ beyond

/-- A text ends at its first zero byte. -/
def textAt (memory : List UInt8) : List UInt8 := memory.takeWhile (· ≠ 0)

/-- The memory from the content on. -/
def MessageMemory.fromContent (memory : MessageMemory) : List UInt8 := memory.content ++ (memory.beyond ++ [0])

/-- The memory from the hash on. The length of the content follows without a gap. -/
def MessageMemory.fromContentHash (memory : MessageMemory) : List UInt8 :=
  memory.message.contentHash.val ++
    (littleEndian 4 memory.message.contentLength.toNat ++ memory.fromContent)

/-- What `snprintf` leaves of a number in a buffer. -/
def printNumber (size number : Nat) : List UInt8 := ((Nat.toDigits 10 number).take (size - 1)).map byteOf

def messageStatusSent : Nat := 1

def messageParams (memory : MessageMemory) : List (Option (List UInt8)) :=
  let message := memory.message
  [some (printNumber 32 message.senderId.toNat), some (printNumber 32 message.receiverId.toNat),
    some (printNumber 4 message.messageType.toNat), some (textAt memory.fromContent),
    some (textAt memory.fromContentHash), some (printNumber 32 message.timestamp.toNat),
    some (printNumber 4 messageStatusSent), some (printNumber 4 message.encrypted.toNat),
    some (printNumber 32 message.replyToId.toNat)]

def databaseSaveMessage (users : Int → Bool) (answers : UpdateAnswers) (memory : MessageMemory) :
    Bool × Option MessageRow :=
  databaseExecuteUpdateParams answers (insertMessage users) (messageParams memory)

end SecureChat.Database1
