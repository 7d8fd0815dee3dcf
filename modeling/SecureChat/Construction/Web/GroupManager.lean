/-
This file holds the groups of the browser client: what it keeps of a group and its members,
the permissions of a role and of a member, and the cache of the group messages.
-/

import SecureChat.Library.BoundedLog
import SecureChat.Library.ByteOrder
import SecureChat.Library.Doubles
import SecureChat.Library.Machine

namespace SecureChat.Web
open Library Library.JsNumber

inductive GroupRole where
  | owner | admin | moderator | member | guest
  deriving DecidableEq, Repr

inductive GroupPermission where
  | sendMessage | sendFile | sendImage | sendVoice | deleteMessage | editMessage | pinMessage
  | inviteMember | removeMember | promoteMember | demoteMember | muteMember | banMember
  | editGroupInfo | changeGroupAvatar | manageRoles | managePermissions | transferOwnership | deleteGroup
  | exportGroupData
  | viewAuditLog | manageEncryption | manage2FA | viewMemberInfo
  deriving DecidableEq, Repr

structure GroupInfo where
  groupId : Nat
  ownerId : Nat
  encryptionEnabled : Bool
  twoFactorRequired : Bool
  deriving DecidableEq, Repr

structure GroupMember where
  groupId : Nat
  userId : Nat
  role : GroupRole
  permissions : List GroupPermission
  mutedUntil : Option Nat
  deriving DecidableEq, Repr

/-- The reactions, the attachments and the metadata of a received message are always empty. -/
structure GroupMessage (Text : Type) where
  messageId : Nat
  groupId : Nat
  senderId : Nat
  senderName : Text
  senderRole : GroupRole
  content : Text
  type : Nat
  encrypted : Bool
  encryptionKeyId : Option Text
  timestamp : Nat
  editedAt : Option Nat
  deletedAt : Option Nat
  readBy : List Nat
  deliveredTo : List Nat
  replyTo : Option Nat
  mentions : List Nat
  deriving DecidableEq, Repr

/-- What the client takes from its platform to read a text. -/
structure TextReader (Text : Type) where
  decode : List UInt8 → Text
  nonempty : Text → Bool

/-- The maps of the manager, and the user of its connection. -/
structure GroupManager (Text : Type) where
  groups : Nat → Option GroupInfo
  groupMembers : Nat → Option (Nat → Option GroupMember)
  groupMessages : Nat → Option (List (GroupMessage Text))
  currentUserId : Nat

namespace GroupManager

variable {Text : Type}

/-- The groups come from the storage of the browser. -/
def create (groups : Nat → Option GroupInfo) (currentUserId : Nat) : GroupManager Text :=
  ⟨groups, fun _ => none, fun _ => none, currentUserId⟩

open GroupPermission in
def rolePermissions : GroupRole → List GroupPermission
  | .owner => [sendMessage, sendFile, sendImage, sendVoice, deleteMessage, editMessage, pinMessage, inviteMember,
      removeMember, promoteMember, demoteMember, muteMember, banMember, editGroupInfo, changeGroupAvatar,
      manageRoles, managePermissions, transferOwnership, deleteGroup, exportGroupData, viewAuditLog,
      manageEncryption, manage2FA, viewMemberInfo]
  | .admin => [sendMessage, sendFile, sendImage, sendVoice, deleteMessage, editMessage, pinMessage, inviteMember,
      removeMember, promoteMember, demoteMember, muteMember, banMember, editGroupInfo, changeGroupAvatar,
      manageRoles, viewAuditLog, viewMemberInfo]
  | .moderator => [sendMessage, sendFile, sendImage, sendVoice, deleteMessage, muteMember, viewAuditLog]
  | .member => [sendMessage, sendFile, sendImage, sendVoice]
  | .guest => [sendMessage]

/-- A group that is not known yet is asked for, and its answer comes later. -/
def getGroupInfo (manager : GroupManager Text) (groupId : Nat) : Option GroupInfo := manager.groups groupId

/-- Members that are not known yet are asked for, and their answer comes later. -/
def getGroupMember (manager : GroupManager Text) (groupId userId : Nat) : Option GroupMember :=
  (manager.groupMembers groupId).bind (· userId)

def hasPermission (manager : GroupManager Text) (groupId : Nat) (permission : GroupPermission) : Bool :=
  match manager.getGroupMember groupId manager.currentUserId with
  | none => false
  | some member =>
      if permission ∈ rolePermissions member.role then true
      else if permission ∈ member.permissions then true
      else false

def codeToGroupRole : Nat → GroupRole
  | 0 => .owner
  | 1 => .admin
  | 2 => .moderator
  | 3 => .member
  | 4 => .guest
  | _ => .member

/-- The bytes up to the first zero, in a field that has to lie inside the buffer. -/
def readString (reader : TextReader Text) (data : List UInt8) (offset maxLength : Nat) : Option Text :=
  if offset + maxLength ≤ data.length then
    some (reader.decode ((sliceBytes offset (offset + maxLength) data).takeWhile (· ≠ 0)))
  else none

/-- The numbers of a list of users, and the offset behind them. -/
def readUsers (data : List UInt8) : Nat → Nat → Option (List Nat × Nat)
  | 0, offset => some ([], offset)
  | count + 1, offset => do
      let user ← getUint 8 offset data
      let (users, last) ← readUsers data count (offset + 8)
      some (user :: users, last)

/-- A read outside of the buffer makes the message null. -/
def deserializeGroupMessage (reader : TextReader Text) (data : List UInt8) : Option (GroupMessage Text) := do
  let messageId ← getUint 8 0 data
  let groupId ← getUint 8 8 data
  let senderId ← getUint 8 16 data
  let senderName ← readString reader data 24 64
  let senderRoleCode ← getUint 1 88 data
  let contentLength ← getUint 4 89 data
  let offset := 93
  if data.length < offset + contentLength then none else
  let content := reader.decode (sliceBytes offset (offset + contentLength) data)
  let offset := offset + contentLength
  let type ← getUint 4 offset data
  let encrypted ← getUint 1 (offset + 4) data
  let encryptionKeyId ← readString reader data (offset + 5) 64
  let timestamp ← getUint 8 (offset + 69) data
  let editedAt ← getUint 8 (offset + 77) data
  let deletedAt ← getUint 8 (offset + 85) data
  let readByCount ← getUint 4 (offset + 93) data
  let (readBy, offset) ← readUsers data readByCount (offset + 97)
  let deliveredToCount ← getUint 4 offset data
  let (deliveredTo, offset) ← readUsers data deliveredToCount (offset + 4)
  let replyTo ← getUint 8 offset data
  let mentionsCount ← getUint 4 (offset + 8) data
  let (mentions, _) ← readUsers data mentionsCount (offset + 12)
  some {
    messageId := messageId
    groupId := groupId
    senderId := senderId
    senderName := senderName
    senderRole := codeToGroupRole senderRoleCode
    content := content
    type := type
    encrypted := encrypted ≠ 0
    encryptionKeyId := if reader.nonempty encryptionKeyId then some encryptionKeyId else none
    timestamp := numberOfBigInt timestamp
    editedAt := if editedAt ≠ 0 then some (numberOfBigInt editedAt) else none
    deletedAt := if deletedAt ≠ 0 then some (numberOfBigInt deletedAt) else none
    readBy := readBy
    deliveredTo := deliveredTo
    replyTo := if replyTo ≠ 0 then some replyTo else none
    mentions := mentions }

/-- The new message stands in front of the first one with a later timestamp.
The first messages go when there are too many. -/
def insertMessage (messages : List (GroupMessage Text)) (message : GroupMessage Text) : List (GroupMessage Text) :=
  let inserted := match messages.findIdx? (·.timestamp > message.timestamp) with
    | none => messages ++ [message]
    | some index => messages.insertIdx index message
  if inserted.length > 1000 then inserted.drop (inserted.length - 1000) else inserted

end GroupManager

/-- What is read of a member. The title is always empty. -/
structure ReceivedMember (Text : Type) extends GroupMember where
  joinedAt : Nat
  lastSeen : Nat
  messageCount : Nat
  nickname : Text
  bannedUntil : Option Nat
  publicKey : Option Text
  encryptionKey : Option Text
  keyVersion : Nat
  online : Bool
  typing : Bool
  active : Bool
  deriving DecidableEq, Repr

def permissionBits : GroupPermission → Nat
  | .sendMessage => 0
  | .sendFile => 1
  | .sendImage => 2
  | .sendVoice => 3
  | .deleteMessage => 4
  | .editMessage => 5
  | .pinMessage => 6
  | .inviteMember => 7
  | .removeMember => 8
  | .promoteMember => 9
  | .demoteMember => 10
  | .muteMember => 11
  | .banMember => 12
  | .editGroupInfo => 13
  | .changeGroupAvatar => 14
  | .manageRoles => 15
  | .managePermissions => 16
  | .transferOwnership => 17
  | .deleteGroup => 18
  | .exportGroupData => 19
  | .viewAuditLog => 20
  | .manageEncryption => 21
  | .manage2FA => 22
  | .viewMemberInfo => 23

def bitPermissions : Nat → Option GroupPermission
  | 0 => some .sendMessage
  | 1 => some .sendFile
  | 2 => some .sendImage
  | 3 => some .sendVoice
  | 4 => some .deleteMessage
  | 5 => some .editMessage
  | 6 => some .pinMessage
  | 7 => some .inviteMember
  | 8 => some .removeMember
  | 9 => some .promoteMember
  | 10 => some .demoteMember
  | 11 => some .muteMember
  | 12 => some .banMember
  | 13 => some .editGroupInfo
  | 14 => some .changeGroupAvatar
  | 15 => some .manageRoles
  | 16 => some .managePermissions
  | 17 => some .transferOwnership
  | 18 => some .deleteGroup
  | 19 => some .exportGroupData
  | 20 => some .viewAuditLog
  | 21 => some .manageEncryption
  | 22 => some .manage2FA
  | 23 => some .viewMemberInfo
  | _ => none

def permissionsToBitmap (permissions : List GroupPermission) : Nat :=
  permissions.foldl (fun bitmap permission => bitmap ||| 1 <<< permissionBits permission) 0

def bitmapToPermissions (bitmap : Nat) : List GroupPermission :=
  (List.range 64).filterMap fun i => if bitmap &&& 1 <<< i ≠ 0 then bitPermissions i else none

namespace GroupManager

variable {Text : Type}

/-- One turn of the loop over the members. A read outside of the buffer is an error. -/
def deserializeGroupMember (reader : TextReader Text) (data : List UInt8) (offset : Nat) :
    Option (ReceivedMember Text) := do
  let groupId ← getUint 8 offset data
  let userId ← getUint 8 (offset + 8) data
  let roleCode ← getUint 1 (offset + 16) data
  let joinedAt ← getUint 8 (offset + 17) data
  let lastSeen ← getUint 8 (offset + 25) data
  let messageCount ← getUint 4 (offset + 33) data
  let nickname ← readString reader data (offset + 37) 64
  let permissionsBitmap ← getUint 8 (offset + 101) data
  let mutedUntil ← getUint 8 (offset + 109) data
  let bannedUntil ← getUint 8 (offset + 117) data
  let publicKey ← readString reader data (offset + 125) 512
  let encryptionKey ← readString reader data (offset + 637) 256
  let keyVersion ← getUint 4 (offset + 893) data
  let online ← getUint 1 (offset + 897) data
  let typing ← getUint 1 (offset + 898) data
  let active ← getUint 1 (offset + 899) data
  some {
    groupId := groupId
    userId := userId
    role := codeToGroupRole roleCode
    permissions := bitmapToPermissions permissionsBitmap
    mutedUntil := if mutedUntil ≠ 0 then some (numberOfBigInt mutedUntil) else none
    joinedAt := numberOfBigInt joinedAt
    lastSeen := numberOfBigInt lastSeen
    messageCount := messageCount
    nickname := nickname
    bannedUntil := if bannedUntil ≠ 0 then some (numberOfBigInt bannedUntil) else none
    publicKey := if reader.nonempty publicKey then some publicKey else none
    encryptionKey := if reader.nonempty encryptionKey then some encryptionKey else none
    keyVersion := keyVersion
    online := online ≠ 0
    typing := typing ≠ 0
    active := active ≠ 0 }

def readGroupMembers (reader : TextReader Text) (data : List UInt8) : Nat → Nat → Option (List (ReceivedMember Text))
  | 0, _ => some []
  | count + 1, offset => do
      let member ← deserializeGroupMember reader data offset
      let members ← readGroupMembers reader data count (offset + 900)
      some (member :: members)

def deserializeGroupMembers (reader : TextReader Text) (data : List UInt8) : Option (List (ReceivedMember Text)) := do
  let memberCount ← getUint 4 0 data
  readGroupMembers reader data memberCount 4

def cacheMember (memberMap : Nat → Option GroupMember) (member : ReceivedMember Text) : Nat → Option GroupMember :=
  Function.update memberMap member.userId (some member.toGroupMember)

/-- The members go to the group of the first one, and the listeners are told.
An error leaves the handler, and the cache stays as it is. -/
def handleGroupMembersResponse (reader : TextReader Text) (manager : GroupManager Text) (data : List UInt8) :
    GroupManager Text × Option (Nat × List (ReceivedMember Text)) :=
  match deserializeGroupMembers reader data with
  | none => (manager, none)
  | some [] => (manager, none)
  | some (first :: rest) =>
      let memberMap := (manager.groupMembers first.groupId).getD fun _ => none
      let updated := (first :: rest).foldl cacheMember memberMap
      ({ manager with groupMembers := Function.update manager.groupMembers first.groupId (some updated) },
        some (first.groupId, first :: rest))

/-- The type and the body of the request that is sent, or the error. -/
def setMemberPermissions (manager : GroupManager Text) (groupId userId : Nat) (permissions : List GroupPermission) :
    Except String (Nat × List UInt8) :=
  if manager.hasPermission groupId .managePermissions = false then .error "没有权限管理权限"
  else if (manager.groups groupId).any fun group => group.ownerId = userId then .error "不能修改群主权限"
  else .ok (0x04000010, uintBytes 8 groupId ++ uintBytes 8 userId ++ uintBytes 8 (permissionsToBitmap permissions))

end GroupManager

end SecureChat.Web
