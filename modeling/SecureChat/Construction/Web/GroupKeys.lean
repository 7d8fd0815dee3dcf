/-
This file holds the encryption keys of the groups of the browser client
and runs the key rotations of one group side by side.
-/

import SecureChat.Library.OrderedMap
import SecureChat.Construction.Web.GroupManager

namespace SecureChat.Web
open Library

/-- An absent public key is the empty text, which counts as absent. -/
structure KeyedMember extends GroupMember where
  publicKey : String
  deriving DecidableEq, Repr

structure EncryptedGroup extends GroupInfo where
  encryptionKeyVersion : Nat
  deriving DecidableEq, Repr

structure MemberKey where
  publicKey : String
  encryptedGroupKey : String
  keyVersion : Nat
  updatedAt : Nat
  deriving DecidableEq, Repr

structure HistoricalKey (Key : Type) where
  keyId : String
  encryptionKey : Key
  rotationDate : Nat
  archivedAt : Nat
  deriving DecidableEq, Repr

structure GroupEncryptionContext (Key : Type) where
  groupId : Nat
  keyVersion : Nat
  encryptionKey : Key
  keyRotationDate : Nat
  nextRotationDate : Nat
  memberKeys : OrderedMap Nat MemberKey
  historicalKeys : OrderedMap Nat (HistoricalKey Key)
  deriving DecidableEq

/-- The cached members, in the order in which a map keeps them. -/
abbrev MemberMap := OrderedMap Nat KeyedMember

def rotationPeriod : Nat := 30 * 24 * 60 * 60 * 1000

/-- The encrypted key is a placeholder. -/
def encryptKeyForMember (now : Nat) : String := s!"encrypted_key_{now}"

namespace GroupEncryptionContext

variable {Key : Type}

def createEncryptionContext (groupId : Nat) (members : List KeyedMember) (key : Key) (now : Nat) :
    GroupEncryptionContext Key where
  groupId := groupId
  keyVersion := 1
  encryptionKey := key
  keyRotationDate := now
  nextRotationDate := now + rotationPeriod
  memberKeys := members.foldl (fun keys member =>
    if member.publicKey ≠ "" then keys.set member.userId ⟨member.publicKey, encryptKeyForMember now, 1, now⟩
    else keys) .empty
  historicalKeys := .empty

/-- The key is archived under the version that it has at this moment. -/
def archiveKey (context : GroupEncryptionContext Key) (now : Nat) : GroupEncryptionContext Key :=
  { context with
    historicalKeys := context.historicalKeys.set context.keyVersion
      ⟨s!"group_{context.groupId}_v{context.keyVersion}", context.encryptionKey, context.keyRotationDate, now⟩ }

def replaceKey (context : GroupEncryptionContext Key) (key : Key) (now : Nat) : GroupEncryptionContext Key :=
  { context with
    encryptionKey := key
    keyVersion := context.keyVersion + 1
    keyRotationDate := now
    nextRotationDate := now + rotationPeriod }

/-- One turn of the loop over the entries. A user who is no member any more keeps the old entry. -/
def reencryptMemberKey (context : GroupEncryptionContext Key) (userId : Nat) (member : Option KeyedMember)
    (now : Nat) : GroupEncryptionContext Key :=
  if ∃ found ∈ member, found.publicKey ≠ "" then
    { context with
      memberKeys := context.memberKeys.modify userId fun memberKey =>
        { memberKey with
          encryptedGroupKey := encryptKeyForMember now, keyVersion := context.keyVersion, updatedAt := now } }
  else context

def reencryptMemberKeys (context : GroupEncryptionContext Key) (member : Nat → Option KeyedMember) (now : Nat) :
    GroupEncryptionContext Key :=
  context.memberKeys.keys.foldl (fun context userId => context.reencryptMemberKey userId (member userId) now) context

end GroupEncryptionContext

/-- The maps of the manager that the keys of a group depend on. -/
structure GroupKeyManager (Key : Type) where
  groups : Nat → Option EncryptedGroup
  groupMembers : Nat → Option MemberMap
  encryptionContexts : Nat → Option (GroupEncryptionContext Key)
  currentUserId : Nat

namespace GroupKeyManager

variable {Key : Type}

def create (groups : Nat → Option EncryptedGroup) (currentUserId : Nat) : GroupKeyManager Key :=
  ⟨groups, fun _ => none, fun _ => none, currentUserId⟩

/-- The answer of the server fills the map of the group of its first member. -/
def handleGroupMembersResponse (manager : GroupKeyManager Key) (members : List KeyedMember) : GroupKeyManager Key :=
  match members with
  | [] => manager
  | first :: _ =>
      let memberMap := (manager.groupMembers first.groupId).getD .empty
      { manager with
        groupMembers := Function.update manager.groupMembers first.groupId
          (some (members.foldl (fun memberMap member => memberMap.set member.userId member) memberMap)) }

def removeMember (manager : GroupKeyManager Key) (groupId userId : Nat) : GroupKeyManager Key :=
  { manager with
    groupMembers := Function.update manager.groupMembers groupId
      ((manager.groupMembers groupId).map (·.delete userId)) }

/-- Members that are not cached are asked for, and their answer comes later. -/
def getGroupMembers (manager : GroupKeyManager Key) (groupId limit offset : Nat) : List KeyedMember :=
  match manager.groupMembers groupId with
  | some memberMap => (memberMap.values.drop offset).take limit
  | none => []

def getGroupMember (manager : GroupKeyManager Key) (groupId userId : Nat) : Option KeyedMember :=
  (manager.groupMembers groupId).bind (·.get userId)

def hasPermission (manager : GroupKeyManager Key) (groupId : Nat) (permission : GroupPermission) : Bool :=
  match manager.getGroupMember groupId manager.currentUserId with
  | none => false
  | some member =>
      if permission ∈ GroupManager.rolePermissions member.role then true
      else if permission ∈ member.permissions then true
      else false

/-- Saving the context fails at its big integers, which is caught. -/
def initializeGroupEncryption (manager : GroupKeyManager Key) (groupId : Nat) (key : Key) (now : Nat) :
    GroupKeyManager Key × Except String Bool :=
  match manager.groups groupId with
  | none => (manager, .error "群组不存在")
  | some groupInfo =>
      if manager.hasPermission groupId .manageEncryption = false then (manager, .error "没有权限管理加密") else
      let members := manager.getGroupMembers groupId 100 0
      let context := GroupEncryptionContext.createEncryptionContext groupId members key now
      ({ manager with
        encryptionContexts := Function.update manager.encryptionContexts groupId (some context)
        groups := Function.update manager.groups groupId (some { groupInfo with
          encryptionEnabled := true, encryptionKeyVersion := context.keyVersion }) }, .ok true)

/-- The archive, the new key and the keys of the members follow one another without another call between them. -/
def rotateGroupEncryptionKey (manager : GroupKeyManager Key) (groupId : Nat) (key : Key) (now : Nat) :
    GroupKeyManager Key × Except String Bool :=
  match manager.encryptionContexts groupId with
  | none => (manager, .error "加密上下文不存在")
  | some context =>
      if manager.hasPermission groupId .manageEncryption = false then (manager, .error "没有权限轮换加密密钥") else
      let context := ((context.archiveKey now).replaceKey key now).reencryptMemberKeys
        (manager.getGroupMember context.groupId) now
      ({ manager with
        encryptionContexts := Function.update manager.encryptionContexts groupId (some context)
        groups := Function.update manager.groups groupId ((manager.groups groupId).map fun groupInfo =>
          { groupInfo with encryptionKeyVersion := context.keyVersion }) }, .ok true)

end GroupKeyManager

inductive GroupKeyEvent (Key : Type) where
  | membersReceived (members : List KeyedMember)
  | memberRemoved (groupId userId : Nat)
  | initializeGroupEncryption (groupId : Nat) (key : Key) (now : Nat)
  | rotateGroupEncryptionKey (groupId : Nat) (key : Key) (now : Nat)

def groupKeyMachine (Key : Type) : Machine (GroupKeyManager Key) (GroupKeyEvent Key) (Except String Bool) where
  step manager
    | .membersReceived members => (manager.handleGroupMembersResponse members, [])
    | .memberRemoved groupId userId => (manager.removeMember groupId userId, [])
    | .initializeGroupEncryption groupId key now =>
        ((manager.initializeGroupEncryption groupId key now).1, [(manager.initializeGroupEncryption groupId key now).2])
    | .rotateGroupEncryptionKey groupId key now =>
        ((manager.rotateGroupEncryptionKey groupId key now).1, [(manager.rotateGroupEncryptionKey groupId key now).2])

/-- What a call of `rotateGroupEncryptionKey` waits for. -/
inductive RotationStage where
  | permission
  | newKey
  | member (userId : Nat) (rest : List Nat)
  | encryptedKey (userId : Nat) (rest : List Nat)
  | save
  | returned
  | refused
  deriving DecidableEq, Repr

/-- The loop over the entries goes on with the next user, or ends. -/
def nextMember : List Nat → RotationStage
  | [] => .save
  | userId :: rest => .member userId rest

/-- The context is one object that all calls share. -/
structure KeyRotations (Key : Type) where
  context : GroupEncryptionContext Key
  groupVersion : Option Nat
  calls : List RotationStage

inductive RotationEvent (Key : Type) where
  | call
  | resume (index : Nat) (key : Key) (now : Nat)
  | read
  deriving DecidableEq

/-- A reader sees the current version with its key, and what it finds for an older version. -/
structure ContextView (Key : Type) where
  keyVersion : Nat
  encryptionKey : Key
  historicalKeys : OrderedMap Nat (HistoricalKey Key)

namespace KeyRotations

variable {Key : Type} (permitted : Bool) (member : Nat → Option KeyedMember)

/-- A call runs from one await to the next one. The permission and the members stay the same. -/
def resume (context : GroupEncryptionContext Key) (key : Key) (now : Nat) :
    RotationStage → GroupEncryptionContext Key × RotationStage
  | .permission => if permitted then (context.archiveKey now, .newKey) else (context, .refused)
  | .newKey => (context.replaceKey key now, nextMember context.memberKeys.keys)
  | .member userId rest =>
      if ∃ found ∈ member userId, found.publicKey ≠ "" then (context, .encryptedKey userId rest)
      else (context, nextMember rest)
  | .encryptedKey userId rest => (context.reencryptMemberKey userId (member userId) now, nextMember rest)
  | .save => (context, .returned)
  | .returned => (context, .returned)
  | .refused => (context, .refused)

def step (state : KeyRotations Key) : RotationEvent Key → KeyRotations Key × List (ContextView Key)
  | .call => ({ state with calls := state.calls ++ [.permission] }, [])
  | .resume index key now =>
      match state.calls[index]? with
      | none => (state, [])
      | some stage =>
          let (context, next) := resume permitted member state.context key now stage
          ({ context := context
             groupVersion := if stage = .save then state.groupVersion.map fun _ => context.keyVersion
               else state.groupVersion
             calls := state.calls.set index next }, [])
  | .read => (state, [⟨state.context.keyVersion, state.context.encryptionKey, state.context.historicalKeys⟩])

/-- A group whose encryption was just initialised. -/
def start (context : GroupEncryptionContext Key) : KeyRotations Key := ⟨context, some context.keyVersion, []⟩

end KeyRotations

def rotationMachine {Key : Type} (permitted : Bool) (member : Nat → Option KeyedMember) :
    Machine (KeyRotations Key) (RotationEvent Key) (ContextView Key) := ⟨KeyRotations.step permitted member⟩

end SecureChat.Web
