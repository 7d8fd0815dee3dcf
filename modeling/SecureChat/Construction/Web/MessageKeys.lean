/-
This file holds the keys of the message encryption manager: in memory, in the local storage and in the archive.
-/

import SecureChat.Construction.Web.Encryption
import SecureChat.Library.Machine
import SecureChat.Library.OrderedMap

namespace SecureChat.Web.MessageEncryptionManager
open Library

def dayMilliseconds : Nat := 24 * 60 * 60 * 1000

/-- The encryption context of a group. A number stands for each key that was generated. -/
structure GroupContext where
  groupId : Int
  encryptionKey : Nat
  keyVersion : Nat
  keyRotationDate : Nat
  members : OrderedMap Int String
  deriving DecidableEq

inductive StorageName where
  | encryptionKey (keyId : String)
  | groupContext (groupId : Int) (keyVersion : Nat)
  | archivedKey (keyId : String) (now : Nat)
  | archivedGroupKey (groupId : Int) (keyVersion now : Nat)
  deriving DecidableEq

inductive StoredItem where
  | key (key : MessageEncryptionKey Nat)
  | context (context : GroupContext)
  deriving DecidableEq

def bigintError : String := "Do not know how to serialize a BigInt"

/-- `JSON.stringify` of a key. Its users and its group are big integers. -/
def stringifyKey (key : MessageEncryptionKey Nat) : Except String StoredItem :=
  if key.userIds = [] ∧ key.groupId = none then .ok (.key key) else .error bigintError

/-- `JSON.stringify` of a context. Its group is a big integer. -/
def stringifyContext (_ : GroupContext) : Except String StoredItem := .error bigintError

def sessionKeyId (receiverId : Int) : String := s!"session_{receiverId}"
def messageKeyId (now : Nat) (random : String) : String := s!"key_{now}_{random}"
def groupKeyId (groupId : Int) (keyVersion : Nat) : String := s!"group_{groupId}_v{keyVersion}"
def missingContext (groupId : Int) : String := s!"No encryption context for group: {groupId}"


/-- The maps of the manager, the local storage, and how many keys were generated. -/
structure KeyStore where
  messageKeys : OrderedMap String (MessageEncryptionKey Nat)
  groupContexts : OrderedMap Int GroupContext
  localStorage : OrderedMap StorageName StoredItem
  generated : Nat
  deriving DecidableEq

namespace KeyStore

def empty : KeyStore := ⟨.empty, .empty, .empty, 0⟩

def setItem (store : KeyStore) (name : StorageName) (item : StoredItem) : KeyStore :=
  { store with localStorage := store.localStorage.set name item }

/-- An error is caught. -/
def storeKey (store : KeyStore) (key : MessageEncryptionKey Nat) : KeyStore :=
  match stringifyKey key with
  | .ok item => store.setItem (.encryptionKey key.keyId) item
  | .error _ => store

def storeGroupContext (store : KeyStore) (context : GroupContext) : KeyStore :=
  match stringifyContext context with
  | .ok item => store.setItem (.groupContext context.groupId context.keyVersion) item
  | .error _ => store

/-- An error is not caught. -/
def archiveOldKey (store : KeyStore) (key : MessageEncryptionKey Nat) (now : Nat) : KeyStore × Except String Unit :=
  match stringifyKey key with
  | .ok item => (store.setItem (.archivedKey key.keyId now) item, .ok ())
  | .error reason => (store, .error reason)

def archiveOldGroupKey (store : KeyStore) (context : GroupContext) (now : Nat) : KeyStore × Except String Unit :=
  match stringifyContext context with
  | .ok item => (store.setItem (.archivedGroupKey context.groupId context.keyVersion now) item, .ok ())
  | .error reason => (store, .error reason)

def loadKey (store : KeyStore) (keyId : String) : Option (MessageEncryptionKey Nat) :=
  match store.localStorage.get (.encryptionKey keyId) with
  | some (.key key) => some key
  | _ => none

def loadGroupContext (store : KeyStore) (groupId : Int) (keyVersion : Nat) : Option GroupContext :=
  match store.localStorage.get (.groupContext groupId keyVersion) with
  | some (.context context) => some context
  | _ => none

/-- One name of the storage is looked at. -/
def loadStored (store : KeyStore) : StorageName → KeyStore
  | .encryptionKey keyId =>
      match store.loadKey keyId with
      | some key => { store with messageKeys := store.messageKeys.set keyId key }
      | none => store
  | .groupContext groupId keyVersion =>
      match store.loadGroupContext groupId keyVersion with
      | some context => { store with groupContexts := store.groupContexts.set groupId context }
      | none => store
  | _ => store

def loadStoredKeys (store : KeyStore) : KeyStore := store.localStorage.keys.foldl loadStored store

/-- `destroy`, and `initialize` of the next manager. -/
def reload (store : KeyStore) : KeyStore :=
  loadStoredKeys { store with messageKeys := .empty, groupContexts := .empty }

variable (random : Nat → String)

def generateMessageKey (store : KeyStore) (userIds : List Int) (groupId : Option Int) (now : Nat) :
    KeyStore × MessageEncryptionKey Nat :=
  ({ store with generated := store.generated + 1 },
    { keyId := messageKeyId now (random store.generated)
      keyData := store.generated
      createdAt := now
      expiresAt := now + 30 * dayMilliseconds
      userIds := userIds
      groupId := groupId })

/-- A group that is zero counts as none. -/
def getEncryptionKey (store : KeyStore) (receiverId : Int) (groupId : Option Int) (now : Nat) :
    KeyStore × Except String (MessageEncryptionKey Nat) :=
  match groupId.filter fun groupId => groupId ≠ 0 with
  | some groupId =>
      match store.groupContexts.get groupId with
      | none => (store, .error (missingContext groupId))
      | some context => (store, .ok
          { keyId := groupKeyId groupId context.keyVersion
            keyData := context.encryptionKey
            createdAt := context.keyRotationDate
            expiresAt := context.keyRotationDate + 7 * dayMilliseconds
            userIds := context.members.keys
            groupId := some groupId })
  | none =>
      match (store.messageKeys.get (sessionKeyId receiverId)).filter fun key => ¬ key.expiresAt < now with
      | some encryptionKey => (store, .ok encryptionKey)
      | none =>
          let (store, encryptionKey) := store.generateMessageKey random [receiverId] none now
          let store :=
            { store with messageKeys := store.messageKeys.set (sessionKeyId receiverId) encryptionKey }
          (store.storeKey encryptionKey, .ok encryptionKey)

/-- A key that was loaded is kept in memory. -/
def getDecryptionKey (store : KeyStore) (keyId : Option String) : KeyStore × Option (MessageEncryptionKey Nat) :=
  match keyId.filter fun keyId => keyId ≠ "" with
  | none => (store, none)
  | some keyId =>
      match store.messageKeys.get keyId with
      | some encryptionKey => (store, some encryptionKey)
      | none =>
          match store.loadKey keyId with
          | some encryptionKey =>
              ({ store with messageKeys := store.messageKeys.set keyId encryptionKey }, some encryptionKey)
          | none => (store, none)

def generateGroupEncryptionContext (store : KeyStore) (groupId : Int) (memberIds : List Int) (now : Nat) :
    KeyStore × GroupContext :=
  let context : GroupContext :=
    { groupId := groupId
      encryptionKey := store.generated
      keyVersion := 1
      keyRotationDate := now
      members := memberIds.foldl (fun members memberId => members.set memberId "encrypted_key_placeholder") .empty }
  let store := { store with
    generated := store.generated + 1
    groupContexts := store.groupContexts.set groupId context }
  (store.storeGroupContext context, context)

/-- The new context is in the map already when its version is set. -/
def rotateGroupKey (store : KeyStore) (groupId : Int) (now : Nat) : KeyStore × Except String Unit :=
  match store.groupContexts.get groupId with
  | none => (store, .error (missingContext groupId))
  | some oldContext =>
      let (store, newContext) := store.generateGroupEncryptionContext groupId oldContext.members.keys now
      let newContext := { newContext with keyVersion := oldContext.keyVersion + 1 }
      let store := { store with groupContexts := store.groupContexts.set groupId newContext }
      store.archiveOldGroupKey oldContext now

def addMemberToGroup (store : KeyStore) (groupId memberId : Int) (now : Nat) : KeyStore × Except String Unit :=
  match store.groupContexts.get groupId with
  | none => (store, .error (missingContext groupId))
  | some context =>
      let context := { context with
        members := context.members.set memberId s!"encrypted_group_key_for_member_{now}" }
      let store := { store with groupContexts := store.groupContexts.set groupId context }
      (store.storeGroupContext context, .ok ())

def removeMemberFromGroup (store : KeyStore) (groupId memberId : Int) (now : Nat) : KeyStore × Except String Unit :=
  match store.groupContexts.get groupId with
  | none => (store, .error (missingContext groupId))
  | some context =>
      let context := { context with members := context.members.delete memberId }
      let store := { store with groupContexts := store.groupContexts.set groupId context }
      store.rotateGroupKey groupId now

def rotateMessageKey (store : KeyStore) (keyId : String) (now : Nat) : KeyStore × Except String Unit :=
  match store.messageKeys.get keyId with
  | none => (store, .ok ())
  | some oldKey =>
      let (store, newKey) := store.generateMessageKey random oldKey.userIds oldKey.groupId now
      let store := { store with messageKeys := (store.messageKeys.delete keyId).set newKey.keyId newKey }
      (store.storeKey newKey).archiveOldKey oldKey now

/-- The rotations of a loop, as far as the first one that throws. -/
def forEach {Name : Type} (rotate : KeyStore → Name → KeyStore × Except String Unit) :
    List Name → KeyStore → KeyStore × Except String Unit
  | [], store => (store, .ok ())
  | name :: names, store =>
      match rotate store name with
      | (store, .ok ()) => forEach rotate names store
      | (store, .error reason) => (store, .error reason)

/-- A key is rotated in its last seven days, and a group key after thirty days. -/
def checkKeyRotation (store : KeyStore) (now : Nat) : KeyStore × Except String Unit :=
  let rotateKey := fun (store : KeyStore) (keyId : String) =>
    if ∃ key ∈ store.messageKeys.get keyId, key.expiresAt < now + 7 * dayMilliseconds then
      store.rotateMessageKey random keyId now
    else (store, .ok ())
  let rotateGroup := fun (store : KeyStore) (groupId : Int) =>
    if ∃ context ∈ store.groupContexts.get groupId, context.keyRotationDate + 30 * dayMilliseconds < now then
      store.rotateGroupKey groupId now
    else (store, .ok ())
  match forEach rotateKey store.messageKeys.keys store with
  | (store, .ok ()) => forEach rotateGroup store.groupContexts.keys store
  | (store, .error reason) => (store, .error reason)

end KeyStore

/-- A message that was produced, and the key that encrypted it. -/
structure ProducedMessage where
  encryptedData : EncryptedMessageData
  key : Nat
  deriving DecidableEq

inductive KeyEvent where
  | encryptMessage (message : MessageContent) (receiverId : Int) (groupId : Option Int) (iv : List UInt8) (now : Nat)
  | decryptMessage (encryptedData : EncryptedMessageData)
  | generateGroupEncryptionContext (groupId : Int) (memberIds : List Int) (now : Nat)
  | rotateGroupKey (groupId : Int) (now : Nat)
  | addMemberToGroup (groupId memberId : Int) (now : Nat)
  | removeMemberFromGroup (groupId memberId : Int) (now : Nat)
  | checkKeyRotation (now : Nat)
  | reload
  deriving DecidableEq

variable (aes : AesGcm Nat) (random : Nat → String)

def encryptMessage (store : KeyStore) (message : MessageContent) (receiverId : Int) (groupId : Option Int)
    (iv : List UInt8) (now : Nat) : KeyStore × Except String ProducedMessage :=
  let (store, encryptionKey) := store.getEncryptionKey random receiverId groupId now
  (store, encryptionKey.map fun encryptionKey =>
    ⟨encryptWithKey aes encryptionKey iv now message receiverId groupId, encryptionKey.keyData⟩)

def decryptMessage (store : KeyStore) (encryptedData : EncryptedMessageData) :
    KeyStore × Except String MessageContent :=
  match checkFormat encryptedData with
  | .error reason => (store, .error reason)
  | .ok () =>
      let (store, encryptionKey) := store.getDecryptionKey encryptedData.keyId
      (store, decryptWithKey aes encryptionKey encryptedData)

def keyStep (store : KeyStore) : KeyEvent → KeyStore × List ProducedMessage
  | .encryptMessage message receiverId groupId iv now =>
      let (store, produced) := encryptMessage aes random store message receiverId groupId iv now
      (store, produced.toOption.toList)
  | .decryptMessage encryptedData => ((decryptMessage aes store encryptedData).1, [])
  | .generateGroupEncryptionContext groupId memberIds now =>
      ((store.generateGroupEncryptionContext groupId memberIds now).1, [])
  | .rotateGroupKey groupId now => ((store.rotateGroupKey groupId now).1, [])
  | .addMemberToGroup groupId memberId now => ((store.addMemberToGroup groupId memberId now).1, [])
  | .removeMemberFromGroup groupId memberId now => ((store.removeMemberFromGroup groupId memberId now).1, [])
  | .checkKeyRotation now => ((store.checkKeyRotation random now).1, [])
  | .reload => (store.reload, [])

def keyMachine : Machine KeyStore KeyEvent ProducedMessage := ⟨keyStep aes random⟩

end SecureChat.Web.MessageEncryptionManager
