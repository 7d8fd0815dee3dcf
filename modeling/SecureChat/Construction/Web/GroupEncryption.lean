/-
This file holds the keys of the group encryption service beside the group manager that it asks.
-/

import SecureChat.Construction.Web.Encryption
import SecureChat.Construction.Web.GroupKeys

namespace SecureChat.Web
open Library

structure GroupKeyBundle where
  keyId : String
  groupId : Nat
  keyVersion : Nat
  encryptedKey : List Char
  publicKey : String
  signature : String
  timestamp : Nat
  expiresAt : Nat
  deriving DecidableEq, Repr

namespace GroupEncryptionService

inductive StorageName where
  | groupKey (groupId keyVersion : Nat)
  | archivedGroupKey (groupId keyVersion now : Nat)
  | keyBundle (keyId : String)
  deriving DecidableEq, Repr

end GroupEncryptionService

/-- The keys of the service by group and version. A number stands for each key that was generated. -/
structure GroupEncryptionService where
  groupManager : GroupKeyManager Nat
  keyBundles : OrderedMap String GroupKeyBundle
  groupKeys : OrderedMap (Nat × Nat) Nat
  localStorage : OrderedMap GroupEncryptionService.StorageName Nat
  generated : Nat

namespace GroupEncryptionService

def create (groupManager : GroupKeyManager Nat) : GroupEncryptionService := ⟨groupManager, .empty, .empty, .empty, 0⟩

def generateGroupKey (service : GroupEncryptionService) (groupId keyVersion : Nat) : GroupEncryptionService × Nat :=
  let key := service.generated
  ({ service with
    generated := service.generated + 1
    groupKeys := service.groupKeys.set (groupId, keyVersion) key
    localStorage := service.localStorage.set (.groupKey groupId keyVersion) key }, key)

def loadGroupKey (service : GroupEncryptionService) (groupId keyVersion : Nat) : GroupEncryptionService × Option Nat :=
  match service.localStorage.get (.groupKey groupId keyVersion) with
  | none => (service, none)
  | some key => ({ service with groupKeys := service.groupKeys.set (groupId, keyVersion) key }, some key)

def getGroupKey (service : GroupEncryptionService) (groupId keyVersion : Nat) : GroupEncryptionService × Option Nat :=
  match service.groupKeys.get (groupId, keyVersion) with
  | some key => (service, some key)
  | none => service.loadGroupKey groupId keyVersion

variable (exportKey : Nat → List UInt8)

/-- The bundle is not stored: its group is a big integer, and the error is caught. -/
def createKeyBundleForMember (service : GroupEncryptionService) (groupId : Nat) (member : KeyedMember)
    (groupKey keyVersion now : Nat) : GroupEncryptionService × Except String GroupKeyBundle :=
  if member.publicKey = "" then (service, .error "成员没有公钥") else
  let bundle : GroupKeyBundle :=
    { keyId := s!"group_{groupId}_v{keyVersion}_{member.userId}"
      groupId := groupId
      keyVersion := keyVersion
      encryptedKey := arrayBufferToBase64 (exportKey groupKey)
      publicKey := member.publicKey
      signature := ""
      timestamp := now
      expiresAt := now + 30 * 24 * 60 * 60 * 1000 }
  ({ service with keyBundles := service.keyBundles.set bundle.keyId bundle }, .ok bundle)

/-- A stored key moves to the archive, and out of the memory. -/
def archiveOldKey (service : GroupEncryptionService) (groupId keyVersion now : Nat) : GroupEncryptionService :=
  match service.localStorage.get (.groupKey groupId keyVersion) with
  | none => service
  | some stored =>
      { service with
        localStorage := (service.localStorage.set (.archivedGroupKey groupId keyVersion now) stored).delete
          (.groupKey groupId keyVersion)
        groupKeys := service.groupKeys.delete (groupId, keyVersion) }

/-- The version after the one that the group manager knows. -/
def rotateGroupKey (service : GroupEncryptionService) (groupId now : Nat) :
    GroupEncryptionService × Except String Nat :=
  match service.groupManager.groups groupId with
  | none => (service, .error "群组不存在")
  | some groupInfo =>
      let newKeyVersion := groupInfo.encryptionKeyVersion + 1
      let (service, newKey) := service.generateGroupKey groupId newKeyVersion
      let members := service.groupManager.getGroupMembers groupId 100 0
      let service := members.foldl (fun service member =>
        if member.publicKey ≠ "" then
          (service.createKeyBundleForMember exportKey groupId member newKey newKeyVersion now).1
        else service) service
      (service.archiveOldKey groupId groupInfo.encryptionKeyVersion now, .ok newKeyVersion)

def addMemberToEncryptedGroup (service : GroupEncryptionService) (groupId : Nat) (member : KeyedMember) (now : Nat) :
    GroupEncryptionService × Except String Unit :=
  match service.groupManager.groups groupId with
  | none => (service, .error "群组不存在")
  | some groupInfo =>
      if groupInfo.encryptionEnabled = false then (service, .ok ()) else
      if member.publicKey = "" then (service, .error "新成员没有公钥，无法加入加密群组") else
      match service.getGroupKey groupId groupInfo.encryptionKeyVersion with
      | (service, none) => (service, .error "群组密钥不存在")
      | (service, some groupKey) =>
          ((service.createKeyBundleForMember exportKey groupId member groupKey groupInfo.encryptionKeyVersion now).1,
            .ok ())

/-- The identifiers of the bundles of a user in a group, as far as the text of the identifier tells. -/
def bundlesOf (service : GroupEncryptionService) (groupId userId : Nat) : List String :=
  (service.keyBundles.entries.filter fun (keyId, bundle) =>
    bundle.groupId = groupId ∧ (s!"_{userId}").toList <:+: keyId.toList).map Prod.fst

def removeMemberFromEncryptedGroup (service : GroupEncryptionService) (groupId userId now : Nat) :
    GroupEncryptionService × Except String Nat :=
  let service := (service.bundlesOf groupId userId).foldl (fun service keyId =>
    { service with
      keyBundles := service.keyBundles.delete keyId
      localStorage := service.localStorage.delete (.keyBundle keyId) }) service
  service.rotateGroupKey exportKey groupId now

variable (aes : AesGcm Nat)

def encryptGroupMessage (service : GroupEncryptionService) (groupId keyVersion : Nat) (message : MessageContent)
    (iv : List UInt8) (now : Nat) : GroupEncryptionService × Except String EncryptedGroupMessage :=
  let (service, groupKey) := service.getGroupKey groupId keyVersion
  (service, encryptWithKey aes groupKey iv now groupId keyVersion message)

end GroupEncryptionService

/-- What became of a version of a group: a key was given to it, or a message was encrypted under it. -/
inductive VersionUse where
  | given (groupId keyVersion key : Nat) (byRotation : Bool)
  | encrypted (groupId keyVersion key : Nat) (message : EncryptedGroupMessage)
  deriving DecidableEq, Repr

inductive GroupServiceEvent where
  | generateGroupKey (groupId keyVersion : Nat)
  | rotateGroupKey (groupId now : Nat)
  | addMemberToEncryptedGroup (groupId : Nat) (member : KeyedMember) (now : Nat)
  | removeMemberFromEncryptedGroup (groupId userId now : Nat)
  | encryptGroupMessage (groupId keyVersion : Nat) (message : MessageContent) (iv : List UInt8) (now : Nat)
  | getGroupKey (groupId keyVersion : Nat)
  | groupInfoReceived (groupInfo : EncryptedGroup)
  | groupManager (event : GroupKeyEvent Nat)

namespace GroupEncryptionService

variable (exportKey : Nat → List UInt8) (aes : AesGcm Nat)

/-- A rotation gives the next key to its version. -/
def rotationUse (service : GroupEncryptionService) (groupId : Nat) : Except String Nat → List VersionUse
  | .ok newKeyVersion => [.given groupId newKeyVersion service.generated true]
  | .error _ => []

def serviceStep (service : GroupEncryptionService) :
    GroupServiceEvent → GroupEncryptionService × List VersionUse
  | .generateGroupKey groupId keyVersion =>
      let (next, key) := service.generateGroupKey groupId keyVersion
      (next, [.given groupId keyVersion key false])
  | .rotateGroupKey groupId now =>
      let (next, newKeyVersion) := service.rotateGroupKey exportKey groupId now
      (next, service.rotationUse groupId newKeyVersion)
  | .addMemberToEncryptedGroup groupId member now =>
      ((service.addMemberToEncryptedGroup exportKey groupId member now).1, [])
  | .removeMemberFromEncryptedGroup groupId userId now =>
      let (next, newKeyVersion) := service.removeMemberFromEncryptedGroup exportKey groupId userId now
      (next, service.rotationUse groupId newKeyVersion)
  | .encryptGroupMessage groupId keyVersion message iv now =>
      let (next, produced) := service.encryptGroupMessage aes groupId keyVersion message iv now
      match (service.getGroupKey groupId keyVersion).2, produced with
      | some key, .ok produced => (next, [.encrypted groupId keyVersion key produced])
      | _, _ => (next, [])
  | .getGroupKey groupId keyVersion => ((service.getGroupKey groupId keyVersion).1, [])
  | .groupInfoReceived groupInfo =>
      ({ service with groupManager := { service.groupManager with
        groups := Function.update service.groupManager.groups groupInfo.groupId (some groupInfo) } }, [])
  | .groupManager event =>
      ({ service with groupManager := ((groupKeyMachine Nat).step service.groupManager event).1 }, [])

def serviceMachine : Machine GroupEncryptionService GroupServiceEvent VersionUse := ⟨serviceStep exportKey aes⟩

end GroupEncryptionService

end SecureChat.Web
