/-
This file holds the calls of the browser client that ask the server for a role in a group.
-/

import SecureChat.Construction.Web.GroupKeys

namespace SecureChat.Web
open Library

structure GroupSize where
  memberCount : Nat
  maxMembers : Nat
  deriving DecidableEq, Repr

/-- The size of a group is kept beside what is known of it. -/
structure GroupRoleManager (Key : Type) extends GroupKeyManager Key where
  sizes : Nat → GroupSize

def groupRoleToCode : GroupRole → Nat
  | .owner => 0
  | .admin => 1
  | .moderator => 2
  | .member => 3
  | .guest => 4

/-- The fields of a request as the server reads them. -/
structure RoleRequest where
  type : Nat
  groupId : Nat
  userId : Nat
  role : GroupRole
  deriving DecidableEq, Repr

namespace RoleRequest

/-- A number keeps the 64 bits that are written of it. -/
def create (type groupId userId : Nat) (role : GroupRole) : RoleRequest := ⟨type, groupId % 2 ^ 64, userId % 2 ^ 64, role⟩

def data (request : RoleRequest) : List UInt8 :=
  uintBytes 8 request.groupId ++ uintBytes 8 request.userId ++ uintBytes 1 (groupRoleToCode request.role)

end RoleRequest

namespace GroupRoleManager

variable {Key : Type}

def maxGroupAdmins : Nat := 50

def maxGroupModerators : Nat := 100

/-- Members that are not cached are fetched before the permission is known. -/
def fetchMembers (manager : GroupRoleManager Key) (groupId : Nat) (answer : List KeyedMember) : GroupRoleManager Key :=
  match manager.groupMembers groupId with
  | some _ => manager
  | none => { manager with toGroupKeyManager := manager.handleGroupMembersResponse answer }

/-- The members come with the default limit of one page. -/
def getRoleCount (manager : GroupRoleManager Key) (groupId : Nat) (role : GroupRole) : Nat :=
  ((manager.getGroupMembers groupId 100 0).filter fun member => member.role = role).length

/-- The request that is sent, or the error. The answer counts only if no members are cached. -/
def inviteMember (manager : GroupRoleManager Key) (answer : List KeyedMember) (groupId userId : Nat)
    (role : GroupRole) : Except String RoleRequest :=
  let manager := manager.fetchMembers groupId answer
  if manager.hasPermission groupId .inviteMember = false then .error "没有权限邀请成员"
  else if (manager.groups groupId).isSome ∧ (manager.sizes groupId).memberCount ≥ (manager.sizes groupId).maxMembers then
    .error "群组已满"
  else .ok (.create 0x04000003 groupId userId role)

def setMemberRole (manager : GroupRoleManager Key) (answer : List KeyedMember) (groupId userId : Nat)
    (role : GroupRole) : Except String RoleRequest :=
  let manager := manager.fetchMembers groupId answer
  if manager.hasPermission groupId .promoteMember = false then .error "没有权限设置成员角色" else
  match manager.getGroupMember groupId userId with
  | none => .error "成员不存在"
  | some _ =>
      if role = .admin ∧ manager.getRoleCount groupId .admin ≥ maxGroupAdmins then
        .error s!"管理员数量不能超过{maxGroupAdmins}"
      else if role = .moderator ∧ manager.getRoleCount groupId .moderator ≥ maxGroupModerators then
        .error s!"审核员数量不能超过{maxGroupModerators}"
      else .ok (.create 0x0400000E groupId userId role)

end GroupRoleManager

end SecureChat.Web
