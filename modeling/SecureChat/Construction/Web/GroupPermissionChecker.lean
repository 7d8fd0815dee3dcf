/-
This file holds the rules that decide what a user may do in a group.
-/

import SecureChat.Construction.Web.GroupManager
import Mathlib.Algebra.Order.Ring.Rat

namespace SecureChat.Web

/-- Of the message or other object that an action is about, the rules read the sender. -/
structure Resource where
  senderId : Option Nat
  deriving DecidableEq, Repr

structure PermissionContext where
  groupId : Nat
  userId : Nat
  targetUserId : Option Nat
  action : String
  resource : Option Resource
  timestamp : Nat
  ipAddress : Option String
  userAgent : Option String
  deriving DecidableEq, Repr

/-- A condition reads the groups, the clock and the context. It may throw. -/
structure PermissionRule (Text : Type) where
  name : String
  condition : GroupManager Text → Nat → PermissionContext → Option Bool
  priority : Rat

structure Decision where
  allowed : Bool
  reason : Option String
  rules : List String
  deriving DecidableEq, Repr

structure GroupPermissionChecker (Text : Type) where
  rules : List (PermissionRule Text)

namespace GroupPermissionChecker

variable {Text : Type}

def getUserRole (manager : GroupManager Text) (groupId userId : Nat) : Option GroupRole :=
  (manager.getGroupMember groupId userId).map (·.role)

def checkUser2FA (_userId : Nat) : Bool := true

def checkUserEncryptionKey (_groupId _userId : Nat) : Bool := true

/-- The actions that change another member. -/
def changesMember (context : PermissionContext) : Bool :=
  context.action = "set_role" || context.action = "remove_member"

def ownerHasAllPermissions : PermissionRule Text where
  name := "owner_has_all_permissions"
  condition manager _ context :=
    some ((manager.getGroupInfo context.groupId).map (·.ownerId) = some context.userId)
  priority := 100

def cannotModifyOwner : PermissionRule Text where
  name := "cannot_modify_owner"
  condition manager _ context :=
    if changesMember context then
      some (context.targetUserId ≠ (manager.getGroupInfo context.groupId).map (·.ownerId))
    else some true
  priority := 90

def adminCannotModifyOtherAdmins : PermissionRule Text where
  name := "admin_cannot_modify_other_admins"
  condition manager _ context :=
    if changesMember context then
      let userRole := getUserRole manager context.groupId context.userId
      let targetRole := context.targetUserId.bind (getUserRole manager context.groupId)
      if userRole = some .admin ∧ targetRole = some .admin then some false else some true
    else some true
  priority := 80

def mutedUsersCannotSendMessages : PermissionRule Text where
  name := "muted_users_cannot_send_messages"
  condition manager now context :=
    if context.action = "send_message" then
      match (manager.getGroupMember context.groupId context.userId).bind (·.mutedUntil) with
      | some mutedUntil => if mutedUntil ≠ 0 ∧ mutedUntil > now then some false else some true
      | none => some true
    else some true
  priority := 70

def canOnlyDeleteOwnMessages : PermissionRule Text where
  name := "can_only_delete_own_messages"
  condition manager _ context :=
    if context.action = "delete_message" then
      if context.resource.bind (·.senderId) ≠ some context.userId then
        some (manager.hasPermission context.groupId .deleteMessage)
      else some true
    else some true
  priority := 60

def twoFactorRequired : PermissionRule Text where
  name := "two_factor_required"
  condition manager _ context :=
    if (manager.getGroupInfo context.groupId).any (·.twoFactorRequired) then some (checkUser2FA context.userId)
    else some true
  priority := 50

def encryptionKeyRequired : PermissionRule Text where
  name := "encryption_key_required"
  condition manager _ context :=
    if (manager.getGroupInfo context.groupId).any (·.encryptionEnabled) then
      some (checkUserEncryptionKey context.groupId context.userId)
    else some true
  priority := 40

def initializeDefaultRules : GroupPermissionChecker Text where
  rules := [ownerHasAllPermissions, cannotModifyOwner, adminCannotModifyOtherAdmins,
    mutedUsersCannotSendMessages, canOnlyDeleteOwnMessages, twoFactorRequired, encryptionKeyRequired]

def addRule (checker : GroupPermissionChecker Text) (rule : PermissionRule Text) : GroupPermissionChecker Text :=
  { checker with rules := checker.rules ++ [rule] }

def removeRule (checker : GroupPermissionChecker Text) (ruleName : String) : GroupPermissionChecker Text :=
  { checker with rules := checker.rules.filter (·.name ≠ ruleName) }

/-- The first rule that does not hold ends the check. -/
def applyRules (manager : GroupManager Text) (now : Nat) (context : PermissionContext) :
    List (PermissionRule Text) → List String → Decision
  | [], appliedRules => ⟨true, none, appliedRules⟩
  | rule :: rest, appliedRules =>
      let appliedRules := appliedRules ++ [rule.name]
      match rule.condition manager now context with
      | some true => applyRules manager now context rest appliedRules
      | some false => ⟨false, some ("规则 \"" ++ rule.name ++ "\" 拒绝访问"), appliedRules⟩
      | none => ⟨false, some ("规则 \"" ++ rule.name ++ "\" 执行错误"), appliedRules⟩

def checkPermission (checker : GroupPermissionChecker Text) (manager : GroupManager Text) (now : Nat)
    (context : PermissionContext) : Decision :=
  let sortedRules := checker.rules.mergeSort fun first second => decide (second.priority ≤ first.priority)
  applyRules manager now context sortedRules []

end GroupPermissionChecker

/-- A change of the rules. -/
inductive RuleCall (Text : Type) where
  | addRule (rule : PermissionRule Text)
  | removeRule (ruleName : String)

/-- The rules after several changes of the default ones. -/
def GroupPermissionChecker.after {Text : Type} (calls : List (RuleCall Text)) : GroupPermissionChecker Text :=
  calls.foldl (fun checker call =>
    match call with
    | .addRule rule => checker.addRule rule
    | .removeRule ruleName => checker.removeRule ruleName) initializeDefaultRules

end SecureChat.Web
