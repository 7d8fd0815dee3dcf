import SecureChat.Construction.Web.GroupRoles

namespace SecureChat.Web.GroupRoleManager
open Library

variable {Key : Type}

/-- The owner of a group as the group says, or as the role of the member does. -/
def IsOwner (manager : GroupRoleManager Key) (groupId userId : Nat) : Prop :=
  (∃ groupInfo, manager.groups groupId = some groupInfo ∧ groupInfo.ownerId = userId) ∨
    ∃ member, manager.getGroupMember groupId userId = some member ∧ member.role = .owner

def roleLimit : GroupRole → Option Nat
  | .admin => some maxGroupAdmins
  | .moderator => some maxGroupModerators
  | _ => none

def cachedMembers (manager : GroupRoleManager Key) (groupId : Nat) : List (Nat × KeyedMember) :=
  ((manager.groupMembers groupId).map OrderedMap.entries).getD []

/-- All cached members with a role, but for the user who is to have it. -/
def othersWithRole (manager : GroupRoleManager Key) (groupId userId : Nat) (role : GroupRole) : Nat :=
  ((manager.cachedMembers groupId).filter fun entry => entry.1 ≠ userId ∧ entry.2.role = role).length

/-- One more member with the role is within the limit. -/
def Room (manager : GroupRoleManager Key) (groupId userId : Nat) (role : GroupRole) : Prop :=
  ∀ limit, roleLimit role = some limit → manager.othersWithRole groupId userId role < limit

/-- A request without an escalation. The lower code is the higher role. -/
structure SafeRequest (manager : GroupRoleManager Key) (request : RoleRequest) : Prop where
  target : ¬manager.IsOwner request.groupId request.userId
  granted : request.role ≠ .owner
  caller : ∀ caller, manager.getGroupMember request.groupId manager.currentUserId = some caller →
    groupRoleToCode caller.role ≤ groupRoleToCode request.role
  room : manager.Room request.groupId request.userId request.role

/-- The caller may give every role but that of the owner, or has no higher role than the one that is given. -/
def CallerAllows (manager : GroupRoleManager Key) (groupId : Nat) (role : GroupRole) : Prop :=
  ∀ caller, manager.getGroupMember groupId manager.currentUserId = some caller →
    caller.role = .owner ∨ caller.role = .admin ∨ groupRoleToCode caller.role ≤ groupRoleToCode role

theorem callerAllows_iff (manager : GroupRoleManager Key) (groupId : Nat) {role : GroupRole} (other : role ≠ .owner) :
    manager.CallerAllows groupId role ↔
      ∀ caller, manager.getGroupMember groupId manager.currentUserId = some caller →
        groupRoleToCode caller.role ≤ groupRoleToCode role := by
  have positive : 1 ≤ groupRoleToCode role := by
    cases role with
    | owner => exact absurd rfl other
    | _ => decide
  constructor
  · intro allows caller known
    rcases allows caller known with owner | admin | lower
    · rw [owner]
      exact Nat.zero_le _
    · rw [admin]
      exact positive
    · exact lower
  · exact fun lower caller known => .inr (.inr (lower caller known))

/-- With one page of cached members the first hundred are all of them. -/
theorem othersWithRole_le_roleCount (manager : GroupRoleManager Key) {groupId : Nat}
    (page : (manager.cachedMembers groupId).length ≤ 100) (userId : Nat) (role : GroupRole) :
    manager.othersWithRole groupId userId role ≤ manager.getRoleCount groupId role := by
  unfold othersWithRole getRoleCount GroupKeyManager.getGroupMembers
  unfold cachedMembers at page ⊢
  cases cached : manager.groupMembers groupId with
  | none => simp
  | some memberMap =>
      rw [cached, Option.map_some, Option.getD_some] at page
      have whole : (memberMap.values.drop 0).take 100 = memberMap.values := by
        apply List.take_of_length_le
        rw [List.drop_zero, OrderedMap.values, List.length_map]
        exact page
      have others : ((memberMap.entries.filter fun entry => entry.1 ≠ userId ∧ entry.2.role = role).map Prod.snd).Sublist
          (memberMap.values.filter fun member => member.role = role) := by
        rw [OrderedMap.values, List.filter_map]
        apply List.Sublist.map
        apply List.monotone_filter_right
        intro entry chosen
        simpa using (of_decide_eq_true chosen).2
      dsimp only [Option.map_some, Option.getD_some]
      have counted := others.length_le
      rw [List.length_map] at counted
      rw [whole]
      exact counted

/-- What the call of `setMemberRole` is refused for. -/
def SetRefused (manager : GroupRoleManager Key) (groupId userId : Nat) (role : GroupRole) : Prop :=
  manager.hasPermission groupId .promoteMember = false ∨ manager.getGroupMember groupId userId = none ∨
    ∃ limit, roleLimit role = some limit ∧ limit ≤ manager.getRoleCount groupId role

def InviteRefused (manager : GroupRoleManager Key) (groupId : Nat) : Prop :=
  manager.hasPermission groupId .inviteMember = false ∨
    (manager.groups groupId).isSome ∧ (manager.sizes groupId).memberCount ≥ (manager.sizes groupId).maxMembers

/-- No check of the code keeps a call from being anything else. -/
structure Harmless (manager : GroupRoleManager Key) (groupId userId : Nat) (role : GroupRole) : Prop where
  target : ¬manager.IsOwner groupId userId
  granted : role ≠ .owner
  caller : manager.CallerAllows groupId role

theorem safeRequest_iff (manager : GroupRoleManager Key) (type groupId userId : Nat) (role : GroupRole) :
    manager.SafeRequest (.create type groupId userId role) ↔
      manager.Harmless (groupId % 2 ^ 64) (userId % 2 ^ 64) role ∧
        manager.Room (groupId % 2 ^ 64) (userId % 2 ^ 64) role := by
  constructor
  · intro safe
    exact ⟨⟨safe.target, safe.granted, (callerAllows_iff manager _ safe.granted).mpr safe.caller⟩, safe.room⟩
  · intro ⟨harmless, room⟩
    exact ⟨harmless.target, harmless.granted, (callerAllows_iff manager _ harmless.granted).mp harmless.caller, room⟩

section
variable (manager : GroupRoleManager Key) (answer : List KeyedMember) (groupId userId : Nat) (role : GroupRole)

theorem setMemberRole_ok_iff (request : RoleRequest) :
    manager.setMemberRole answer groupId userId role = .ok request ↔
      ¬(manager.fetchMembers groupId answer).SetRefused groupId userId role ∧
        request = .create 0x0400000E groupId userId role := by
  unfold setMemberRole SetRefused
  generalize manager.fetchMembers groupId answer = ready
  dsimp only
  cases permitted : ready.hasPermission groupId .promoteMember with
  | false => simp
  | true =>
      cases known : ready.getGroupMember groupId userId with
      | none => simp
      | some member =>
          cases role with
          | admin => by_cases full : maxGroupAdmins ≤ ready.getRoleCount groupId .admin <;> simp [roleLimit, full, eq_comm]
          | moderator =>
              by_cases full : maxGroupModerators ≤ ready.getRoleCount groupId .moderator <;>
                simp [roleLimit, full, eq_comm]
          | _ => simp [roleLimit, eq_comm]

theorem inviteMember_ok_iff (request : RoleRequest) :
    manager.inviteMember answer groupId userId role = .ok request ↔
      ¬(manager.fetchMembers groupId answer).InviteRefused groupId ∧
        request = .create 0x04000003 groupId userId role := by
  unfold inviteMember InviteRefused
  generalize manager.fetchMembers groupId answer = ready
  dsimp only
  cases permitted : ready.hasPermission groupId .inviteMember with
  | false => simp
  | true =>
      by_cases full : (ready.groups groupId).isSome ∧
        (ready.sizes groupId).memberCount ≥ (ready.sizes groupId).maxMembers
      · rw [if_neg (by simp), if_pos full]
        simp [full.1, full.2]
      · rw [if_neg (by simp), if_neg full]
        simp only [Bool.true_eq_false, false_or, full, not_false_eq_true, true_and, Except.ok.injEq]
        exact eq_comm

/-- A page of cached members leaves room, if the limit is not reached in it. -/
theorem room_of_page {ready : GroupRoleManager Key} (sent : ¬ready.SetRefused groupId userId role)
    (small : groupId < 2 ^ 64) (page : (ready.cachedMembers groupId).length ≤ 100) :
    ready.Room (groupId % 2 ^ 64) (userId % 2 ^ 64) role := by
  intro limit limited
  rw [Nat.mod_eq_of_lt small]
  have counted := othersWithRole_le_roleCount ready page (userId % 2 ^ 64) role
  have below : ready.getRoleCount groupId role < limit := by
    by_contra reached
    exact sent (.inr (.inr ⟨limit, limited, Nat.not_lt.mp reached⟩))
  omega

/-- A call sends no request that raises a role too far exactly if it is refused by the checks that are made, or asks
for nothing of the kind. -/
theorem roleRequests_safe_iff :
    ((∀ request, manager.setMemberRole answer groupId userId role = .ok request →
        (manager.fetchMembers groupId answer).SafeRequest request) ↔
      (manager.fetchMembers groupId answer).SetRefused groupId userId role ∨
        (manager.fetchMembers groupId answer).Harmless (groupId % 2 ^ 64) (userId % 2 ^ 64) role ∧
          (groupId < 2 ^ 64 ∧ ((manager.fetchMembers groupId answer).cachedMembers groupId).length ≤ 100 ∨
            (manager.fetchMembers groupId answer).Room (groupId % 2 ^ 64) (userId % 2 ^ 64) role)) ∧
    ((∀ request, manager.inviteMember answer groupId userId role = .ok request →
        (manager.fetchMembers groupId answer).SafeRequest request) ↔
      (manager.fetchMembers groupId answer).InviteRefused groupId ∨
        (manager.fetchMembers groupId answer).Harmless (groupId % 2 ^ 64) (userId % 2 ^ 64) role ∧
          (manager.fetchMembers groupId answer).Room (groupId % 2 ^ 64) (userId % 2 ^ 64) role) := by
  simp only [setMemberRole_ok_iff, inviteMember_ok_iff, and_imp, forall_eq_apply_imp_iff]
  generalize manager.fetchMembers groupId answer = ready
  constructor
  · by_cases refused : ready.SetRefused groupId userId role
    · simp [refused]
    · simp only [refused, not_false_eq_true, false_or, forall_const, safeRequest_iff]
      apply and_congr_right
      intro _
      constructor
      · exact .inr
      · rintro (⟨small, page⟩ | room)
        · exact room_of_page groupId userId role refused small page
        · exact room
  · by_cases refused : ready.InviteRefused groupId
    · simp [refused]
    · simp only [refused, not_false_eq_true, false_or, forall_const, safeRequest_iff]

end

/-- An administrator in a group with its owner. -/
def adminManager : GroupRoleManager Unit where
  groups groupId := if groupId = 5 then some ⟨⟨5, 1, false, false⟩, 0⟩ else none
  groupMembers groupId :=
    if groupId = 5 then
      some ((OrderedMap.empty.set 1 ⟨⟨5, 1, .owner, [], none⟩, ""⟩).set 2 ⟨⟨5, 2, .admin, [], none⟩, ""⟩)
    else none
  encryptionContexts _ := none
  currentUserId := 2
  sizes _ := ⟨2, 100⟩

/-- The administrator makes a guest of the owner, and takes the role of the owner. -/
theorem roleRequests_not_safe :
    adminManager.setMemberRole [] 5 1 .guest = .ok (.create 0x0400000E 5 1 .guest) ∧
    ¬adminManager.SafeRequest (.create 0x0400000E 5 1 .guest) ∧
    adminManager.setMemberRole [] 5 2 .owner = .ok (.create 0x0400000E 5 2 .owner) ∧
    ¬adminManager.SafeRequest (.create 0x0400000E 5 2 .owner) ∧
    adminManager.inviteMember [] 5 3 .owner = .ok (.create 0x04000003 5 3 .owner) ∧
    ¬adminManager.SafeRequest (.create 0x04000003 5 3 .owner) := by
  refine ⟨rfl, fun safe => ?_, rfl, fun safe => safe.granted rfl, rfl, fun safe => safe.granted rfl⟩
  exact safe.target (.inl ⟨⟨⟨5, 1, false, false⟩, 0⟩, rfl, rfl⟩)

end SecureChat.Web.GroupRoleManager
