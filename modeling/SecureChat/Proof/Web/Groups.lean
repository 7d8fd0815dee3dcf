import SecureChat.Construction.Web.GroupManager
import SecureChat.Library.StableSort
import SecureChat.Construction.Web.GroupPermissionChecker

namespace SecureChat.Web
open Library

variable {Text : Type}

namespace GroupManager

/-- The place in front of the first later message is the place behind all that are not later. -/
theorem insertAfter_eq (messages : List (GroupMessage Text)) (message : GroupMessage Text) :
    StableSort.insertAfter (·.timestamp) message messages =
      match messages.findIdx? (·.timestamp > message.timestamp) with
      | none => messages ++ [message]
      | some index => messages.insertIdx index message := by
  induction messages with
  | nil => rfl
  | cons first rest ih =>
      rw [StableSort.insertAfter, List.findIdx?_cons]
      by_cases later : first.timestamp > message.timestamp
      · rw [if_pos later, if_pos (decide_eq_true later)]
        rfl
      · rw [if_neg later, if_neg (by simpa using later), ih]
        cases rest.findIdx? (·.timestamp > message.timestamp) with
        | none => rfl
        | some index => rfl

theorem insertMessage_eq (messages : List (GroupMessage Text)) (message : GroupMessage Text) :
    insertMessage messages message = recent 1000 (StableSort.insertAfter (·.timestamp) message messages) := by
  rw [insertAfter_eq]
  exact recent_of_trim 1000 _

end GroupManager

section Cache

variable (reader : TextReader Text)

/-- The messages of a group among those that have arrived. -/
def arrived (group : Nat) (arrivals : List (List UInt8)) : List (GroupMessage Text) :=
  (arrivals.filterMap (GroupManager.deserializeGroupMessage reader)).filter (·.groupId = group)

/-- The list of a group holds the last messages of all that have arrived, in the order of their timestamps. -/
def Cached (manager : GroupManager Text) (history : List (GroupMessage Text)) : Prop :=
  ∀ group, (manager.groupMessages group).getD [] =
    recent 1000 (StableSort.byKey (·.timestamp) (history.filter (·.groupId = group)))

end Cache

end SecureChat.Web

namespace SecureChat.Web.GroupPermissionChecker

variable {Text : Type}

section Decisions

variable (manager : GroupManager Text) (now : Nat) (context : PermissionContext)

/-- The condition of the rule is true, and it does not throw. -/
def Holds (rule : PermissionRule Text) : Prop := rule.condition manager now context = some true

def IsOwner : Prop := ∃ group, manager.groups context.groupId = some group ∧ group.ownerId = context.userId

/-- Every rule restricts what a user may do, but for the one about the owner. -/
def Restriction (rule : PermissionRule Text) : Prop := rule.name ≠ "owner_has_all_permissions"

/-- A decision allows an action to the owner, and to all others that no restriction stands against.
The order of the rules does not matter for it. -/
def Decides (checker : GroupPermissionChecker Text) : Prop :=
  ((checker.checkPermission manager now context).allowed = true ↔
    IsOwner manager context ∨ ∀ rule ∈ checker.rules, Restriction rule → Holds manager now context rule) ∧
  ∀ other : GroupPermissionChecker Text, other.rules.Perm checker.rules →
    (other.checkPermission manager now context).allowed = (checker.checkPermission manager now context).allowed

theorem applyRules_allowed_iff (rules : List (PermissionRule Text)) (appliedRules : List String) :
    (applyRules manager now context rules appliedRules).allowed = true ↔
      ∀ rule ∈ rules, Holds manager now context rule := by
  induction rules generalizing appliedRules with
  | nil => exact iff_of_true rfl fun rule member => nomatch member
  | cons rule rest ih =>
      rw [applyRules, List.forall_mem_cons, Holds]
      cases answer : rule.condition manager now context with
      | none => exact iff_of_false Bool.false_ne_true fun all => nomatch all.1
      | some held =>
          cases held with
          | false => exact iff_of_false Bool.false_ne_true fun all => nomatch all.1
          | true => exact (ih _).trans (and_iff_right rfl).symm

/-- An action is allowed when all rules hold, and the rule about the owner is one of them. -/
theorem checkPermission_allowed_iff (checker : GroupPermissionChecker Text) :
    (checker.checkPermission manager now context).allowed = true ↔
      ∀ rule ∈ checker.rules, Holds manager now context rule := by
  unfold checkPermission
  simp only [applyRules_allowed_iff, List.mem_mergeSort]

theorem checkPermission_perm (checker other : GroupPermissionChecker Text)
    (same : other.rules.Perm checker.rules) :
    (other.checkPermission manager now context).allowed =
      (checker.checkPermission manager now context).allowed := by
  rw [Bool.eq_iff_iff, checkPermission_allowed_iff, checkPermission_allowed_iff]
  simp only [same.mem_iff]

/-- The applied rules end with the one that has refused. -/
theorem applyRules_refused (rules : List (PermissionRule Text)) (appliedRules : List String)
    (refused : (applyRules manager now context rules appliedRules).allowed = false) :
    ∃ front rule back, rules = front ++ rule :: back ∧ ¬ Holds manager now context rule ∧
      (∀ earlier ∈ front, Holds manager now context earlier) ∧
      (applyRules manager now context rules appliedRules).rules =
        appliedRules ++ (front ++ [rule]).map (·.name) := by
  induction rules generalizing appliedRules with
  | nil => exact nomatch refused
  | cons rule rest ih =>
      rw [applyRules] at refused ⊢
      cases answer : rule.condition manager now context with
      | none =>
          refine ⟨[], rule, rest, rfl, fun held => ?_, List.forall_mem_nil _, rfl⟩
          exact nomatch answer.symm.trans held
      | some held =>
          cases held with
          | false =>
              refine ⟨[], rule, rest, rfl, fun held => ?_, List.forall_mem_nil _, rfl⟩
              exact nomatch answer.symm.trans held
          | true =>
              rw [answer] at refused
              obtain ⟨front, other, back, rfl, fails, before, applied⟩ := ih _ refused
              refine ⟨rule :: front, other, back, rfl, fails, List.forall_mem_cons.mpr ⟨answer, before⟩, ?_⟩
              rw [applied, List.append_assoc]
              rfl

/-- The decision is right for the owner when no rule fails, and for another user when a restriction fails
or the rule about the owner does not stand in the way. -/
def Agrees (checker : GroupPermissionChecker Text) : Prop :=
  (IsOwner manager context → ∀ rule ∈ checker.rules, Holds manager now context rule) ∧
  (¬ IsOwner manager context →
    (∃ rule ∈ checker.rules, Restriction rule ∧ ¬ Holds manager now context rule) ∨
      ∀ rule ∈ checker.rules, ¬ Restriction rule → Holds manager now context rule)

theorem decides_iff (checker : GroupPermissionChecker Text) :
    Decides manager now context checker ↔ Agrees manager now context checker := by
  have ordered : ∀ other : GroupPermissionChecker Text, other.rules.Perm checker.rules →
      (other.checkPermission manager now context).allowed =
        (checker.checkPermission manager now context).allowed :=
    fun other => checkPermission_perm manager now context checker other
  rw [Decides, and_iff_left ordered, checkPermission_allowed_iff, Agrees]
  by_cases owner : IsOwner manager context
  · simp only [owner, true_or, iff_true, true_implies, not_true_eq_false, false_implies, and_true]
  · simp only [owner, false_or, not_false_eq_true, false_implies, true_implies, true_and]
    constructor
    · intro same
      by_cases restricted : ∀ rule ∈ checker.rules, Restriction rule → Holds manager now context rule
      · exact .inr fun rule member _ => same.mpr restricted rule member
      · push Not at restricted
        exact .inl restricted
    · rintro (⟨rule, member, restriction, fails⟩ | granted)
      · exact iff_of_false (fun all => fails (all rule member))
          fun restricted => fails (restricted rule member restriction)
      · refine ⟨fun all rule member _ => all rule member, fun restricted rule member => ?_⟩
        by_cases restriction : Restriction rule
        · exact restricted rule member restriction
        · exact granted rule member restriction

end Decisions

/-- The default rule about the owner holds for no other user. -/
theorem ownerHasAllPermissions_holds_iff (manager : GroupManager Text) (now : Nat) (context : PermissionContext) :
    Holds manager now context ownerHasAllPermissions ↔ IsOwner manager context := by
  unfold Holds IsOwner ownerHasAllPermissions GroupManager.getGroupInfo
  simp [Option.map_eq_some_iff]

/-- With the default rule about the owner in place, nobody else is allowed anything. -/
theorem checkPermission_owner_only (checker : GroupPermissionChecker Text) (manager : GroupManager Text)
    (now : Nat) (context : PermissionContext) (present : ownerHasAllPermissions ∈ checker.rules)
    (allowed : (checker.checkPermission manager now context).allowed = true) : IsOwner manager context :=
  (ownerHasAllPermissions_holds_iff manager now context).mp
    ((checkPermission_allowed_iff manager now context checker).mp allowed _ present)

/-- After any changes of the rules a check decides as it should
exactly when the rules agree about the user in this way. -/
theorem checkPermission_decides_iff (calls : List (RuleCall Text)) (manager : GroupManager Text) (now : Nat)
    (context : PermissionContext) :
    Decides manager now context (after calls) ↔ Agrees manager now context (after calls) :=
  decides_iff manager now context (after calls)

/-- A group with the owner 1 and a member 2, who may send messages. -/
def smallGroup : GroupManager Unit where
  groups := fun groupId => if groupId = 5 then some ⟨5, 1, false, false⟩ else none
  groupMembers := fun groupId =>
    if groupId = 5 then
      some fun userId => if userId = 2 then some ⟨5, 2, .member, [], none⟩ else none
    else none
  groupMessages := fun _ => none
  currentUserId := 2

def sendByMember : PermissionContext := ⟨5, 2, none, "send_message", none, 1700000000000, none, none⟩

/-- No restriction stands against the member, and still the message is refused. -/
theorem checkPermission_refuses_member :
    ¬ Decides smallGroup 1700000000000 sendByMember (after []) := by
  intro ⟨decides, _⟩
  have restricted : ∀ rule ∈ (after [] : GroupPermissionChecker Unit).rules, Restriction rule →
      Holds smallGroup 1700000000000 sendByMember rule := by
    simp [after, initializeDefaultRules, Restriction, Holds, ownerHasAllPermissions, cannotModifyOwner,
      adminCannotModifyOtherAdmins, mutedUsersCannotSendMessages, canOnlyDeleteOwnMessages, twoFactorRequired,
      encryptionKeyRequired, changesMember, sendByMember, smallGroup, GroupManager.getGroupMember,
      GroupManager.getGroupInfo]
  have owner := checkPermission_owner_only (after []) smallGroup 1700000000000 sendByMember
    List.mem_cons_self (decides.mpr (.inr restricted))
  obtain ⟨group, found, same⟩ := owner
  obtain rfl := Option.some.inj found
  exact nomatch same

end SecureChat.Web.GroupPermissionChecker
