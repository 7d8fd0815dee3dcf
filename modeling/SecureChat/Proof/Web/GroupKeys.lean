import SecureChat.Construction.Web.GroupKeys

namespace SecureChat.Web
open Library

variable {Key : Type}

/-- Every member is cached under its own number. -/
def OwnKeys (memberMap : MemberMap) : Prop :=
  ∀ userId member, memberMap.get userId = some member → member.userId = userId

/-- A context stands under its own group, and no entry is ahead of it. -/
structure CurrentKeys (groupId : Nat) (context : GroupEncryptionContext Key) : Prop where
  own : context.groupId = groupId
  versions : ∀ userId memberKey, context.memberKeys.get userId = some memberKey →
    memberKey.keyVersion ≤ context.keyVersion

structure Consistent (manager : GroupKeyManager Key) : Prop where
  members : ∀ groupId memberMap, manager.groupMembers groupId = some memberMap → OwnKeys memberMap
  contexts : ∀ groupId context, manager.encryptionContexts groupId = some context → CurrentKeys groupId context

section Members

theorem ownKeys_empty : OwnKeys .empty := by
  intro userId member found
  rw [OrderedMap.get_empty] at found
  exact nomatch found

theorem ownKeys_set (memberMap : MemberMap) (own : OwnKeys memberMap) (member : KeyedMember) :
    OwnKeys (memberMap.set member.userId member) := by
  intro userId found present
  rw [OrderedMap.get_set] at present
  split at present
  · rename_i same
    rw [← Option.some.inj present, same]
  · exact own userId found present

theorem ownKeys_received (members : List KeyedMember) (memberMap : MemberMap) (own : OwnKeys memberMap) :
    OwnKeys (members.foldl (fun memberMap member => memberMap.set member.userId member) memberMap) := by
  induction members generalizing memberMap with
  | nil => exact own
  | cons member members ih => exact ih _ (ownKeys_set memberMap own member)

theorem ownKeys_delete (memberMap : MemberMap) (own : OwnKeys memberMap) (removed : Nat) :
    OwnKeys (memberMap.delete removed) := by
  intro userId member found
  rw [OrderedMap.get_delete] at found
  split at found
  · cases found
  · exact own userId member found

end Members

section Creation

variable (members : List KeyedMember) (now : Nat)

/-- The loop gives each of its members with a public key an entry at version 1. -/
theorem create_get (keys : OrderedMap Nat MemberKey)
    (first : ∀ userId memberKey, keys.get userId = some memberKey → memberKey.keyVersion = 1) :
    let filled := members.foldl (fun keys member =>
      if member.publicKey ≠ "" then keys.set member.userId ⟨member.publicKey, encryptKeyForMember now, 1, now⟩
      else keys) keys
    (∀ userId memberKey, filled.get userId = some memberKey → memberKey.keyVersion = 1) ∧
      ∀ userId, userId ∈ filled.keys ↔
        userId ∈ keys.keys ∨ ∃ member ∈ members, member.userId = userId ∧ member.publicKey ≠ "" := by
  induction members generalizing keys with
  | nil => simpa using first
  | cons member members ih =>
      rw [List.foldl_cons]
      by_cases present : member.publicKey ≠ ""
      · rw [if_pos present]
        obtain ⟨versions, filled⟩ := ih (keys.set member.userId ⟨member.publicKey, encryptKeyForMember now, 1, now⟩)
          (fun userId memberKey found => by
            rw [OrderedMap.get_set] at found
            split at found
            · rw [← Option.some.inj found]
            · exact first userId memberKey found)
        refine ⟨versions, fun userId => ?_⟩
        rw [filled, OrderedMap.mem_keys_set, List.exists_mem_cons_iff, or_assoc, or_left_comm, eq_comm]
        simp only [present, ne_eq, not_false_eq_true, and_true]
      · rw [if_neg present]
        obtain ⟨versions, filled⟩ := ih keys first
        refine ⟨versions, fun userId => ?_⟩
        rw [filled, List.exists_mem_cons_iff]
        simp only [present, and_false, false_or]

end Creation

section Rotation

variable (context : GroupEncryptionContext Key) (member : Nat → Option KeyedMember) (now : Nat)

/-- The member is there and has a public key. -/
def HasKey (found : Option KeyedMember) : Prop := ∃ member, found = some member ∧ member.publicKey ≠ ""

/-- One turn of the loop touches the entry of its user only. -/
theorem reencryptMemberKey_fields (userId : Nat) :
    (context.reencryptMemberKey userId (member userId) now).keyVersion = context.keyVersion ∧
      (context.reencryptMemberKey userId (member userId) now).groupId = context.groupId ∧
      (context.reencryptMemberKey userId (member userId) now).encryptionKey = context.encryptionKey ∧
      (context.reencryptMemberKey userId (member userId) now).historicalKeys = context.historicalKeys ∧
      (context.reencryptMemberKey userId (member userId) now).memberKeys.keys = context.memberKeys.keys := by
  unfold GroupEncryptionContext.reencryptMemberKey
  split
  · exact ⟨rfl, rfl, rfl, rfl, OrderedMap.keys_modify _ _ _⟩
  · exact ⟨rfl, rfl, rfl, rfl, rfl⟩

/-- One turn of the loop gives its user the current version if the user still is a member with a public key. -/
theorem reencryptMemberKey_get (first userId : Nat) (memberKey : MemberKey)
    (found : context.memberKeys.get userId = some memberKey) :
    ∃ after, (context.reencryptMemberKey first (member first) now).memberKeys.get userId = some after ∧
      (after.keyVersion = context.keyVersion ↔
        (userId = first ∧ HasKey (member userId)) ∨ memberKey.keyVersion = context.keyVersion) ∧
      (memberKey.keyVersion ≤ context.keyVersion → after.keyVersion ≤ context.keyVersion) := by
  unfold GroupEncryptionContext.reencryptMemberKey
  split
  · rename_i present
    dsimp only
    rw [OrderedMap.get_modify]
    split
    · rename_i same
      rw [found, Option.map_some, same]
      exact ⟨_, rfl, iff_of_true rfl (Or.inl ⟨rfl, present⟩), fun _ => Nat.le_refl _⟩
    · rename_i apart
      exact ⟨memberKey, found, by simp [apart], id⟩
  · rename_i absent
    refine ⟨memberKey, found, (or_iff_right ?_).symm, id⟩
    rintro ⟨rfl, present⟩
    exact absent present

/-- The loop gives the users that it visits the current version, if they still are members with a public key. -/
theorem reencrypt_get (users : List Nat) (userId : Nat) (memberKey : MemberKey)
    (found : context.memberKeys.get userId = some memberKey) :
    ∃ after, (users.foldl (fun context userId => context.reencryptMemberKey userId (member userId) now)
        context).memberKeys.get userId = some after ∧
      (after.keyVersion = context.keyVersion ↔
        (userId ∈ users ∧ HasKey (member userId)) ∨ memberKey.keyVersion = context.keyVersion) ∧
      (memberKey.keyVersion ≤ context.keyVersion → after.keyVersion ≤ context.keyVersion) := by
  induction users generalizing context memberKey with
  | nil => exact ⟨memberKey, found, by simp, id⟩
  | cons first users ih =>
      have same := (reencryptMemberKey_fields context member now first).1
      obtain ⟨turned, here, fresh, bound⟩ := reencryptMemberKey_get context member now first userId memberKey found
      obtain ⟨after, there, later, limit⟩ := ih _ turned here
      rw [same] at later limit
      refine ⟨after, there, ?_, fun old => limit (bound old)⟩
      rw [later, fresh, List.mem_cons, or_and_right, or_assoc, or_left_comm]

theorem reencrypt_fields (users : List Nat) :
    let after := users.foldl (fun context userId => context.reencryptMemberKey userId (member userId) now) context
    after.keyVersion = context.keyVersion ∧ after.groupId = context.groupId ∧
      after.encryptionKey = context.encryptionKey ∧ after.historicalKeys = context.historicalKeys ∧
      after.memberKeys.keys = context.memberKeys.keys := by
  induction users generalizing context with
  | nil => exact ⟨rfl, rfl, rfl, rfl, rfl⟩
  | cons first users ih =>
      obtain ⟨version, group, key, history, keys⟩ := ih (context.reencryptMemberKey first (member first) now)
      obtain ⟨version', group', key', history', keys'⟩ := reencryptMemberKey_fields context member now first
      exact ⟨version.trans version', group.trans group', key.trans key', history.trans history', keys.trans keys'⟩

end Rotation

section Steps

/-- What an initialisation does when it succeeds. -/
theorem initialize_cases (manager : GroupKeyManager Key) (groupId : Nat) (key : Key) (now : Nat) :
    (manager.initializeGroupEncryption groupId key now).1 = manager ∧
        (manager.initializeGroupEncryption groupId key now).2 ≠ .ok true ∧
        ¬ (manager.groups groupId ≠ none ∧ manager.hasPermission groupId .manageEncryption = true) ∨
      (manager.initializeGroupEncryption groupId key now).2 = .ok true ∧
        manager.groups groupId ≠ none ∧ manager.hasPermission groupId .manageEncryption = true ∧
        (manager.initializeGroupEncryption groupId key now).1.groupMembers = manager.groupMembers ∧
        (manager.initializeGroupEncryption groupId key now).1.encryptionContexts =
          Function.update manager.encryptionContexts groupId (some (.createEncryptionContext groupId
            (manager.getGroupMembers groupId 100 0) key now)) := by
  unfold GroupKeyManager.initializeGroupEncryption
  cases group : manager.groups groupId with
  | none => exact Or.inl ⟨rfl, nofun, fun known => known.1 rfl⟩
  | some groupInfo =>
      dsimp only
      cases permitted : manager.hasPermission groupId .manageEncryption with
      | false => exact Or.inl ⟨rfl, nofun, fun known => Bool.false_ne_true known.2⟩
      | true => exact Or.inr ⟨rfl, nofun, rfl, rfl, rfl⟩

/-- The context that a rotation leaves behind. -/
def rotated (manager : GroupKeyManager Key) (context : GroupEncryptionContext Key) (key : Key) (now : Nat) :
    GroupEncryptionContext Key :=
  ((context.archiveKey now).replaceKey key now).reencryptMemberKeys (manager.getGroupMember context.groupId) now

/-- What a rotation does when it succeeds. -/
theorem rotate_cases (manager : GroupKeyManager Key) (groupId : Nat) (key : Key) (now : Nat) :
    (manager.rotateGroupEncryptionKey groupId key now).1 = manager ∧
        (manager.rotateGroupEncryptionKey groupId key now).2 ≠ .ok true ∧
        (∀ context, manager.encryptionContexts groupId = some context →
          manager.hasPermission groupId .manageEncryption = false) ∨
      ∃ context, manager.encryptionContexts groupId = some context ∧
        manager.hasPermission groupId .manageEncryption = true ∧
        (manager.rotateGroupEncryptionKey groupId key now).2 = .ok true ∧
        (manager.rotateGroupEncryptionKey groupId key now).1.groupMembers = manager.groupMembers ∧
        (manager.rotateGroupEncryptionKey groupId key now).1.encryptionContexts =
          Function.update manager.encryptionContexts groupId (some (rotated manager context key now)) := by
  unfold GroupKeyManager.rotateGroupEncryptionKey
  cases stored : manager.encryptionContexts groupId with
  | none => exact Or.inl ⟨rfl, nofun, nofun⟩
  | some context =>
      dsimp only
      cases permitted : manager.hasPermission groupId .manageEncryption with
      | false => exact Or.inl ⟨rfl, nofun, fun _ _ => rfl⟩
      | true => exact Or.inr ⟨context, rfl, rfl, rfl, rfl, rfl⟩

/-- The entries of a rotated context. -/
theorem rotated_entries (manager : GroupKeyManager Key) (groupId : Nat) (context : GroupEncryptionContext Key)
    (current : CurrentKeys groupId context) (key : Key) (now : Nat) :
    (rotated manager context key now).keyVersion = context.keyVersion + 1 ∧
      CurrentKeys groupId (rotated manager context key now) ∧
      ∀ userId, (∃ memberKey, (rotated manager context key now).memberKeys.get userId = some memberKey ∧
          memberKey.keyVersion = context.keyVersion + 1) ↔
        userId ∈ context.memberKeys.keys ∧ HasKey (manager.getGroupMember groupId userId) := by
  obtain ⟨rfl, versions⟩ := current
  have fields := reencrypt_fields ((context.archiveKey now).replaceKey key now)
    (manager.getGroupMember context.groupId) now context.memberKeys.keys
  have entry : ∀ userId memberKey, context.memberKeys.get userId = some memberKey →
      ∃ after, (rotated manager context key now).memberKeys.get userId = some after ∧
        (after.keyVersion = context.keyVersion + 1 ↔ HasKey (manager.getGroupMember context.groupId userId)) ∧
        after.keyVersion ≤ context.keyVersion + 1 := by
    intro userId memberKey found
    obtain ⟨after, here, fresh, bound⟩ := reencrypt_get ((context.archiveKey now).replaceKey key now)
      (manager.getGroupMember context.groupId) now context.memberKeys.keys userId memberKey found
    have old := versions userId memberKey found
    have visited : userId ∈ context.memberKeys.keys := OrderedMap.mem_keys_iff.mpr ⟨memberKey, found⟩
    have behind : ¬ memberKey.keyVersion = ((context.archiveKey now).replaceKey key now).keyVersion :=
      Nat.ne_of_lt (Nat.lt_succ_of_le old)
    refine ⟨after, here, fresh.trans ?_, bound (Nat.le_succ_of_le old)⟩
    rw [or_iff_left behind, and_iff_right visited]
  have keys : (rotated manager context key now).memberKeys.keys = context.memberKeys.keys := fields.2.2.2.2
  have source : ∀ userId memberKey, (rotated manager context key now).memberKeys.get userId = some memberKey →
      ∃ before, context.memberKeys.get userId = some before := by
    intro userId memberKey found
    rw [← OrderedMap.mem_keys_iff, ← keys, OrderedMap.mem_keys_iff]
    exact ⟨memberKey, found⟩
  refine ⟨fields.1, ⟨fields.2.1, fun userId memberKey found => ?_⟩, fun userId => ?_⟩
  · obtain ⟨before, old⟩ := source userId memberKey found
    obtain ⟨after, here, -, bound⟩ := entry userId before old
    obtain rfl : memberKey = after := Option.some.inj (found.symm.trans here)
    exact bound.trans (Nat.le_of_eq fields.1.symm)
  · rw [OrderedMap.mem_keys_iff]
    constructor
    · rintro ⟨memberKey, found, fresh⟩
      obtain ⟨before, old⟩ := source userId memberKey found
      obtain ⟨after, here, visited, -⟩ := entry userId before old
      obtain rfl : memberKey = after := Option.some.inj (found.symm.trans here)
      exact ⟨⟨before, old⟩, visited.mp fresh⟩
    · rintro ⟨⟨before, old⟩, present⟩
      obtain ⟨after, here, visited, -⟩ := entry userId before old
      exact ⟨after, here, visited.mpr present⟩

end Steps

section Runs

variable {manager : GroupKeyManager Key}

/-- A step that keeps the members may replace one context by one that belongs to its group. -/
theorem Consistent.update (consistent : Consistent manager) (next : GroupKeyManager Key) (groupId : Nat)
    (context : GroupEncryptionContext Key) (current : CurrentKeys groupId context)
    (members : next.groupMembers = manager.groupMembers)
    (contexts : next.encryptionContexts = Function.update manager.encryptionContexts groupId (some context)) :
    Consistent next where
  members other memberMap cached := consistent.members other memberMap (members ▸ cached)
  contexts other found stored := by
    rw [contexts, Function.update_apply] at stored
    split at stored
    · rename_i same
      rw [same, ← Option.some.inj stored]
      exact current
    · exact consistent.contexts other found stored

theorem create_current (groupId : Nat) (members : List KeyedMember) (key : Key) (now : Nat) :
    CurrentKeys groupId (.createEncryptionContext groupId members key now) where
  own := rfl
  versions userId memberKey found := by
    have made := create_get members now .empty (fun _ _ none_found => nomatch none_found)
    exact Nat.le_of_eq (made.1 userId memberKey found)

theorem Consistent.step (consistent : Consistent manager) (event : GroupKeyEvent Key) :
    Consistent ((groupKeyMachine Key).step manager event).1 := by
  cases event with
  | membersReceived members =>
      cases members with
      | nil => exact consistent
      | cons first members =>
          refine ⟨fun groupId memberMap cached => ?_, consistent.contexts⟩
          simp only [groupKeyMachine, GroupKeyManager.handleGroupMembersResponse, Function.update_apply] at cached
          split at cached
          · rw [← Option.some.inj cached]
            apply ownKeys_received
            cases before : manager.groupMembers first.groupId with
            | none => exact ownKeys_empty
            | some memberMap => exact consistent.members first.groupId memberMap before
          · exact consistent.members groupId memberMap cached
  | memberRemoved removedFrom userId =>
      refine ⟨fun groupId memberMap cached => ?_, consistent.contexts⟩
      simp only [groupKeyMachine, GroupKeyManager.removeMember, Function.update_apply] at cached
      split at cached
      · obtain ⟨before, present, rfl⟩ := Option.map_eq_some_iff.mp cached
        exact ownKeys_delete before (consistent.members removedFrom before present) userId
      · exact consistent.members groupId memberMap cached
  | initializeGroupEncryption groupId key now =>
      rcases initialize_cases manager groupId key now with ⟨same, -, -⟩ | ⟨-, -, -, members, contexts⟩
      · exact (congrArg Consistent same).mpr consistent
      · exact consistent.update _ groupId _ (create_current groupId _ key now) members contexts
  | rotateGroupEncryptionKey groupId key now =>
      rcases rotate_cases manager groupId key now with ⟨same, -, -⟩ | ⟨context, stored, -, -, members, contexts⟩
      · exact (congrArg Consistent same).mpr consistent
      · exact consistent.update _ groupId _
          (rotated_entries manager groupId context (consistent.contexts groupId context stored) key now).2.1
          members contexts

end Runs

end SecureChat.Web
