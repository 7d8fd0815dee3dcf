import SecureChat.Construction.Web.GroupEncryption
import SecureChat.Library.Text

namespace SecureChat.Web.GroupEncryptionService
open Library

/-- The identifier under which the bundle of a member is kept. -/
def bundleKey (groupId keyVersion userId : Nat) : String := s!"group_{groupId}_v{keyVersion}_{userId}"

def digits (number : Nat) : List Char := Nat.toDigits 10 number

theorem underscore_notMem_digits (number : Nat) : '_' ∉ digits number := Nat.underscore_not_in_toDigits

theorem bundleKey_toList (groupId keyVersion userId : Nat) :
    (bundleKey groupId keyVersion userId).toList =
      ['g', 'r', 'o', 'u', 'p'] ++ '_' :: (digits groupId ++ '_' :: ('v' :: digits keyVersion ++ '_' :: digits userId)) := by
  have text : bundleKey groupId keyVersion userId =
      "group_" ++ toString groupId ++ "_v" ++ toString keyVersion ++ "_" ++ toString userId := rfl
  rw [text]
  simp only [String.toList_append, Nat.toString_eq_repr, Nat.toList_repr]
  simp [digits]

theorem bundleKey_inj {groupId groupId' keyVersion keyVersion' userId userId' : Nat} :
    bundleKey groupId keyVersion userId = bundleKey groupId' keyVersion' userId' ↔
      groupId = groupId' ∧ keyVersion = keyVersion' ∧ userId = userId' := by
  constructor
  · intro same
    have texts := congrArg String.toList same
    rw [bundleKey_toList, bundleKey_toList, List.append_cancel_left_eq, List.cons.injEq, and_iff_right rfl,
      append_separator_inj (underscore_notMem_digits _) (underscore_notMem_digits _), List.cons_append, List.cons_append,
      List.cons.injEq, and_iff_right rfl,
      append_separator_inj (underscore_notMem_digits _) (underscore_notMem_digits _)] at texts
    exact ⟨toDigits_injective texts.1, toDigits_injective texts.2.1, toDigits_injective texts.2.2⟩
  · rintro ⟨rfl, rfl, rfl⟩
    rfl

/-- The test for a user finds the digits in front of the group or of the user, and nowhere else. -/
theorem userText_infix_iff (groupId keyVersion userId other : Nat) :
    (s!"_{userId}").toList <:+: (bundleKey groupId keyVersion other).toList ↔
      digits userId <+: digits groupId ∨ digits userId <+: digits other := by
  have text : (s!"_{userId}").toList = '_' :: digits userId := by
    have joined : s!"_{userId}" = "_" ++ toString userId := rfl
    rw [joined]
    simp [digits]
  have versionFront : '_' ∉ 'v' :: digits keyVersion := by simp [underscore_notMem_digits]
  have version (rest : List Char) : ¬digits userId <+: 'v' :: rest := by
    intro starts
    cases number : digits userId with
    | nil => exact Nat.toDigits_ne_nil number
    | cons digit more =>
        rw [number, List.cons_prefix_cons] at starts
        have member : 'v' ∈ digits userId := by simp [number, starts.1]
        exact absurd (Nat.isDigit_of_mem_toDigits (by decide) (by decide) member) (by decide)
  have last : ¬('_' :: digits userId) <:+: digits other := by
    intro inside
    exact underscore_notMem_digits other (inside.subset List.mem_cons_self)
  rw [text, bundleKey_toList, infix_append_separator (by decide),
    prefix_append_separator (underscore_notMem_digits userId), infix_append_separator (underscore_notMem_digits groupId),
    infix_append_separator versionFront]
  simp [version, last]

/-- Each bundle is kept under the identifier of its group, its version and its user. -/
def Keyed (service : GroupEncryptionService) : Prop :=
  ∀ keyId bundle, service.keyBundles.get keyId = some bundle →
    ∃ userId, keyId = bundleKey bundle.groupId bundle.keyVersion userId

def HasBundle (service : GroupEncryptionService) (groupId keyVersion userId : Nat) : Prop :=
  (service.keyBundles.get (bundleKey groupId keyVersion userId)).isSome = true

/-- The service when the bundles of a user were deleted, before the key is rotated. -/
def withoutBundles (service : GroupEncryptionService) (groupId userId : Nat) : GroupEncryptionService :=
  (service.bundlesOf groupId userId).foldl (fun service keyId =>
    { service with
      keyBundles := service.keyBundles.delete keyId
      localStorage := service.localStorage.delete (.keyBundle keyId) }) service

theorem removeMember_eq (exportKey : Nat → List UInt8) (service : GroupEncryptionService) (groupId userId now : Nat) :
    service.removeMemberFromEncryptedGroup exportKey groupId userId now =
      (service.withoutBundles groupId userId).rotateGroupKey exportKey groupId now := rfl

theorem deleteBundles_get (keyIds : List String) (service : GroupEncryptionService) (key : String) :
    ((keyIds.foldl (fun service keyId =>
      { service with
        keyBundles := service.keyBundles.delete keyId
        localStorage := service.localStorage.delete (.keyBundle keyId) }) service).keyBundles.get key) =
      if key ∈ keyIds then none else service.keyBundles.get key := by
  induction keyIds generalizing service with
  | nil => simp
  | cons keyId keyIds ih =>
      rw [List.foldl_cons, ih]
      dsimp only
      rw [OrderedMap.get_delete]
      by_cases later : key ∈ keyIds
      · simp [later]
      · by_cases here : key = keyId
        · simp [here]
        · simp [here, later]

theorem withoutBundles_groupManager (service : GroupEncryptionService) (groupId userId : Nat) :
    (service.withoutBundles groupId userId).groupManager = service.groupManager := by
  unfold withoutBundles
  induction service.bundlesOf groupId userId generalizing service with
  | nil => rfl
  | cons keyId keyIds ih =>
      rw [List.foldl_cons]
      exact ih _

/-- Among the bundles of the group, those are deleted whose group or user starts with the digits of the user. -/
theorem withoutBundles_hasBundle {service : GroupEncryptionService} (keyed : service.Keyed)
    (groupId userId group keyVersion other : Nat) :
    (service.withoutBundles groupId userId).HasBundle group keyVersion other ↔
      service.HasBundle group keyVersion other ∧
        ¬(group = groupId ∧ (digits userId <+: digits groupId ∨ digits userId <+: digits other)) := by
  have chosen : bundleKey group keyVersion other ∈ service.bundlesOf groupId userId ↔
      service.HasBundle group keyVersion other ∧
        group = groupId ∧ (digits userId <+: digits groupId ∨ digits userId <+: digits other) := by
    unfold bundlesOf HasBundle
    rw [List.mem_map, Option.isSome_iff_exists]
    constructor
    · rintro ⟨⟨keyId, bundle⟩, member, rfl⟩
      obtain ⟨member, test⟩ := List.mem_filter.mp member
      have found := OrderedMap.get_eq_some_iff.mpr member
      obtain ⟨userId', same⟩ := keyed _ bundle found
      obtain ⟨inGroup, inside⟩ := of_decide_eq_true test
      have sameGroup : group = groupId := (bundleKey_inj.mp same).1.trans inGroup
      rw [sameGroup, userText_infix_iff] at inside
      exact ⟨⟨bundle, found⟩, sameGroup, inside⟩
    · rintro ⟨⟨bundle, found⟩, rfl, starts⟩
      obtain ⟨userId', same⟩ := keyed _ bundle found
      refine ⟨⟨_, bundle⟩, List.mem_filter.mpr ⟨OrderedMap.get_eq_some_iff.mp found, ?_⟩, rfl⟩
      exact decide_eq_true ⟨(bundleKey_inj.mp same).1.symm, (userText_infix_iff group keyVersion userId other).mpr starts⟩
  have kept : (service.withoutBundles groupId userId).HasBundle group keyVersion other ↔
      bundleKey group keyVersion other ∉ service.bundlesOf groupId userId ∧
        service.HasBundle group keyVersion other := by
    unfold withoutBundles HasBundle
    rw [deleteBundles_get]
    split <;> simp_all
  rw [kept, chosen]
  tauto

/-- The members that a rotation makes bundles for. -/
def onPage (service : GroupEncryptionService) (groupId userId : Nat) : Prop :=
  ∃ member ∈ service.groupManager.getGroupMembers groupId 100 0, member.userId = userId ∧ member.publicKey ≠ ""

theorem createKeyBundle_hasBundle (exportKey : Nat → List UInt8) (service : GroupEncryptionService) (groupId : Nat)
    {member : KeyedMember} (key : member.publicKey ≠ "") (groupKey keyVersion now group version other : Nat) :
    (service.createKeyBundleForMember exportKey groupId member groupKey keyVersion now).1.HasBundle group version other ↔
      service.HasBundle group version other ∨ group = groupId ∧ version = keyVersion ∧ other = member.userId := by
  unfold createKeyBundleForMember HasBundle
  rw [if_neg key]
  dsimp only
  have name : s!"group_{groupId}_v{keyVersion}_{member.userId}" = bundleKey groupId keyVersion member.userId := rfl
  rw [name, OrderedMap.get_set, ← bundleKey_inj]
  split <;> simp_all

theorem createBundles_hasBundle (exportKey : Nat → List UInt8) (groupId groupKey keyVersion now : Nat)
    (members : List KeyedMember) (service : GroupEncryptionService) (group version other : Nat) :
    (members.foldl (fun service member =>
      if member.publicKey ≠ "" then
        (service.createKeyBundleForMember exportKey groupId member groupKey keyVersion now).1
      else service) service).HasBundle group version other ↔
        service.HasBundle group version other ∨
          group = groupId ∧ version = keyVersion ∧
            ∃ member ∈ members, member.userId = other ∧ member.publicKey ≠ "" := by
  induction members generalizing service with
  | nil => simp
  | cons member members ih =>
      rw [List.foldl_cons, ih]
      by_cases key : member.publicKey = ""
      · simp [key]
      · rw [if_pos key, createKeyBundle_hasBundle exportKey service groupId key]
        simp only [List.exists_mem_cons_iff, key, ne_eq, not_false_eq_true, and_true]
        rw [eq_comm (a := other)]
        tauto

theorem archiveOldKey_hasBundle (service : GroupEncryptionService) (groupId keyVersion now group version other : Nat) :
    (service.archiveOldKey groupId keyVersion now).HasBundle group version other ↔
      service.HasBundle group version other := by
  unfold archiveOldKey
  split <;> exact Iff.rfl

theorem rotateGroupKey_hasBundle (exportKey : Nat → List UInt8) (service : GroupEncryptionService) {groupId : Nat}
    {groupInfo : EncryptedGroup} (known : service.groupManager.groups groupId = some groupInfo)
    (now group version other : Nat) :
    (service.rotateGroupKey exportKey groupId now).1.HasBundle group version other ↔
      service.HasBundle group version other ∨
        group = groupId ∧ version = groupInfo.encryptionKeyVersion + 1 ∧ service.onPage groupId other := by
  unfold rotateGroupKey
  rw [known]
  exact (archiveOldKey_hasBundle _ _ _ _ _ _ _).trans (createBundles_hasBundle exportKey _ _ _ _ _ _ _ _ _)

section Reachable
variable (exportKey : Nat → List UInt8) {service : GroupEncryptionService} (keyed : service.Keyed)

include keyed

theorem Keyed.createKeyBundle (groupId : Nat) (member : KeyedMember) (groupKey keyVersion now : Nat) :
    (service.createKeyBundleForMember exportKey groupId member groupKey keyVersion now).1.Keyed := by
  unfold createKeyBundleForMember
  split
  · exact keyed
  · intro keyId bundle found
    dsimp only at found
    rw [OrderedMap.get_set] at found
    split at found
    · rename_i here
      rw [← Option.some.inj found]
      exact ⟨member.userId, here⟩
    · exact keyed keyId bundle found

theorem Keyed.createBundles (groupId groupKey keyVersion now : Nat) (members : List KeyedMember) :
    (members.foldl (fun service member =>
      if member.publicKey ≠ "" then
        (service.createKeyBundleForMember exportKey groupId member groupKey keyVersion now).1
      else service) service).Keyed := by
  induction members generalizing service with
  | nil => exact keyed
  | cons member members ih =>
      apply ih
      dsimp only
      split
      · exact keyed.createKeyBundle exportKey groupId member groupKey keyVersion now
      · exact keyed

theorem Keyed.rotate (groupId now : Nat) : (service.rotateGroupKey exportKey groupId now).1.Keyed := by
  unfold rotateGroupKey
  split
  · exact keyed
  · rename_i groupInfo known
    have created : (service.generateGroupKey groupId (groupInfo.encryptionKeyVersion + 1)).1.Keyed := keyed
    dsimp only
    unfold archiveOldKey
    split
    · exact created.createBundles exportKey _ _ _ _ _
    · exact created.createBundles exportKey _ _ _ _ _

theorem Keyed.withoutBundles (groupId userId : Nat) : (service.withoutBundles groupId userId).Keyed := by
  intro keyId bundle found
  unfold GroupEncryptionService.withoutBundles at found
  rw [deleteBundles_get] at found
  split at found
  · exact absurd found (by simp)
  · exact keyed keyId bundle found

theorem Keyed.getGroupKey (groupId keyVersion : Nat) : (service.getGroupKey groupId keyVersion).1.Keyed := by
  unfold GroupEncryptionService.getGroupKey loadGroupKey
  split
  · exact keyed
  · split <;> exact keyed

theorem Keyed.step (aes : AesGcm Nat) (event : GroupServiceEvent) :
    ((serviceMachine exportKey aes).step service event).1.Keyed := by
  cases event with
  | generateGroupKey groupId keyVersion => exact keyed
  | rotateGroupKey groupId now => exact keyed.rotate exportKey groupId now
  | addMemberToEncryptedGroup groupId member now =>
      change (service.addMemberToEncryptedGroup exportKey groupId member now).1.Keyed
      unfold addMemberToEncryptedGroup
      split
      · exact keyed
      · rename_i groupInfo _
        have read := keyed.getGroupKey groupId groupInfo.encryptionKeyVersion
        split
        · exact keyed
        · split
          · exact keyed
          · split
            · rename_i same
              rwa [same] at read
            · rename_i same
              rw [same] at read
              exact read.createKeyBundle exportKey groupId member _ _ now
  | removeMemberFromEncryptedGroup groupId userId now =>
      exact (keyed.withoutBundles groupId userId).rotate exportKey groupId now
  | encryptGroupMessage groupId keyVersion message iv now =>
      have read := keyed.getGroupKey groupId keyVersion
      dsimp only [serviceMachine, serviceStep]
      split <;> exact read
  | getGroupKey groupId keyVersion => exact keyed.getGroupKey groupId keyVersion
  | groupInfoReceived groupInfo => exact keyed
  | groupManager event => exact keyed

end Reachable

theorem keyed_create (groupManager : GroupKeyManager Nat) : (create groupManager).Keyed := by
  intro keyId bundle found
  exact absurd found (by simp [create])

/-- Every service that is reached keeps its bundles under their identifiers. -/
theorem reachable_keyed (exportKey : Nat → List UInt8) (aes : AesGcm Nat) (groupManager : GroupKeyManager Nat)
    (events : List GroupServiceEvent) : ((serviceMachine exportKey aes).run (create groupManager) events).1.Keyed := by
  apply Machine.run_always
  · intro service event keyed
    exact keyed.step exportKey aes event
  · exact keyed_create groupManager

/-- A service with a well-formed store of bundles. -/
structure KeyedService where
  service : GroupEncryptionService
  keyed : service.Keyed

variable (exportKey : Nat → List UInt8)

/-- The removal of a user from a group that has the given members. -/
structure ExactRemoval (service : GroupEncryptionService) (members : List KeyedMember) (groupId userId now : Nat) :
    Prop where
  deleted : ∀ group keyVersion other, (service.withoutBundles groupId userId).HasBundle group keyVersion other ↔
    service.HasBundle group keyVersion other ∧ ¬(group = groupId ∧ other = userId)
  removed : ∀ keyVersion, (service.removeMemberFromEncryptedGroup exportKey groupId userId now).2 = .ok keyVersion →
    ¬(service.removeMemberFromEncryptedGroup exportKey groupId userId now).1.HasBundle groupId keyVersion userId
  remaining : ∀ keyVersion, (service.removeMemberFromEncryptedGroup exportKey groupId userId now).2 = .ok keyVersion →
    ∀ member ∈ members, member.userId ≠ userId → member.publicKey ≠ "" →
      (service.removeMemberFromEncryptedGroup exportKey groupId userId now).1.HasBundle groupId keyVersion member.userId

/-- The digits of the user start no other name, and the cache holds the members that the group has. -/
structure Removable (service : GroupEncryptionService) (members : List KeyedMember) (groupId userId : Nat) : Prop where
  names : ∀ keyVersion other, other ≠ userId → service.HasBundle groupId keyVersion other →
    ¬digits userId <+: digits groupId ∧ ¬digits userId <+: digits other
  gone : (service.groupManager.groups groupId).isSome → ¬service.onPage groupId userId
  known : ∀ groupInfo, service.groupManager.groups groupId = some groupInfo → ∀ member ∈ members,
    member.userId ≠ userId → member.publicKey ≠ "" →
      service.onPage groupId member.userId ∨
        service.HasBundle groupId (groupInfo.encryptionKeyVersion + 1) member.userId

/-- Only the bundles of the user go exactly if no other bundle of the group has a name that the digits start. -/
theorem deleted_iff {service : GroupEncryptionService} (keyed : service.Keyed) (groupId userId : Nat) :
    (∀ group keyVersion other, (service.withoutBundles groupId userId).HasBundle group keyVersion other ↔
      service.HasBundle group keyVersion other ∧ ¬(group = groupId ∧ other = userId)) ↔
    ∀ keyVersion other, other ≠ userId → service.HasBundle groupId keyVersion other →
      ¬digits userId <+: digits groupId ∧ ¬digits userId <+: digits other := by
  simp only [withoutBundles_hasBundle keyed]
  constructor
  · intro exact' keyVersion other different present
    have kept := ((exact' groupId keyVersion other).mpr ⟨present, fun both => different both.2⟩).2
    rw [← not_or]
    exact fun starts => kept ⟨rfl, starts⟩
  · intro names group keyVersion other
    apply and_congr_right
    intro present
    apply not_congr
    apply and_congr_right
    rintro rfl
    constructor
    · intro starts
      by_contra different
      have apart := names keyVersion other different present
      exact starts.elim apart.1 apart.2
    · rintro rfl
      exact .inr List.prefix_rfl

section Completed
variable {service : GroupEncryptionService} {groupId : Nat} {groupInfo : EncryptedGroup}
  (found : service.groupManager.groups groupId = some groupInfo) (userId now : Nat)

include found

theorem removeMember_version :
    (service.removeMemberFromEncryptedGroup exportKey groupId userId now).2 = .ok (groupInfo.encryptionKeyVersion + 1) := by
  rw [removeMember_eq]
  unfold rotateGroupKey
  rw [withoutBundles_groupManager, found]

/-- After the removal a member has a bundle of the new version if it is on the page, or had one before. -/
theorem removeMember_hasBundle (other : Nat) :
    (service.removeMemberFromEncryptedGroup exportKey groupId userId now).1.HasBundle groupId
        (groupInfo.encryptionKeyVersion + 1) other ↔
      (service.withoutBundles groupId userId).HasBundle groupId (groupInfo.encryptionKeyVersion + 1) other ∨
        service.onPage groupId other := by
  have manager := withoutBundles_groupManager service groupId userId
  rw [removeMember_eq, rotateGroupKey_hasBundle exportKey _ (by rw [manager]; exact found), onPage, onPage, manager]
  simp

end Completed

/-- A removal is exact if and only if the names and the cache allow it. -/
theorem exactRemoval_iff (store : KeyedService) (members : List KeyedMember) (groupId userId now : Nat) :
    ExactRemoval exportKey store.service members groupId userId now ↔
      Removable store.service members groupId userId := by
  have names := deleted_iff store.keyed groupId userId
  constructor
  · intro removal
    refine ⟨names.mp removal.deleted, fun some page => ?_, fun groupInfo found member inside other key => ?_⟩
    · obtain ⟨groupInfo, found⟩ := Option.isSome_iff_exists.mp some
      apply removal.removed _ (removeMember_version exportKey found userId now)
      exact (removeMember_hasBundle exportKey found userId now userId).mpr (.inr page)
    · have present := removal.remaining _ (removeMember_version exportKey found userId now) member inside other key
      rcases (removeMember_hasBundle exportKey found userId now member.userId).mp present with before | page
      · exact .inr ((removal.deleted _ _ _).mp before).1
      · exact .inl page
  · intro removable
    have deleted := names.mpr removable.names
    cases found : store.service.groupManager.groups groupId with
    | none =>
        have refused : (store.service.removeMemberFromEncryptedGroup exportKey groupId userId now).2 =
            .error "群组不存在" := by
          rw [removeMember_eq]
          unfold rotateGroupKey
          rw [withoutBundles_groupManager, found]
        constructor
        · exact deleted
        · intro keyVersion completed
          rw [refused] at completed
          exact absurd completed (by simp)
        · intro keyVersion completed
          rw [refused] at completed
          exact absurd completed (by simp)
    | some groupInfo =>
        have version := removeMember_version exportKey found userId now
        constructor
        · exact deleted
        · intro keyVersion completed present
          rw [version] at completed
          rw [← Except.ok.inj completed, removeMember_hasBundle exportKey found, deleted] at present
          rcases present with before | page
          · exact before.2 ⟨rfl, rfl⟩
          · exact removable.gone (by rw [found]; rfl) page
        · intro keyVersion completed member inside other key
          rw [version] at completed
          rw [← Except.ok.inj completed, removeMember_hasBundle exportKey found, deleted]
          rcases removable.known groupInfo found member inside other key with page | before
          · exact .inr page
          · exact .inl ⟨before, fun both => other both.2⟩

/-- A group whose only cached member has the number 12. -/
def twelveManager : GroupKeyManager Nat where
  groups groupId := if groupId = 7 then some ⟨⟨7, 12, true, false⟩, 1⟩ else none
  groupMembers groupId :=
    if groupId = 7 then some (OrderedMap.empty.set 12 ⟨⟨7, 12, .owner, [], none⟩, "key"⟩) else none
  encryptionContexts _ := none
  currentUserId := 12

/-- The store after one rotation of the key of the group. -/
def twelveStore : KeyedService where
  service := ((create twelveManager).rotateGroupKey (fun _ => []) 7 0).1
  keyed := (keyed_create twelveManager).rotate (fun _ => []) 7 0

/-- The removal of user 1 deletes the bundle of user 12. -/
theorem exactRemoval_fails : twelveStore.service.HasBundle 7 2 12 ∧
    ¬(twelveStore.service.withoutBundles 7 1).HasBundle 7 2 12 ∧
    ¬ExactRemoval (fun _ => []) twelveStore.service [] 7 1 0 := by
  have present : twelveStore.service.HasBundle 7 2 12 := by
    apply (rotateGroupKey_hasBundle (fun _ => []) (create twelveManager) rfl 0 7 2 12).mpr
    exact .inr ⟨rfl, rfl, ⟨⟨7, 12, .owner, [], none⟩, "key"⟩, by decide, rfl, by decide⟩
  have starts : digits 1 <+: digits 12 := by decide
  have gone : ¬(twelveStore.service.withoutBundles 7 1).HasBundle 7 2 12 := by
    rw [withoutBundles_hasBundle twelveStore.keyed]
    exact fun kept => kept.2 ⟨rfl, .inr starts⟩
  refine ⟨present, gone, fun removal => gone ((removal.deleted 7 2 12).mpr ⟨present, ?_⟩)⟩
  decide

end SecureChat.Web.GroupEncryptionService
