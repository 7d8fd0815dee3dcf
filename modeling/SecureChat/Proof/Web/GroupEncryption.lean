import SecureChat.Construction.Web.GroupEncryption
import SecureChat.Proof.Web.Encryption

namespace SecureChat.Web
open Library

/-- A rotation gives a version that was given before. -/
def Reuses : VersionUse → VersionUse → Prop
  | .given groupId keyVersion _ _, .given groupId' keyVersion' _ true => groupId = groupId' ∧ keyVersion = keyVersion'
  | _, _ => False

theorem reuses_iff (earlier later : VersionUse) :
    Reuses earlier later ↔ ∃ groupId keyVersion key key' byRotation,
      earlier = .given groupId keyVersion key byRotation ∧ later = .given groupId keyVersion key' true := by
  constructor
  · intro reuses
    cases earlier with
    | encrypted => exact reuses.elim
    | given groupId keyVersion key byRotation =>
        cases later with
        | encrypted => exact reuses.elim
        | given groupId' keyVersion' key' rotated =>
            cases rotated with
            | false => exact reuses.elim
            | true =>
                obtain ⟨rfl, rfl⟩ := reuses
                exact ⟨groupId, keyVersion, key, key', byRotation, rfl, rfl⟩
  · rintro ⟨groupId, keyVersion, key, key', byRotation, rfl, rfl⟩
    exact ⟨rfl, rfl⟩

def GivenTo (uses : List VersionUse) (groupId keyVersion : Nat) : Prop :=
  ∃ key byRotation, .given groupId keyVersion key byRotation ∈ uses

def EncryptedUnder (uses : List VersionUse) (groupId keyVersion : Nat) : Prop :=
  ∃ key message, .encrypted groupId keyVersion key message ∈ uses

theorem GivenTo.append {uses : List VersionUse} {groupId keyVersion : Nat} (given : GivenTo uses groupId keyVersion)
    (more : List VersionUse) : GivenTo (uses ++ more) groupId keyVersion := by
  obtain ⟨key, byRotation, member⟩ := given
  exact ⟨key, byRotation, List.mem_append_left _ member⟩

/-- The keys of all messages are found under their versions, and no rotation reuses a version. -/
structure VersionsStable (state : GroupEncryptionService × List VersionUse) : Prop where
  found : ∀ groupId keyVersion key message, .encrypted groupId keyVersion key message ∈ state.2 →
    (state.1.getGroupKey groupId keyVersion).2 = some key
  fresh : state.2.Pairwise fun earlier later => ¬ Reuses earlier later

/-- What a call does to the versions of a group. -/
inductive VersionEffect where
  | none
  | generates (groupId keyVersion : Nat)
  | rotates (groupId keyVersion : Nat)

namespace GroupEncryptionService

def rotationEffect (service : GroupEncryptionService) (groupId : Nat) : VersionEffect :=
  match service.groupManager.groups groupId with
  | none => .none
  | some groupInfo => .rotates groupId groupInfo.encryptionKeyVersion

def versionEffect (service : GroupEncryptionService) : GroupServiceEvent → VersionEffect
  | .generateGroupKey groupId keyVersion => .generates groupId keyVersion
  | .rotateGroupKey groupId _ => service.rotationEffect groupId
  | .removeMemberFromEncryptedGroup groupId _ _ => service.rotationEffect groupId
  | _ => .none

end GroupEncryptionService

/-- A key is given to a version without messages; a rotation leaves a version without messages,
for one that had no key before. -/
def EffectFree (uses : List VersionUse) : VersionEffect → Prop
  | .none => True
  | .generates groupId keyVersion => ¬ EncryptedUnder uses groupId keyVersion
  | .rotates groupId keyVersion =>
      ¬ EncryptedUnder uses groupId keyVersion ∧ ¬ GivenTo uses groupId (keyVersion + 1)

def VersionFree (state : GroupEncryptionService × List VersionUse) (event : GroupServiceEvent) : Prop :=
  EffectFree state.2 (state.1.versionEffect event)

namespace GroupEncryptionService

def storedKey (service : GroupEncryptionService) (groupId keyVersion : Nat) : Option Nat :=
  service.localStorage.get (.groupKey groupId keyVersion)

/-- A key in memory is the stored one. -/
def Cached (service : GroupEncryptionService) : Prop :=
  ∀ groupId keyVersion key, service.groupKeys.get (groupId, keyVersion) = some key →
    service.storedKey groupId keyVersion = some key

/-- The same keys are stored. -/
structure KeepsKeys (service next : GroupEncryptionService) : Prop where
  stored : next.storedKey = service.storedKey
  generated : next.generated = service.generated
  cached : next.Cached

theorem Cached.keepsKeys {service : GroupEncryptionService} (cached : service.Cached) : service.KeepsKeys service :=
  ⟨rfl, rfl, cached⟩

theorem KeepsKeys.trans {first second third : GroupEncryptionService} (former : first.KeepsKeys second)
    (latter : second.KeepsKeys third) : first.KeepsKeys third :=
  ⟨latter.stored.trans former.stored, latter.generated.trans former.generated, latter.cached⟩

section Calls

variable {service : GroupEncryptionService} (cached : service.Cached)

include cached in
/-- A key is looked up in the storage in the end. -/
theorem getGroupKey_spec (groupId keyVersion : Nat) :
    (service.getGroupKey groupId keyVersion).2 = service.storedKey groupId keyVersion ∧
      service.KeepsKeys (service.getGroupKey groupId keyVersion).1 := by
  unfold getGroupKey
  cases memory : service.groupKeys.get (groupId, keyVersion) with
  | some key => exact ⟨(cached groupId keyVersion key memory).symm, cached.keepsKeys⟩
  | none =>
      simp only [loadGroupKey]
      cases stored : service.localStorage.get (.groupKey groupId keyVersion) with
      | none => exact ⟨stored.symm, cached.keepsKeys⟩
      | some key =>
          refine ⟨stored.symm, rfl, rfl, ?_⟩
          intro group version other found
          dsimp only at found
          rw [OrderedMap.get_set] at found
          split at found
          · rename_i same
            obtain ⟨rfl, rfl⟩ := Prod.mk.inj same
            rw [← Option.some.inj found]
            exact stored
          · exact cached group version other found

include cached in
theorem createKeyBundleForMember_keeps (exportKey : Nat → List UInt8) (groupId : Nat) (member : KeyedMember)
    (groupKey keyVersion now : Nat) :
    service.KeepsKeys (service.createKeyBundleForMember exportKey groupId member groupKey keyVersion now).1 := by
  unfold createKeyBundleForMember
  split
  · exact cached.keepsKeys
  · exact ⟨rfl, rfl, cached⟩

include cached in
theorem addMember_keeps (exportKey : Nat → List UInt8) (groupId : Nat) (member : KeyedMember) (now : Nat) :
    service.KeepsKeys (service.addMemberToEncryptedGroup exportKey groupId member now).1 := by
  unfold addMemberToEncryptedGroup
  cases service.groupManager.groups groupId with
  | none => exact cached.keepsKeys
  | some groupInfo =>
      dsimp only
      split
      · exact cached.keepsKeys
      split
      · exact cached.keepsKeys
      have kept := (getGroupKey_spec cached groupId groupInfo.encryptionKeyVersion).2
      split
      · rename_i after result
        rwa [result] at kept
      · rename_i after groupKey result
        rw [result] at kept
        exact kept.trans (createKeyBundleForMember_keeps kept.cached exportKey groupId member groupKey _ now)

include cached in
theorem generateGroupKey_spec (groupId keyVersion : Nat) :
    (service.generateGroupKey groupId keyVersion).1.Cached ∧
      ∀ group version, (service.generateGroupKey groupId keyVersion).1.storedKey group version =
        if group = groupId ∧ version = keyVersion then some service.generated else service.storedKey group version := by
  have stored : ∀ group version, (service.generateGroupKey groupId keyVersion).1.storedKey group version =
      if group = groupId ∧ version = keyVersion then some service.generated else service.storedKey group version := by
    intro group version
    simp only [generateGroupKey, storedKey, OrderedMap.get_set, StorageName.groupKey.injEq]
  refine ⟨fun group version key found => ?_, stored⟩
  rw [stored]
  simp only [generateGroupKey, OrderedMap.get_set, Prod.mk.injEq] at found
  split at found
  · rename_i same
    rw [if_pos same, found]
  · rename_i other
    rw [if_neg other]
    exact cached group version key found

include cached in
theorem archiveOldKey_spec (groupId keyVersion now : Nat) :
    (service.archiveOldKey groupId keyVersion now).Cached ∧
      (service.archiveOldKey groupId keyVersion now).generated = service.generated ∧
      ∀ group version, (service.archiveOldKey groupId keyVersion now).storedKey group version =
        if group = groupId ∧ version = keyVersion then none else service.storedKey group version := by
  unfold archiveOldKey
  cases held : service.localStorage.get (.groupKey groupId keyVersion) with
  | none =>
      refine ⟨cached, rfl, fun group version => ?_⟩
      change service.storedKey group version = _
      split
      · rename_i same
        obtain ⟨rfl, rfl⟩ := same
        exact held
      · rfl
  | some key =>
      have stored : ∀ group version, ((service.localStorage.set (.archivedGroupKey groupId keyVersion now) key).delete
          (.groupKey groupId keyVersion)).get (.groupKey group version) =
          if group = groupId ∧ version = keyVersion then none else service.storedKey group version := by
        intro group version
        rw [OrderedMap.get_delete, OrderedMap.get_set_of_ne _ _ (by simp)]
        simp only [StorageName.groupKey.injEq]
        rfl
      refine ⟨fun group version other found => ?_, rfl, stored⟩
      refine (stored group version).trans ?_
      simp only [OrderedMap.get_delete, Prod.mk.injEq] at found
      split at found
      · cases found
      · rename_i apart
        rw [if_neg apart]
        exact cached group version other found

include cached in
/-- The loop over the members makes bundles, and no key. -/
theorem createBundles_keeps (exportKey : Nat → List UInt8) (groupId newKey keyVersion now : Nat)
    (members : List KeyedMember) :
    service.KeepsKeys (members.foldl (fun service member =>
      if member.publicKey ≠ "" then
        (service.createKeyBundleForMember exportKey groupId member newKey keyVersion now).1
      else service) service) := by
  induction members generalizing service with
  | nil => exact cached.keepsKeys
  | cons member members ih =>
      rw [List.foldl_cons]
      have first : service.KeepsKeys (if member.publicKey ≠ "" then
          (service.createKeyBundleForMember exportKey groupId member newKey keyVersion now).1 else service) := by
        split
        · exact createKeyBundleForMember_keeps cached exportKey groupId member newKey keyVersion now
        · exact cached.keepsKeys
      exact first.trans (ih first.cached)

include cached in
theorem rotateGroupKey_spec (exportKey : Nat → List UInt8) (groupId now : Nat) :
    match service.groupManager.groups groupId with
    | none => service.rotateGroupKey exportKey groupId now = (service, .error "群组不存在")
    | some groupInfo =>
        (service.rotateGroupKey exportKey groupId now).2 = .ok (groupInfo.encryptionKeyVersion + 1) ∧
          (service.rotateGroupKey exportKey groupId now).1.Cached ∧
          (service.rotateGroupKey exportKey groupId now).1.generated = service.generated + 1 ∧
          ∀ group version, (service.rotateGroupKey exportKey groupId now).1.storedKey group version =
            if group = groupId ∧ version = groupInfo.encryptionKeyVersion then none
            else if group = groupId ∧ version = groupInfo.encryptionKeyVersion + 1 then some service.generated
            else service.storedKey group version := by
  unfold rotateGroupKey
  cases service.groupManager.groups groupId with
  | none => rfl
  | some groupInfo =>
      obtain ⟨newCached, stored⟩ := generateGroupKey_spec cached groupId (groupInfo.encryptionKeyVersion + 1)
      have kept := createBundles_keeps newCached exportKey groupId service.generated
        (groupInfo.encryptionKeyVersion + 1) now
        ((service.generateGroupKey groupId (groupInfo.encryptionKeyVersion + 1)).1.groupManager.getGroupMembers
          groupId 100 0)
      obtain ⟨archived, same, left⟩ := archiveOldKey_spec kept.cached groupId groupInfo.encryptionKeyVersion now
      refine ⟨rfl, archived, same.trans kept.generated, fun group version => ?_⟩
      refine (left group version).trans ?_
      rw [kept.stored, stored]

end Calls

section Steps

variable (exportKey : Nat → List UInt8) (aes : AesGcm Nat) {service : GroupEncryptionService}

/-- What a step shows of a new key, and which keys it leaves. -/
def Follows (service next : GroupEncryptionService) (uses : List VersionUse) : VersionEffect → Prop
  | .none => service.KeepsKeys next ∧ (uses = [] ∨ ∃ groupId keyVersion key message,
      uses = [.encrypted groupId keyVersion key message] ∧ service.storedKey groupId keyVersion = some key)
  | .generates groupId keyVersion => uses = [.given groupId keyVersion service.generated false] ∧ next.Cached ∧
      next.generated = service.generated + 1 ∧ ∀ group version, next.storedKey group version =
        if group = groupId ∧ version = keyVersion then some service.generated else service.storedKey group version
  | .rotates groupId keyVersion => uses = [.given groupId (keyVersion + 1) service.generated true] ∧ next.Cached ∧
      next.generated = service.generated + 1 ∧ ∀ group version, next.storedKey group version =
        if group = groupId ∧ version = keyVersion then none
        else if group = groupId ∧ version = keyVersion + 1 then some service.generated
        else service.storedKey group version

theorem rotation_follows (cached : service.Cached) (groupId now : Nat) :
    Follows service (service.rotateGroupKey exportKey groupId now).1
      (service.rotationUse groupId (service.rotateGroupKey exportKey groupId now).2)
      (service.rotationEffect groupId) := by
  have spec := rotateGroupKey_spec cached exportKey groupId now
  unfold rotationEffect
  cases info : service.groupManager.groups groupId with
  | none =>
      rw [info] at spec
      rw [spec]
      exact ⟨cached.keepsKeys, .inl rfl⟩
  | some groupInfo =>
      rw [info] at spec
      obtain ⟨result, kept⟩ := spec
      rw [result]
      exact ⟨rfl, kept⟩

theorem KeepsKeys.follows {after next : GroupEncryptionService} {uses : List VersionUse} {effect : VersionEffect}
    (kept : service.KeepsKeys after) (follows : Follows after next uses effect) : Follows service next uses effect := by
  cases effect with
  | none =>
      obtain ⟨later, shown⟩ := follows
      rw [kept.stored] at shown
      exact ⟨kept.trans later, shown⟩
  | generates groupId keyVersion => simpa only [Follows, kept.generated, kept.stored] using follows
  | rotates groupId keyVersion => simpa only [Follows, kept.generated, kept.stored] using follows

/-- The bundles of a member are deleted, and no key. -/
theorem deleteBundles_keeps (keyIds : List String) (cached : service.Cached) :
    let after := keyIds.foldl (fun (service : GroupEncryptionService) keyId =>
      { service with
        keyBundles := service.keyBundles.delete keyId
        localStorage := service.localStorage.delete (.keyBundle keyId) }) service
    service.KeepsKeys after ∧ after.groupManager = service.groupManager := by
  induction keyIds generalizing service with
  | nil => exact ⟨cached.keepsKeys, rfl⟩
  | cons keyId keyIds ih =>
      let first : GroupEncryptionService := { service with
        keyBundles := service.keyBundles.delete keyId
        localStorage := service.localStorage.delete (.keyBundle keyId) }
      have stored : first.storedKey = service.storedKey := by
        funext groupId keyVersion
        exact (OrderedMap.get_delete _ _ _).trans (if_neg (by simp))
      have kept : service.KeepsKeys first := by
        refine ⟨stored, rfl, fun groupId keyVersion key found => ?_⟩
        rw [stored]
        exact cached groupId keyVersion key found
      obtain ⟨later, manager⟩ := ih kept.cached
      exact ⟨kept.trans later, manager⟩

theorem step_follows (cached : service.Cached) (event : GroupServiceEvent) :
    Follows service ((serviceMachine exportKey aes).step service event).1
      ((serviceMachine exportKey aes).step service event).2 (service.versionEffect event) := by
  cases event with
  | generateGroupKey groupId keyVersion =>
      obtain ⟨newCached, stored⟩ := generateGroupKey_spec cached groupId keyVersion
      exact ⟨rfl, newCached, rfl, stored⟩
  | rotateGroupKey groupId now => exact rotation_follows exportKey cached groupId now
  | addMemberToEncryptedGroup groupId member now =>
      exact ⟨addMember_keeps cached exportKey groupId member now, .inl rfl⟩
  | removeMemberFromEncryptedGroup groupId userId now =>
      obtain ⟨kept, manager⟩ := deleteBundles_keeps (service.bundlesOf groupId userId) cached
      have follows := kept.follows (rotation_follows exportKey kept.cached groupId now)
      unfold rotationEffect at follows
      rw [manager] at follows
      have uses : ∀ after : GroupEncryptionService, after.generated = service.generated →
          after.rotationUse groupId = service.rotationUse groupId := by
        intro after same
        funext result
        cases result with
        | error reason => rfl
        | ok newKeyVersion => rw [rotationUse, rotationUse, same]
      rw [uses _ kept.generated] at follows
      exact follows
  | encryptGroupMessage groupId keyVersion message iv now =>
      obtain ⟨found, kept⟩ := getGroupKey_spec cached groupId keyVersion
      simp only [serviceMachine, serviceStep, encryptGroupMessage]
      split
      · rename_i key produced read encrypted
        exact ⟨kept, .inr ⟨groupId, keyVersion, key, produced, rfl, found.symm.trans read⟩⟩
      · exact ⟨kept, .inl rfl⟩
  | getGroupKey groupId keyVersion => exact ⟨(getGroupKey_spec cached groupId keyVersion).2, .inl rfl⟩
  | groupInfoReceived groupInfo => exact ⟨⟨rfl, rfl, cached⟩, .inl rfl⟩
  | groupManager event => exact ⟨⟨rfl, rfl, cached⟩, .inl rfl⟩

end Steps

section Runs

variable (exportKey : Nat → List UInt8) (aes : AesGcm Nat) {state : GroupEncryptionService × List VersionUse}

/-- Stored keys were given to their versions, and the versions of all messages had keys. -/
structure Recorded (state : GroupEncryptionService × List VersionUse) : Prop where
  cached : state.1.Cached
  stored : ∀ groupId keyVersion key, state.1.storedKey groupId keyVersion = some key →
    key < state.1.generated ∧ GivenTo state.2 groupId keyVersion
  encrypted : ∀ groupId keyVersion key message, .encrypted groupId keyVersion key message ∈ state.2 →
    key < state.1.generated ∧ GivenTo state.2 groupId keyVersion

theorem recorded_create (groupManager : GroupKeyManager Nat) : Recorded (create groupManager, []) where
  cached _ _ _ found := nomatch found
  stored _ _ _ found := nomatch found
  encrypted _ _ _ _ member := nomatch member

theorem known_grows {next : GroupEncryptionService} (uses : List VersionUse)
    (grows : state.1.generated ≤ next.generated) {groupId keyVersion key : Nat}
    (before : key < state.1.generated ∧ GivenTo state.2 groupId keyVersion) :
    key < next.generated ∧ GivenTo (state.2 ++ uses) groupId keyVersion :=
  ⟨Nat.lt_of_lt_of_le before.1 grows, before.2.append uses⟩

/-- The record after a key was given. -/
theorem Recorded.given (recorded : Recorded state) {next : GroupEncryptionService} {groupId keyVersion : Nat}
    {byRotation : Bool} (cached : next.Cached) (generated : next.generated = state.1.generated + 1)
    (left : ∀ group version key, next.storedKey group version = some key →
      (group = groupId ∧ version = keyVersion ∧ key = state.1.generated) ∨
        state.1.storedKey group version = some key) :
    Recorded (next, state.2 ++ [.given groupId keyVersion state.1.generated byRotation]) := by
  have grows : state.1.generated ≤ next.generated := by omega
  refine ⟨cached, fun group version key found => ?_, fun group version key message member => ?_⟩
  · rcases left group version key found with ⟨rfl, rfl, rfl⟩ | before
    · exact ⟨Nat.lt_of_lt_of_eq (Nat.lt_succ_self _) generated.symm, _, byRotation,
        List.mem_append_right _ List.mem_cons_self⟩
    · exact known_grows _ grows (recorded.stored group version key before)
  · have before : .encrypted group version key message ∈ state.2 := by simpa using member
    exact known_grows _ grows (recorded.encrypted group version key message before)

/-- The record after a step from what the step shows and stores. -/
theorem Recorded.follow (recorded : Recorded state) {next : GroupEncryptionService} {uses : List VersionUse}
    {effect : VersionEffect} (follows : Follows state.1 next uses effect) : Recorded (next, state.2 ++ uses) := by
  cases effect with
  | none =>
      obtain ⟨kept, shown⟩ := follows
      have grows : state.1.generated ≤ next.generated := Nat.le_of_eq kept.generated.symm
      have stored : ∀ groupId keyVersion key, next.storedKey groupId keyVersion = some key →
          key < next.generated ∧ GivenTo (state.2 ++ uses) groupId keyVersion := by
        intro groupId keyVersion key found
        rw [kept.stored] at found
        exact known_grows _ grows (recorded.stored groupId keyVersion key found)
      refine ⟨kept.cached, stored, fun groupId keyVersion key message member => ?_⟩
      rcases List.mem_append.mp member with before | now
      · exact known_grows _ grows (recorded.encrypted groupId keyVersion key message before)
      · rcases shown with rfl | ⟨group, version, other, produced, rfl, found⟩
        · cases now
        · cases List.mem_singleton.mp now
          exact stored groupId keyVersion key (kept.stored ▸ found)
  | generates groupId keyVersion =>
      obtain ⟨rfl, cached, generated, left⟩ := follows
      refine recorded.given cached generated fun group version key found => ?_
      rw [left] at found
      split at found
      · rename_i same
        exact .inl ⟨same.1, same.2, (Option.some.inj found).symm⟩
      · exact .inr found
  | rotates groupId keyVersion =>
      obtain ⟨rfl, cached, generated, left⟩ := follows
      refine recorded.given cached generated fun group version key found => ?_
      rw [left] at found
      split at found
      · cases found
      split at found
      · rename_i same
        exact .inl ⟨same.1, same.2, (Option.some.inj found).symm⟩
      · exact .inr found

theorem Recorded.step (recorded : Recorded state) (event : GroupServiceEvent) :
    Recorded ((serviceMachine exportKey aes).recorded.step state event).1 :=
  recorded.follow (step_follows exportKey aes recorded.cached event)

theorem stable_iff (cached : state.1.Cached) : VersionsStable state ↔
    (∀ groupId keyVersion key message, .encrypted groupId keyVersion key message ∈ state.2 →
      state.1.storedKey groupId keyVersion = some key) ∧
    state.2.Pairwise fun earlier later => ¬ Reuses earlier later := by
  have looked : ∀ groupId keyVersion, (state.1.getGroupKey groupId keyVersion).2 =
      state.1.storedKey groupId keyVersion := fun groupId keyVersion => (getGroupKey_spec cached groupId keyVersion).1
  constructor
  · rintro ⟨found, fresh⟩
    exact ⟨fun groupId keyVersion key message member =>
      (looked _ _).symm.trans (found groupId keyVersion key message member), fresh⟩
  · rintro ⟨found, fresh⟩
    exact ⟨fun groupId keyVersion key message member =>
      (looked _ _).trans (found groupId keyVersion key message member), fresh⟩

theorem pairwise_append_singleton (uses : List VersionUse) (use : VersionUse) :
    (uses ++ [use]).Pairwise (fun earlier later => ¬ Reuses earlier later) ↔
      uses.Pairwise (fun earlier later => ¬ Reuses earlier later) ∧ ∀ earlier ∈ uses, ¬ Reuses earlier use := by
  simp [List.pairwise_append]

/-- A message is recorded before a key that is given. -/
theorem mem_before {uses : List VersionUse} {groupId keyVersion key group version other : Nat} {byRotation : Bool}
    {message : EncryptedGroupMessage}
    (member : .encrypted group version other message ∈ uses ++ [.given groupId keyVersion key byRotation]) :
    .encrypted group version other message ∈ uses := by
  simpa using member

/-- A step without a new key keeps the versions stable. -/
theorem stable_quiet (recorded : Recorded state) (stable : VersionsStable state) {next : GroupEncryptionService}
    {uses : List VersionUse} (follows : Follows state.1 next uses .none) :
    VersionsStable (next, state.2 ++ uses) := by
  obtain ⟨found, fresh⟩ := (stable_iff recorded.cached).mp stable
  rw [stable_iff (recorded.follow follows).cached]
  obtain ⟨kept, shown⟩ := follows
  simp only [kept.stored]
  rcases shown with rfl | ⟨group, version, other, produced, rfl, held⟩
  · simpa using ⟨found, fresh⟩
  · refine ⟨fun groupId keyVersion key message member => ?_, ?_⟩
    · rcases List.mem_append.mp member with before | now
      · exact found groupId keyVersion key message before
      · cases List.mem_singleton.mp now
        exact held
    · rw [pairwise_append_singleton]
      exact ⟨fresh, fun earlier _ => by simp [reuses_iff]⟩

/-- A generated key hides the key of the messages under its version. -/
theorem stable_generates_iff (recorded : Recorded state) (stable : VersionsStable state)
    {next : GroupEncryptionService} {uses : List VersionUse} {groupId keyVersion : Nat}
    (follows : Follows state.1 next uses (.generates groupId keyVersion)) :
    VersionsStable (next, state.2 ++ uses) ↔ ¬ EncryptedUnder state.2 groupId keyVersion := by
  obtain ⟨found, fresh⟩ := (stable_iff recorded.cached).mp stable
  rw [stable_iff (recorded.follow follows).cached]
  obtain ⟨rfl, -, -, left⟩ := follows
  simp only [left]
  constructor
  · rintro ⟨all, -⟩ ⟨key, message, member⟩
    have same := all groupId keyVersion key message (List.mem_append_left _ member)
    rw [if_pos ⟨rfl, rfl⟩] at same
    have known := (recorded.encrypted groupId keyVersion key message member).1
    exact absurd (Option.some.inj same) (Nat.ne_of_gt known)
  · intro free
    refine ⟨fun group version key message member => ?_, ?_⟩
    · have before := mem_before member
      rw [if_neg]
      · exact found group version key message before
      · rintro ⟨rfl, rfl⟩
        exact free ⟨key, message, before⟩
    · rw [pairwise_append_singleton]
      exact ⟨fresh, fun earlier _ => by simp [reuses_iff]⟩

/-- A rotation takes the key of one version away, and gives a key to the next version. -/
theorem stable_rotates_iff (recorded : Recorded state) (stable : VersionsStable state)
    {next : GroupEncryptionService} {uses : List VersionUse} {groupId keyVersion : Nat}
    (follows : Follows state.1 next uses (.rotates groupId keyVersion)) :
    VersionsStable (next, state.2 ++ uses) ↔
      ¬ EncryptedUnder state.2 groupId keyVersion ∧ ¬ GivenTo state.2 groupId (keyVersion + 1) := by
  obtain ⟨found, fresh⟩ := (stable_iff recorded.cached).mp stable
  rw [stable_iff (recorded.follow follows).cached]
  obtain ⟨rfl, -, -, left⟩ := follows
  simp only [left, pairwise_append_singleton]
  constructor
  · rintro ⟨all, -, unused⟩
    constructor
    · rintro ⟨key, message, member⟩
      have same := all groupId keyVersion key message (List.mem_append_left _ member)
      rw [if_pos ⟨rfl, rfl⟩] at same
      cases same
    · rintro ⟨key, byRotation, member⟩
      exact unused _ member ⟨rfl, rfl⟩
  · rintro ⟨free, unused⟩
    refine ⟨fun group version key message member => ?_, fresh, ?_⟩
    · have before := mem_before member
      rw [if_neg, if_neg]
      · exact found group version key message before
      · rintro ⟨rfl, rfl⟩
        exact unused (recorded.encrypted _ _ key message before).2
      · rintro ⟨rfl, rfl⟩
        exact free ⟨key, message, before⟩
    · intro earlier member reuses
      obtain ⟨group, version, key, key', byRotation, rfl, same⟩ := (reuses_iff _ _).mp reuses
      cases same
      exact unused ⟨key, byRotation, member⟩

/-- A step keeps the versions stable exactly if it leaves versions without messages. -/
theorem stable_follow_iff (recorded : Recorded state) (stable : VersionsStable state)
    {next : GroupEncryptionService} {uses : List VersionUse} {effect : VersionEffect}
    (follows : Follows state.1 next uses effect) :
    VersionsStable (next, state.2 ++ uses) ↔ EffectFree state.2 effect := by
  cases effect with
  | none => exact iff_of_true (stable_quiet recorded stable follows) trivial
  | generates groupId keyVersion => exact stable_generates_iff recorded stable follows
  | rotates groupId keyVersion => exact stable_rotates_iff recorded stable follows

/-- The versions stay stable exactly as long as every call leaves versions without messages for new ones. -/
theorem groupVersions_stable_iff (groupManager : GroupKeyManager Nat) (events : List GroupServiceEvent) :
    (∀ state ∈ (serviceMachine exportKey aes).recorded.states (create groupManager, []) events,
      VersionsStable state) ↔
      (serviceMachine exportKey aes).recorded.Along VersionFree (create groupManager, []) events := by
  refine (serviceMachine exportKey aes).recorded.states_iff_along VersionFree Recorded VersionsStable
    (fun state event recorded => recorded.step exportKey aes event) (fun state event recorded stable => ?_)
    (create groupManager, []) events (recorded_create groupManager) ?_
  · exact stable_follow_iff recorded stable (step_follows exportKey aes recorded.cached event)
  · exact ⟨nofun, List.Pairwise.nil⟩

/-- A group with encryption at its first version. -/
def firstVersionGroup : EncryptedGroup := ⟨⟨1, 1, true, false⟩, 1⟩

def rotatedRun : GroupEncryptionService × List VersionUse :=
  ((serviceMachine (fun key => [UInt8.ofNat key]) (sampleGcm UInt8.ofNat)).recorded.run
    (create (.create (fun _ => none) 1), [])
    [.groupInfoReceived firstVersionGroup, .generateGroupKey 1 1,
      .encryptGroupMessage 1 1 (.text [104, 105]) (List.replicate 12 0) 5, .rotateGroupKey 1 6]).1

/-- A rotation takes the key of the messages before it away. -/
theorem groupVersions_rotation_fails :
    ¬ ∀ state ∈ (serviceMachine (fun key => [UInt8.ofNat key]) (sampleGcm UInt8.ofNat)).recorded.states
        (create (.create (fun _ => none) 1), [])
        [.groupInfoReceived firstVersionGroup, .generateGroupKey 1 1,
          .encryptGroupMessage 1 1 (.text [104, 105]) (List.replicate 12 0) 5, .rotateGroupKey 1 6],
      VersionsStable state := by
  intro stable
  have last := stable rotatedRun (Machine.run_mem_states _ _ _)
  have shown : ∃ message, .encrypted 1 1 0 message ∈ rotatedRun.2 := ⟨_, .tail _ (.head _)⟩
  obtain ⟨message, member⟩ := shown
  have lost : (rotatedRun.1.getGroupKey 1 1).2 = none := by decide +kernel
  exact absurd (lost.symm.trans (last.found 1 1 0 message member)) nofun

end Runs

end GroupEncryptionService

end SecureChat.Web
