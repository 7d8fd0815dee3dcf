import SecureChat.Construction.Web.MessageKeys
import SecureChat.Proof.Web.Encryption

namespace SecureChat.Web.MessageEncryptionManager
open Library

/-- The manager finds the key of the message under the identifier that the message names. -/
def KeyStore.Finds (store : KeyStore) (message : ProducedMessage) : Prop :=
  (store.getDecryptionKey message.encryptedData.keyId).2.map MessageEncryptionKey.keyData = some message.key

instance (store : KeyStore) (message : ProducedMessage) : Decidable (store.Finds message) :=
  inferInstanceAs (Decidable (_ = _))

/-- A message is for a group without a context. -/
def MessageRefused (store : KeyStore) : KeyEvent → Prop
  | .encryptMessage _ _ groupId _ _ => ∃ group ∈ groupId, group ≠ 0 ∧ store.groupContexts.get group = none
  | _ => True

/-- The identifier is no session's. -/
def NoSession (keyId : String) : Prop := ∀ receiverId, keyId ≠ sessionKeyId receiverId

theorem messageKeyId_noSession (now : Nat) (random : String) : NoSession (messageKeyId now random) := by
  intro receiverId same
  have heads := congrArg (fun name : String => name.toList.head?) same
  simp [messageKeyId, sessionKeyId, toString] at heads

theorem groupKeyId_noSession (groupId : Int) (keyVersion : Nat) : NoSession (groupKeyId groupId keyVersion) := by
  intro receiverId same
  have heads := congrArg (fun name : String => name.toList.head?) same
  simp [groupKeyId, sessionKeyId, toString] at heads

/-- A key that messages are encrypted with, or were. -/
def Used (store : KeyStore) (produced : List ProducedMessage) (key : Nat) : Prop :=
  (∃ receiverId entry, store.messageKeys.get (sessionKeyId receiverId) = some entry ∧ entry.keyData = key) ∨
    (∃ groupId context, store.groupContexts.get groupId = some context ∧ context.encryptionKey = key) ∨
    ∃ message ∈ produced, message.key = key

/-- A key that stands under its own identifier. -/
def Listed (store : KeyStore) (key : Nat) : Prop :=
  ∃ keyId entry, store.messageKeys.get keyId = some entry ∧ NoSession keyId ∧ entry.keyData = key

/-- Nothing is stored, and no key is both used and listed. -/
structure KeysApart (store : KeyStore) (produced : List ProducedMessage) : Prop where
  storage : store.localStorage = .empty
  entries : ∀ keyId entry, store.messageKeys.get keyId = some entry →
    entry.userIds ≠ [] ∧ NoSession entry.keyId ∧ entry.keyData < store.generated
  used : ∀ key, Used store produced key → key < store.generated
  apart : ∀ key, Listed store key → ¬ Used store produced key
  names : ∀ message ∈ produced, ∃ keyId, message.encryptedData.keyId = some keyId ∧ NoSession keyId

variable {store : KeyStore} {produced : List ProducedMessage}

theorem keysApart_empty : KeysApart .empty [] where
  storage := rfl
  entries := by simp [KeyStore.empty]
  used key used := by
    rcases used with ⟨_, _, found, -⟩ | ⟨_, _, found, -⟩ | ⟨_, member, -⟩
    · cases found
    · cases found
    · cases member
  apart key listed := by
    obtain ⟨_, _, found, -⟩ := listed
    cases found
  names := by simp

/-- Only the memory is searched. -/
theorem KeysApart.getDecryptionKey (keys : KeysApart store produced) (keyId : Option String) :
    (store.getDecryptionKey keyId).1 = store ∧
      ∀ entry, (store.getDecryptionKey keyId).2 = some entry →
        ∃ name, keyId = some name ∧ store.messageKeys.get name = some entry := by
  have absent : ∀ name, store.loadKey name = none := fun name => by simp [KeyStore.loadKey, keys.storage]
  unfold KeyStore.getDecryptionKey
  cases wanted : keyId.filter (fun keyId => keyId ≠ "") with
  | none => simp
  | some name =>
      have same : keyId = some name := (Option.filter_eq_some_iff.mp wanted).1
      cases found : store.messageKeys.get name with
      | some entry =>
          refine ⟨by simp [found], fun other read => ⟨name, same, ?_⟩⟩
          simpa [found] using read
      | none => simp [found, absent]

/-- A message that was produced is never read with its key. -/
theorem KeysApart.lost (keys : KeysApart store produced) {message : ProducedMessage} (member : message ∈ produced) :
    ¬ store.Finds message := by
  intro found
  obtain ⟨entry, read, same⟩ := Option.map_eq_some_iff.mp found
  obtain ⟨name, named, stored⟩ := (keys.getDecryptionKey _).2 entry read
  obtain ⟨keyId, named', noSession⟩ := keys.names message member
  obtain rfl := Option.some.inj (named.symm.trans named')
  exact keys.apart entry.keyData ⟨name, entry, stored, noSession, rfl⟩ (.inr (.inr ⟨message, member, same.symm⟩))

section Steps

/-- A key with users is not stored. -/
theorem KeyStore.storeKey_of_users (store : KeyStore) {key : MessageEncryptionKey Nat} (users : key.userIds ≠ []) :
    store.storeKey key = store := by
  simp [KeyStore.storeKey, stringifyKey, users]

/-- No key with users is archived. -/
theorem KeyStore.archiveOldKey_of_users (store : KeyStore) {key : MessageEncryptionKey Nat} (users : key.userIds ≠ [])
    (now : Nat) : store.archiveOldKey key now = (store, .error bigintError) := by
  simp [KeyStore.archiveOldKey, stringifyKey, users]

/-- At most one new key, either used or listed. -/
theorem KeysApart.change (keys : KeysApart store produced) (later : KeyStore) (newUse : Prop)
    (storage : later.localStorage = .empty) (grows : store.generated ≤ later.generated)
    (entries : ∀ keyId entry, later.messageKeys.get keyId = some entry →
      entry.userIds ≠ [] ∧ NoSession entry.keyId ∧ entry.keyData < later.generated)
    (used : ∀ key, Used later produced key →
      Used store produced key ∨ newUse ∧ key = store.generated ∧ key < later.generated)
    (listed : ∀ key, Listed later key → Listed store key ∨ ¬ newUse ∧ key = store.generated) :
    KeysApart later produced where
  storage := storage
  entries := entries
  used key now := by
    rcases used key now with before | ⟨-, -, known⟩
    · exact Nat.lt_of_lt_of_le (keys.used key before) grows
    · exact known
  apart key shown now := by
    rcases listed key shown with listed | ⟨unused, same⟩
    · rcases used key now with before | ⟨-, same, -⟩
      · exact keys.apart key listed before
      · obtain ⟨keyId, entry, stored, -, rfl⟩ := listed
        exact absurd (keys.entries keyId entry stored).2.2 (by omega)
    · rcases used key now with before | ⟨new, -⟩
      · exact absurd (keys.used key before) (by omega)
      · exact unused new
  names := keys.names

/-- A new key is put under a name, where other entries may be deleted. -/
theorem KeysApart.newKey (keys : KeysApart store produced) {keyId : String} {entry : MessageEncryptionKey Nat}
    {others : OrderedMap String (MessageEncryptionKey Nat)}
    (fewer : ∀ name old, others.get name = some old → store.messageKeys.get name = some old)
    (users : entry.userIds ≠ []) (noSession : NoSession entry.keyId) (fresh : entry.keyData = store.generated) :
    KeysApart { store with generated := store.generated + 1, messageKeys := others.set keyId entry } produced := by
  have stored : ∀ {name found}, (others.set keyId entry).get name = some found →
      name = keyId ∧ found = entry ∨ store.messageKeys.get name = some found := by
    intro name found stored
    rw [OrderedMap.get_set] at stored
    split at stored
    · rename_i same
      exact .inl ⟨same, (Option.some.inj stored).symm⟩
    · exact .inr (fewer name found stored)
  refine keys.change _ (¬ NoSession keyId) keys.storage (Nat.le_succ _) ?_ ?_ ?_
  · intro name found here
    rcases stored here with ⟨-, rfl⟩ | before
    · exact ⟨users, noSession, Nat.lt_succ_of_le (Nat.le_of_eq fresh)⟩
    · obtain ⟨users, noSession, known⟩ := keys.entries name found before
      exact ⟨users, noSession, Nat.lt_succ_of_lt known⟩
  · rintro key (⟨receiverId, found, here, rfl⟩ | elsewhere)
    · rcases stored here with ⟨same, rfl⟩ | before
      · exact .inr ⟨fun noSession => noSession receiverId same.symm, fresh, Nat.lt_succ_of_le (Nat.le_of_eq fresh)⟩
      · exact .inl (.inl ⟨receiverId, found, before, rfl⟩)
    · exact .inl (.inr elsewhere)
  · rintro key ⟨name, found, here, free, rfl⟩
    rcases stored here with ⟨rfl, rfl⟩ | before
    · exact .inr ⟨fun held => held free, fresh⟩
    · exact .inl ⟨name, found, before, free, rfl⟩

/-- A context is put in place, with a new key or with the key that the group had. -/
theorem KeysApart.setContext (keys : KeysApart store produced) (groupId : Int) {context : GroupContext}
    {generated : Nat} (grows : store.generated ≤ generated)
    (key : context.encryptionKey = store.generated ∧ store.generated < generated ∨
      ∃ old, store.groupContexts.get groupId = some old ∧ old.encryptionKey = context.encryptionKey) :
    KeysApart { store with generated := generated, groupContexts := store.groupContexts.set groupId context }
      produced := by
  refine keys.change { store with generated := generated, groupContexts := store.groupContexts.set groupId context }
    True keys.storage grows ?_ ?_ ?_
  · intro keyId entry here
    obtain ⟨users, noSession, known⟩ := keys.entries keyId entry here
    exact ⟨users, noSession, Nat.lt_of_lt_of_le known grows⟩
  · rintro used (session | ⟨group, found, here, rfl⟩ | message)
    · exact .inl (.inl session)
    · rw [OrderedMap.get_set] at here
      split at here
      · rename_i same
        obtain rfl := Option.some.inj here
        rcases key with ⟨new, room⟩ | ⟨old, stored, same'⟩
        · exact .inr ⟨trivial, new, new ▸ room⟩
        · exact .inl (.inr (.inl ⟨groupId, old, stored, same'⟩))
      · exact .inl (.inr (.inl ⟨group, found, here, rfl⟩))
    · exact .inl (.inr (.inr message))
  · exact fun _ listed => .inl listed

/-- A message is produced with a key that is in use. -/
theorem KeysApart.produce (keys : KeysApart store produced) {message : ProducedMessage} {keyId : String}
    (used : Used store produced message.key) (name : message.encryptedData.keyId = some keyId)
    (noSession : NoSession keyId) : KeysApart store (produced ++ [message]) := by
  have before : ∀ key, Used store (produced ++ [message]) key → Used store produced key := by
    rintro key (session | group | ⟨old, member, rfl⟩)
    · exact .inl session
    · exact .inr (.inl group)
    · rcases List.mem_append.mp member with earlier | now
      · exact .inr (.inr ⟨old, earlier, rfl⟩)
      · rw [List.mem_singleton.mp now]
        exact used
  exact
    { storage := keys.storage
      entries := keys.entries
      used := fun key now => keys.used key (before key now)
      apart := fun key listed now => keys.apart key listed (before key now)
      names := by
        intro old member
        rcases List.mem_append.mp member with earlier | now
        · exact keys.names old earlier
        · rw [List.mem_singleton.mp now]
          exact ⟨keyId, name, noSession⟩ }

variable (random : Nat → String)

theorem KeysApart.generateContext (keys : KeysApart store produced) (groupId : Int) (memberIds : List Int) (now : Nat) :
    KeysApart (store.generateGroupEncryptionContext groupId memberIds now).1 produced :=
  keys.setContext groupId (Nat.le_succ _) (.inl ⟨rfl, Nat.lt_succ_self _⟩)

theorem KeysApart.rotateGroupKey (keys : KeysApart store produced) (groupId : Int) (now : Nat) :
    KeysApart (store.rotateGroupKey groupId now).1 produced := by
  unfold KeyStore.rotateGroupKey
  cases found : store.groupContexts.get groupId with
  | none => exact keys
  | some oldContext =>
      have generated := keys.generateContext groupId oldContext.members.keys now
      exact generated.setContext groupId (Nat.le_refl _) (.inr ⟨_, OrderedMap.get_set_self _ _ _, rfl⟩)

theorem KeysApart.addMemberToGroup (keys : KeysApart store produced) (groupId memberId : Int) (now : Nat) :
    KeysApart (store.addMemberToGroup groupId memberId now).1 produced := by
  unfold KeyStore.addMemberToGroup
  cases found : store.groupContexts.get groupId with
  | none => exact keys
  | some context => exact keys.setContext groupId (Nat.le_refl _) (.inr ⟨context, found, rfl⟩)

theorem KeysApart.removeMemberFromGroup (keys : KeysApart store produced) (groupId memberId : Int) (now : Nat) :
    KeysApart (store.removeMemberFromGroup groupId memberId now).1 produced := by
  unfold KeyStore.removeMemberFromGroup
  cases found : store.groupContexts.get groupId with
  | none => exact keys
  | some context =>
      let after : GroupContext := { context with members := context.members.delete memberId }
      have removed : KeysApart { store with groupContexts := store.groupContexts.set groupId after } produced :=
        keys.setContext groupId (Nat.le_refl _) (.inr ⟨context, found, rfl⟩)
      exact removed.rotateGroupKey groupId now

theorem KeysApart.rotateMessageKey (keys : KeysApart store produced) (keyId : String) (now : Nat) :
    KeysApart (store.rotateMessageKey random keyId now).1 produced := by
  unfold KeyStore.rotateMessageKey
  cases found : store.messageKeys.get keyId with
  | none => exact keys
  | some oldKey =>
      have users := (keys.entries keyId oldKey found).1
      simp only [KeyStore.generateMessageKey]
      rw [KeyStore.archiveOldKey_of_users _ users, KeyStore.storeKey_of_users]
      · refine keys.newKey ?_ users (messageKeyId_noSession _ _) rfl
        intro name old stored
        rw [OrderedMap.get_delete] at stored
        split at stored
        · cases stored
        · exact stored
      · exact users

/-- A loop keeps what each of its rotations keeps. -/
theorem KeysApart.forEach {Name : Type} {rotate : KeyStore → Name → KeyStore × Except String Unit}
    (kept : ∀ store name, KeysApart store produced → KeysApart (rotate store name).1 produced) (names : List Name)
    (keys : KeysApart store produced) : KeysApart (KeyStore.forEach rotate names store).1 produced := by
  induction names generalizing store with
  | nil => exact keys
  | cons name names ih =>
      have next := kept store name keys
      unfold KeyStore.forEach
      split
      · rename_i after result
        exact ih (by rwa [result] at next)
      · rename_i after reason result
        rwa [result] at next

theorem KeysApart.checkKeyRotation (keys : KeysApart store produced) (now : Nat) :
    KeysApart (store.checkKeyRotation random now).1 produced := by
  unfold KeyStore.checkKeyRotation
  extract_lets rotateKey rotateGroup
  have keyKept : ∀ store keyId, KeysApart store produced → KeysApart (rotateKey store keyId).1 produced := by
    intro store keyId keys
    simp only [rotateKey]
    split
    · exact keys.rotateMessageKey random keyId now
    · exact keys
  have groupKept : ∀ store groupId, KeysApart store produced → KeysApart (rotateGroup store groupId).1 produced := by
    intro store groupId keys
    simp only [rotateGroup]
    split
    · exact keys.rotateGroupKey groupId now
    · exact keys
  have first := keys.forEach keyKept store.messageKeys.keys
  split
  · rename_i after result
    rw [result] at first
    exact first.forEach groupKept after.groupContexts.keys
  · rename_i after reason result
    rwa [result] at first

theorem KeysApart.reload (keys : KeysApart store produced) : KeysApart store.reload produced := by
  have same : store.reload = { store with messageKeys := .empty, groupContexts := .empty } := by
    simp only [KeyStore.reload, KeyStore.loadStoredKeys, keys.storage]
    rfl
  rw [same]
  refine keys.change { store with messageKeys := .empty, groupContexts := .empty } False keys.storage
    (Nat.le_refl _) (by simp) ?_ ?_
  · rintro key (⟨_, _, found, -⟩ | ⟨_, _, found, -⟩ | message)
    · cases found
    · cases found
    · exact .inl (.inr (.inr message))
  · rintro key ⟨_, _, found, -⟩
    cases found

end Steps

section Messages

variable (random : Nat → String)

/-- A message is refused, or it is encrypted with a key in use under an identifier that is no session's. -/
theorem KeysApart.getEncryptionKey (keys : KeysApart store produced) (receiverId : Int) (groupId : Option Int)
    (now : Nat) :
    KeysApart (store.getEncryptionKey random receiverId groupId now).1 produced ∧
      ∀ key, (store.getEncryptionKey random receiverId groupId now).2 = .ok key →
        Used (store.getEncryptionKey random receiverId groupId now).1 produced key.keyData ∧ NoSession key.keyId := by
  unfold KeyStore.getEncryptionKey
  cases group : groupId.filter (fun groupId => groupId ≠ 0) with
  | some groupId =>
      cases found : store.groupContexts.get groupId with
      | none => exact ⟨by simpa [found] using keys, by simp [found]⟩
      | some context =>
          simp only [found, Except.ok.injEq, forall_eq']
          exact ⟨keys, .inr (.inl ⟨groupId, context, found, rfl⟩), groupKeyId_noSession _ _⟩
  | none =>
      cases found : (store.messageKeys.get (sessionKeyId receiverId)).filter
          (fun key => ¬ key.expiresAt < now) with
      | some entry =>
          have stored := (Option.filter_eq_some_iff.mp found).1
          simp only [Except.ok.injEq, forall_eq']
          exact ⟨keys, .inl ⟨receiverId, entry, stored, rfl⟩, (keys.entries _ entry stored).2.1⟩
      | none =>
          simp only [KeyStore.generateMessageKey]
          rw [KeyStore.storeKey_of_users]
          · simp only [Except.ok.injEq, forall_eq']
            refine ⟨keys.newKey (fun _ _ => id) (List.cons_ne_nil _ _) (messageKeyId_noSession _ _) rfl,
              .inl ⟨receiverId, _, OrderedMap.get_set_self _ _ _, rfl⟩, messageKeyId_noSession _ _⟩
          · exact List.cons_ne_nil _ _

/-- Only a message for a group without a context is refused. -/
theorem getEncryptionKey_error_iff (store : KeyStore) (receiverId : Int) (groupId : Option Int) (now : Nat) :
    (∃ reason, (store.getEncryptionKey random receiverId groupId now).2 = .error reason) ↔
      ∃ group ∈ groupId, group ≠ 0 ∧ store.groupContexts.get group = none := by
  have named : (∃ group ∈ groupId, group ≠ 0 ∧ store.groupContexts.get group = none) ↔
      ∃ group, groupId.filter (fun groupId => groupId ≠ 0) = some group ∧ store.groupContexts.get group = none := by
    simp [Option.filter_eq_some_iff, and_assoc]
  rw [named]
  unfold KeyStore.getEncryptionKey
  cases group : groupId.filter (fun groupId => groupId ≠ 0) with
  | some groupId => cases found : store.groupContexts.get groupId <;> simp [found]
  | none =>
      cases found : (store.messageKeys.get (sessionKeyId receiverId)).filter
          (fun key => ¬ key.expiresAt < now) <;> simp

variable (aes : AesGcm Nat)

theorem KeysApart.step (keys : KeysApart store produced) (event : KeyEvent) :
    KeysApart ((keyMachine aes random).step store event).1
      (produced ++ ((keyMachine aes random).step store event).2) := by
  cases event with
  | encryptMessage message receiverId groupId iv now =>
      obtain ⟨kept, used⟩ := keys.getEncryptionKey random receiverId groupId now
      simp only [keyMachine, keyStep, encryptMessage]
      cases found : (store.getEncryptionKey random receiverId groupId now).2 with
      | error reason => simpa [found, Except.map, Except.toOption] using kept
      | ok key =>
          obtain ⟨inUse, noSession⟩ := used key found
          exact kept.produce inUse rfl noSession
  | decryptMessage encryptedData =>
      have same : (decryptMessage aes store encryptedData).1 = store := by
        unfold decryptMessage
        split
        · rfl
        · exact (keys.getDecryptionKey _).1
      simpa [keyMachine, keyStep, same] using keys
  | generateGroupEncryptionContext groupId memberIds now =>
      simpa [keyMachine, keyStep] using keys.generateContext groupId memberIds now
  | rotateGroupKey groupId now => simpa [keyMachine, keyStep] using keys.rotateGroupKey groupId now
  | addMemberToGroup groupId memberId now =>
      simpa [keyMachine, keyStep] using keys.addMemberToGroup groupId memberId now
  | removeMemberFromGroup groupId memberId now =>
      simpa [keyMachine, keyStep] using keys.removeMemberFromGroup groupId memberId now
  | checkKeyRotation now => simpa [keyMachine, keyStep] using keys.checkKeyRotation random now
  | reload => simpa [keyMachine, keyStep] using keys.reload

/-- A step produces nothing exactly if it refuses its message. -/
theorem step_produces_nothing (store : KeyStore) (event : KeyEvent) :
    ((keyMachine aes random).step store event).2 = [] ↔ MessageRefused store event := by
  cases event with
  | encryptMessage message receiverId groupId iv now =>
      rw [MessageRefused, ← getEncryptionKey_error_iff random store receiverId groupId now]
      simp only [keyMachine, keyStep, encryptMessage]
      cases (store.getEncryptionKey random receiverId groupId now).2 <;> simp [Except.map, Except.toOption]
  | decryptMessage encryptedData => exact iff_of_true rfl trivial
  | generateGroupEncryptionContext groupId memberIds now => exact iff_of_true rfl trivial
  | rotateGroupKey groupId now => exact iff_of_true rfl trivial
  | addMemberToGroup groupId memberId now => exact iff_of_true rfl trivial
  | removeMemberFromGroup groupId memberId now => exact iff_of_true rfl trivial
  | checkKeyRotation now => exact iff_of_true rfl trivial
  | reload => exact iff_of_true rfl trivial

theorem run_keysApart (events : List KeyEvent) :
    KeysApart ((keyMachine aes random).run .empty events).1 ((keyMachine aes random).run .empty events).2 :=
  (keyMachine aes random).history_always KeysApart
    (fun _ event _ keys => keys.step random aes event) .empty events [] keysApart_empty

/-- The keys of all messages of a run are found exactly if the run produces no message. -/
theorem messageKeys_found_iff (events : List KeyEvent) :
    (∀ message ∈ ((keyMachine aes random).run .empty events).2,
      ((keyMachine aes random).run .empty events).1.Finds message) ↔
      (keyMachine aes random).Along MessageRefused .empty events := by
  have keys := run_keysApart random aes events
  have none : (∀ message ∈ ((keyMachine aes random).run .empty events).2, False) ↔
      (keyMachine aes random).Along MessageRefused .empty events := by
    refine (keyMachine aes random).outputs_iff_along MessageRefused (fun _ => True) (fun _ => False)
      (fun _ _ _ _ => trivial) (fun store event _ => ?_) .empty events trivial
    rw [← step_produces_nothing random aes, List.eq_nil_iff_forall_not_mem]
  rw [← none]
  exact forall₂_congr fun message member => iff_of_false (keys.lost member) id

/-- The key of a first message to a user is not found under the identifier in the message. -/
theorem messageKeys_first_fails :
    ¬ ∀ message ∈ ((keyMachine (sampleGcm UInt8.ofNat) fun _ => "a1b2c3d4e").run .empty
        [.encryptMessage (.text [104, 105]) 2 none (List.replicate 12 0) 5]).2,
      ((keyMachine (sampleGcm UInt8.ofNat) fun _ => "a1b2c3d4e").run .empty
        [.encryptMessage (.text [104, 105]) 2 none (List.replicate 12 0) 5]).1.Finds message := by
  decide +kernel

end Messages

end SecureChat.Web.MessageEncryptionManager
