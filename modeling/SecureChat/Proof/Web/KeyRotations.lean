import SecureChat.Construction.Web.GroupKeys
import SecureChat.Proof.Web.GroupKeys

namespace SecureChat.Web
open Library

variable {Key : Type}

/-- The key is the current one, or an archived one, under this version. -/
def KeyFound (context : GroupEncryptionContext Key) (version : Nat) (key : Key) : Prop :=
  (context.keyVersion = version ∧ context.encryptionKey = key) ∨
    ∃ old, context.historicalKeys.get version = some old ∧ old.encryptionKey = key

/-- Each key that was the current one is still found under its version in all later states. -/
def NoKeyLost (states : List (KeyRotations Key)) : Prop :=
  states.Pairwise fun earlier later =>
    KeyFound later.context earlier.context.keyVersion earlier.context.encryptionKey

/-- No two states find different keys under one version. -/
def OneKeyPerVersion (states : List (KeyRotations Key)) : Prop :=
  ∀ first ∈ states, ∀ second ∈ states, ∀ version key other,
    KeyFound first.context version key → KeyFound second.context version other → key = other

/-- A call that puts its new key in place finds the current version archived. -/
def ArchivedBefore (state : KeyRotations Key) : RotationEvent Key → Prop
  | .resume index _ _ => state.calls[index]? = some .newKey →
      state.context.keyVersion ∈ state.context.historicalKeys.keys
  | _ => True

/-- The archive holds versions up to the current one, and the current one with the current key. -/
def Archived (context : GroupEncryptionContext Key) : Prop :=
  ∀ version old, context.historicalKeys.get version = some old →
    version ≤ context.keyVersion ∧ (version = context.keyVersion → old.encryptionKey = context.encryptionKey)

section Context

variable {context : GroupEncryptionContext Key}

theorem keyFound_current (context : GroupEncryptionContext Key) :
    KeyFound context context.keyVersion context.encryptionKey := Or.inl ⟨rfl, rfl⟩

/-- No version is ahead of the current one. -/
theorem Archived.le (archived : Archived context) (version : Nat) (key : Key)
    (found : KeyFound context version key) : version ≤ context.keyVersion := by
  rcases found with ⟨same, -⟩ | ⟨old, stored, -⟩
  · exact Nat.le_of_eq same.symm
  · exact (archived version old stored).1

/-- A version has one key. -/
theorem Archived.unique (archived : Archived context) (version : Nat) (key other : Key)
    (found : KeyFound context version key) (again : KeyFound context version other) : key = other := by
  have current : ∀ key, KeyFound context version key → context.keyVersion = version → context.encryptionKey = key := by
    rintro key (⟨-, same⟩ | ⟨old, stored, rfl⟩) now
    · exact same
    · exact ((archived version old stored).2 now.symm).symm
  by_cases now : context.keyVersion = version
  · exact (current key found now).symm.trans (current other again now)
  · obtain ⟨old, stored, rfl⟩ := found.resolve_left fun here => now here.1
    obtain ⟨same, there, rfl⟩ := again.resolve_left fun here => now here.1
    rw [Option.some.inj (stored.symm.trans there)]

/-- The archive of the current key changes nothing that is found. -/
theorem keyFound_archiveKey (archived : Archived context) (now version : Nat) (key : Key) :
    KeyFound (context.archiveKey now) version key ↔ KeyFound context version key := by
  unfold KeyFound GroupEncryptionContext.archiveKey
  dsimp only
  rw [OrderedMap.get_set]
  by_cases same : version = context.keyVersion
  · subst same
    rw [if_pos rfl]
    constructor
    · rintro (here | ⟨old, stored, rfl⟩)
      · exact Or.inl here
      · rw [← Option.some.inj stored]
        exact Or.inl ⟨rfl, rfl⟩
    · rintro (here | ⟨old, stored, rfl⟩)
      · exact Or.inl here
      · exact Or.inl ⟨rfl, ((archived _ old stored).2 rfl).symm⟩
  · rw [if_neg same]

theorem Archived.archiveKey (archived : Archived context) (now : Nat) : Archived (context.archiveKey now) := by
  intro version old stored
  unfold GroupEncryptionContext.archiveKey at stored
  dsimp only at stored
  rw [OrderedMap.get_set] at stored
  split at stored
  · rename_i same
    rw [← Option.some.inj stored]
    exact ⟨Nat.le_of_eq same, fun _ => rfl⟩
  · exact archived version old stored

theorem Archived.replaceKey (archived : Archived context) (key : Key) (now : Nat) :
    Archived (context.replaceKey key now) := by
  intro version old stored
  have before := (archived version old stored).1
  exact ⟨Nat.le_succ_of_le before, fun ahead => absurd ahead (Nat.ne_of_lt (Nat.lt_succ_of_le before))⟩

/-- Behind a new key only the archive is left of the older versions. -/
theorem keyFound_replaceKey (archived : Archived context) (key : Key) (now version : Nat) (old : Key)
    (past : version ≤ context.keyVersion) :
    KeyFound (context.replaceKey key now) version old ↔
      KeyFound context version old ∧ (version = context.keyVersion → version ∈ context.historicalKeys.keys) := by
  have behind : ¬ (context.replaceKey key now).keyVersion = version := Nat.ne_of_gt (Nat.lt_succ_of_le past)
  unfold KeyFound
  rw [or_iff_right fun here => behind here.1]
  constructor
  · rintro ⟨entry, stored, same⟩
    exact ⟨Or.inr ⟨entry, stored, same⟩, fun _ => OrderedMap.mem_keys_iff.mpr ⟨entry, stored⟩⟩
  · rintro ⟨⟨rfl, rfl⟩ | found, kept⟩
    · obtain ⟨entry, stored⟩ := OrderedMap.mem_keys_iff.mp (kept rfl)
      exact ⟨entry, stored, (archived _ entry stored).2 rfl⟩
    · exact found

end Context

section Steps

variable (permitted : Bool) (member : Nat → Option KeyedMember) {state : KeyRotations Key}

/-- A step puts a new key in place, or it changes nothing that is found. -/
theorem step_context (archived : Archived state.context) (event : RotationEvent Key) :
    (∃ index key now, event = .resume index key now ∧ state.calls[index]? = some .newKey ∧
        ((rotationMachine permitted member).step state event).1.context = state.context.replaceKey key now) ∨
      ArchivedBefore state event ∧ Archived ((rotationMachine permitted member).step state event).1.context ∧
        ((rotationMachine permitted member).step state event).1.context.keyVersion = state.context.keyVersion ∧
        ∀ version key, KeyFound ((rotationMachine permitted member).step state event).1.context version key ↔
          KeyFound state.context version key := by
  cases event with
  | call => exact Or.inr ⟨trivial, archived, rfl, fun _ _ => Iff.rfl⟩
  | read => exact Or.inr ⟨trivial, archived, rfl, fun _ _ => Iff.rfl⟩
  | resume index key now =>
      simp only [rotationMachine, KeyRotations.step, ArchivedBefore]
      cases waits : state.calls[index]? with
      | none => exact Or.inr ⟨nofun, archived, rfl, fun _ _ => Iff.rfl⟩
      | some stage =>
          cases stage with
          | newKey => exact Or.inl ⟨index, key, now, rfl, waits, rfl⟩
          | permission =>
              cases permitted with
              | true =>
                  exact Or.inr ⟨nofun, archived.archiveKey now, rfl, keyFound_archiveKey archived now⟩
              | false => exact Or.inr ⟨nofun, archived, rfl, fun _ _ => Iff.rfl⟩
          | member userId rest =>
              simp only [KeyRotations.resume]
              split <;> exact Or.inr ⟨nofun, archived, rfl, fun _ _ => Iff.rfl⟩
          | encryptedKey userId rest =>
              obtain ⟨version, -, current, history, -⟩ := reencryptMemberKey_fields state.context member now userId
              refine Or.inr ⟨nofun, ?_, version, fun older old => ?_⟩
              · intro older old stored
                have before := archived older old (history ▸ stored)
                exact ⟨before.1.trans (Nat.le_of_eq version.symm),
                  fun now => (before.2 (now.trans version)).trans current.symm⟩
              · unfold KeyFound
                dsimp only [KeyRotations.resume]
                rw [version, current, history]
          | save => exact Or.inr ⟨nofun, archived, rfl, fun _ _ => Iff.rfl⟩
          | returned => exact Or.inr ⟨nofun, archived, rfl, fun _ _ => Iff.rfl⟩
          | refused => exact Or.inr ⟨nofun, archived, rfl, fun _ _ => Iff.rfl⟩

theorem Archived.step (archived : Archived state.context) (event : RotationEvent Key) :
    Archived ((rotationMachine permitted member).step state event).1.context := by
  rcases step_context permitted member archived event with ⟨index, key, now, rfl, -, replaced⟩ | ⟨-, kept, -⟩
  · rw [replaced]
    exact archived.replaceKey key now
  · exact kept

/-- A step that finds the current version archived loses nothing. -/
theorem step_keeps (archived : Archived state.context) (event : RotationEvent Key)
    (before : ArchivedBefore state event) (version : Nat) (key : Key) (found : KeyFound state.context version key) :
    KeyFound ((rotationMachine permitted member).step state event).1.context version key := by
  rcases step_context permitted member archived event with ⟨index, new, now, rfl, waits, replaced⟩ | ⟨-, -, -, same⟩
  · rw [replaced, keyFound_replaceKey archived new now version key (archived.le version key found)]
    exact ⟨found, fun current => current ▸ before waits⟩
  · exact (same version key).mpr found

/-- A step after which the current key is still found has found its version archived. -/
theorem archivedBefore_of_kept (archived : Archived state.context) (event : RotationEvent Key)
    (kept : KeyFound ((rotationMachine permitted member).step state event).1.context state.context.keyVersion
      state.context.encryptionKey) : ArchivedBefore state event := by
  rcases step_context permitted member archived event with ⟨index, new, now, rfl, waits, replaced⟩ | ⟨before, -⟩
  · rw [replaced, keyFound_replaceKey archived new now _ _ (Nat.le_refl _)] at kept
    exact fun _ => kept.2 rfl
  · exact before

/-- A step adds keys for later versions only. -/
theorem step_adds_later (archived : Archived state.context) (event : RotationEvent Key) :
    state.context.keyVersion ≤ ((rotationMachine permitted member).step state event).1.context.keyVersion ∧
      ∀ version key, version ≤ state.context.keyVersion →
        KeyFound ((rotationMachine permitted member).step state event).1.context version key →
          KeyFound state.context version key := by
  rcases step_context permitted member archived event with ⟨index, new, now, rfl, -, replaced⟩ | ⟨-, -, same, found⟩
  · rw [replaced]
    exact ⟨Nat.le_succ _, fun version key past found =>
      ((keyFound_replaceKey archived new now version key past).mp found).1⟩
  · exact ⟨Nat.le_of_eq same.symm, fun version key _ => (found version key).mp⟩

end Steps

section Runs

variable (permitted : Bool) (member : Nat → Option KeyedMember) (state : KeyRotations Key)
  (events : List (RotationEvent Key)) (archived : Archived state.context)

include archived

/-- In every run each version has one key. -/
theorem rotations_oneKeyPerVersion :
    OneKeyPerVersion ((rotationMachine permitted member).states state events) := by
  have valid := (rotationMachine permitted member).states_always (fun state => Archived state.context)
    (fun _ event archived => archived.step permitted member event) state events archived
  have pairs := ((rotationMachine permitted member).states_pairwise_iff_along (fun _ _ => True)
    (fun state => Archived state.context)
    (fun earlier later => earlier.context.keyVersion ≤ later.context.keyVersion ∧
      ∀ version key, version ≤ earlier.context.keyVersion →
        KeyFound later.context version key → KeyFound earlier.context version key)
    (fun earlier later => ∀ version key, version ≤ earlier.context.keyVersion →
      KeyFound later.context version key → KeyFound earlier.context version key)
    (fun first second third before after => ⟨before.1.trans after.1, fun version key past found =>
      before.2 version key past (after.2 version key (past.trans before.1) found)⟩)
    (fun _ => ⟨Nat.le_refl _, fun _ _ _ found => found⟩) (fun _ _ both => both.2)
    (fun _ event archived _ => archived.step permitted member event)
    (fun _ event archived _ => step_adds_later permitted member archived event)
    (fun _ _ _ _ => trivial) state events archived).mpr
    ((rotationMachine permitted member).along_of_forall _ (fun _ _ => trivial) state events)
  have ordered : ((rotationMachine permitted member).states state events).Pairwise fun first second =>
      ∀ version key other, KeyFound first.context version key → KeyFound second.context version other →
        key = other := by
    refine pairs.imp_of_mem fun {first second} member_first _ later version key other found again => ?_
    have past := (valid first member_first).le version key found
    exact (valid first member_first).unique version key other found (later version other past again)
  have alone : ∀ visited ∈ (rotationMachine permitted member).states state events, ∀ version key other,
      KeyFound visited.context version key → KeyFound visited.context version other → key = other :=
    fun visited within version key other found again => (valid visited within).unique version key other found again
  have reversed := ordered.imp fun {first second} apart version key other
    (found : KeyFound second.context version key) (again : KeyFound first.context version other) =>
      (apart version other key again found).symm
  intro first visited second later
  exact List.Pairwise.forall_of_forall_of_flip alone ordered reversed visited later

/-- No key is lost along a run exactly as long as every new key finds the current version archived. -/
theorem rotations_noKeyLost_iff :
    NoKeyLost ((rotationMachine permitted member).states state events) ↔
      (rotationMachine permitted member).Along ArchivedBefore state events :=
  (rotationMachine permitted member).states_pairwise_iff_along ArchivedBefore (fun state => Archived state.context)
    (fun earlier later => ∀ version key, KeyFound earlier.context version key → KeyFound later.context version key)
    (fun earlier later => KeyFound later.context earlier.context.keyVersion earlier.context.encryptionKey)
    (fun _ _ _ before after version key found => after version key (before version key found))
    (fun _ _ _ found => found) (fun earlier _ keeps => keeps _ _ (keyFound_current earlier.context))
    (fun _ event archived _ => archived.step permitted member event)
    (fun _ event archived before => step_keeps permitted member archived event before)
    (fun _ event archived kept => archivedBefore_of_kept permitted member archived event kept) state events archived

end Runs

/-- Rotations of a group that was just initialised lose no key, and give no version two keys,
exactly as long as every new key finds the current version archived. -/
theorem rotations_keep_iff (permitted : Bool) (member : Nat → Option KeyedMember)
    (events : List (RotationEvent Key)) (groupId : Nat) (members : List KeyedMember) (key : Key) (now : Nat) :
    NoKeyLost ((rotationMachine permitted member).states
        (.start (.createEncryptionContext groupId members key now)) events) ∧
      OneKeyPerVersion ((rotationMachine permitted member).states
        (.start (.createEncryptionContext groupId members key now)) events) ↔
      (rotationMachine permitted member).Along ArchivedBefore
        (.start (.createEncryptionContext groupId members key now)) events := by
  have fresh : Archived (KeyRotations.start (.createEncryptionContext groupId members key now)).context :=
    fun _ _ stored => (nomatch stored)
  rw [rotations_noKeyLost_iff permitted member _ events fresh]
  exact and_iff_left (rotations_oneKeyPerVersion permitted member _ events fresh)

/-- Two calls archive version 1 before either of them puts its key in place. -/
def crossedRotations : List (RotationEvent Nat) :=
  [.call, .call, .resume 0 0 5, .resume 1 0 5, .resume 0 11 6, .resume 1 12 7]

/-- The key of version 2 is neither the current one nor archived. -/
theorem rotations_crossed_fails :
    ¬ NoKeyLost ((rotationMachine true (fun _ => none)).states
      (.start (.createEncryptionContext 1 [] 10 0)) crossedRotations) := by
  intro kept
  have lost := (List.pairwise_iff_getElem.mp kept) 5 6 (by decide) (by decide) (by decide)
  rcases lost with ⟨same, -⟩ | ⟨old, stored, -⟩
  · exact absurd same (by decide)
  · exact absurd stored (by rw [OrderedMap.get_eq_none_iff.mpr (by decide)]; exact nofun)

section Alone

variable (member : Nat → Option KeyedMember) (key : Key) (now : Nat)

/-- The only call, resumed as often as it takes, finishes the loop over the entries. -/
theorem loop_alone (users : List Nat) (context : GroupEncryptionContext Key) (groupVersion : Option Nat)
    (rounds : Nat) (enough : 2 * users.length + 1 ≤ rounds) :
    ((rotationMachine true member).run ⟨context, groupVersion, [nextMember users]⟩
        (List.replicate rounds (.resume 0 key now))).1 =
      ⟨users.foldl (fun context userId => context.reencryptMemberKey userId (member userId) now) context,
        groupVersion.map fun _ => context.keyVersion, [.returned]⟩ := by
  induction users generalizing context rounds with
  | nil =>
      obtain ⟨rest, rfl⟩ : ∃ rest, rounds = rest + 1 := ⟨rounds - 1, by simp at enough; omega⟩
      rw [List.replicate_succ, Machine.run_cons]
      have idle : ∀ rest state, state.calls = [.returned] →
          ((rotationMachine true member).run state (List.replicate rest (.resume 0 key now))).1 = state := by
        intro rest
        induction rest with
        | zero => exact fun _ _ => rfl
        | succ rest ih =>
            rintro ⟨context, version, calls⟩ rfl
            rw [List.replicate_succ, Machine.run_cons]
            exact ih _ rfl
      exact idle rest _ rfl
  | cons userId users ih =>
      obtain ⟨rest, rfl⟩ : ∃ rest, rounds = rest + 1 + 1 := ⟨rounds - 2, by simp at enough; omega⟩
      rw [List.replicate_succ, Machine.run_cons]
      rw [List.length_cons] at enough
      by_cases present : ∃ found ∈ member userId, found.publicKey ≠ ""
      · have looked : ((rotationMachine true member).step ⟨context, groupVersion, [nextMember (userId :: users)]⟩
            (.resume 0 key now)).1 = ⟨context, groupVersion, [.encryptedKey userId users]⟩ := by
          have resumed : KeyRotations.resume true member context key now (.member userId users) =
              (context, .encryptedKey userId users) := if_pos present
          simp [rotationMachine, KeyRotations.step, nextMember, resumed]
        rw [looked, List.replicate_succ, Machine.run_cons]
        have version := (reencryptMemberKey_fields context member now userId).1
        have later := ih (context.reencryptMemberKey userId (member userId) now) rest (by omega)
        rw [version] at later
        exact later
      · have looked : ((rotationMachine true member).step ⟨context, groupVersion, [nextMember (userId :: users)]⟩
            (.resume 0 key now)).1 = ⟨context, groupVersion, [nextMember users]⟩ := by
          have resumed : KeyRotations.resume true member context key now (.member userId users) =
              (context, nextMember users) := if_neg present
          simp [rotationMachine, KeyRotations.step, resumed, nextMember]
        have unchanged : context.reencryptMemberKey userId (member userId) now = context := if_neg present
        rw [looked, ih context (rest + 1) (by omega), List.foldl_cons, unchanged]

/-- A call that no other call meets does what the rotation does without awaits. -/
theorem rotation_alone (manager : GroupKeyManager Key) (context : GroupEncryptionContext Key) (rounds : Nat)
    (enough : 2 * context.memberKeys.keys.length + 3 ≤ rounds) :
    ((rotationMachine true (manager.getGroupMember context.groupId)).run (.start context)
        (.call :: List.replicate rounds (.resume 0 key now))).1.context = rotated manager context key now := by
  obtain ⟨rest, rfl⟩ : ∃ rest, rounds = rest + 1 + 1 := ⟨rounds - 2, by omega⟩
  rw [Machine.run_cons, List.replicate_succ, Machine.run_cons, List.replicate_succ, Machine.run_cons]
  have looped := loop_alone (manager.getGroupMember context.groupId) key now context.memberKeys.keys
    ((context.archiveKey now).replaceKey key now) (some context.keyVersion) rest (by omega)
  exact congrArg KeyRotations.context looped

end Alone

end SecureChat.Web
