import SecureChat.Construction.Web.OfflineSync
import Mathlib.Data.List.Nodup

namespace SecureChat.Web
open Library

/-- The message is still to be sent. -/
def OfflineRecord.Waiting (message : OfflineRecord) : Prop :=
  message.status = .sending ∨ message.status = .pendingRetry

instance (message : OfflineRecord) : Decidable message.Waiting := inferInstanceAs (Decidable (_ ∨ _))

namespace OfflineSyncManager

section Updates

variable {store next : MessageStore} {message : OfflineRecord} {id : Nat} {status : MessageStatus}
  {updates : Updates}

/-- A changed status is stored under the key of the record, and all other records stay as they were. -/
theorem updateMessageStatus_stored (found : store.get id = some message) (status : MessageStatus)
    (updates : Updates) :
    ∃ next, updateMessageStatus store id status updates = some next ∧
      ∀ key, next.get key = if key = id then some (withStatus status updates message) else store.get key := by
  have same : (withStatus status updates message).id = id := store.get_key id message found
  have again : store.get (withStatus status updates message).id = some message := same.symm ▸ found
  obtain ⟨next, stored⟩ := ObjectStore.put_again again rfl
  refine ⟨next, ?_, fun key => ?_⟩
  · rw [updateMessageStatus, getMessage, found]
    exact stored
  · rw [ObjectStore.get_put stored, same]

end Updates

section Passes

variable (reply : OfflineRecord → Reply) (now : Nat)

/-- A round tries a message that was not tried three times yet, and gives up any other one. -/
theorem round_spec (pass : Pass) (message : OfflineRecord) (running : pass.running = true)
    (found : pass.store.get message.id = some message) :
    (pass.round reply now message).running = true ∧
    (pass.round reply now message).attempted =
      pass.attempted ++ (if message.sendAttempts < 3 then [message.id] else []) ∧
    ∃ status updates, (status = .failed ↔ 3 ≤ message.sendAttempts) ∧
      ∀ key, (pass.round reply now message).store.get key =
        if key = message.id then some (withStatus status updates message) else pass.store.get key := by
  by_cases many : message.sendAttempts ≥ 3
  · obtain ⟨next, stored, kept⟩ := updateMessageStatus_stored found .failed noUpdates
    have ended : pass.round reply now message = { pass with store := next } := by
      rw [Pass.round, if_neg (not_not_intro running), if_pos many, stored]
      rfl
    rw [ended, if_neg (Nat.not_lt.mpr many), List.append_nil]
    exact ⟨running, rfl, .failed, noUpdates, iff_of_true rfl many, kept⟩
  · rw [Pass.round, if_neg (not_not_intro running), if_neg many, if_pos (Nat.not_le.mp many)]
    obtain ⟨sent, storedSent, keptSent⟩ :=
      updateMessageStatus_stored found .sent ⟨some (message.sendAttempts + 1), some now⟩
    obtain ⟨later, storedLater, keptLater⟩ :=
      updateMessageStatus_stored found .pendingRetry ⟨some (message.sendAttempts + 1), some now⟩
    cases answered : sendMessageToServer message (reply message) with
    | none =>
        dsimp only
        rw [storedLater]
        exact ⟨running, rfl, .pendingRetry, _, iff_of_false (nomatch ·) many, keptLater⟩
    | some answer =>
        cases answer <;> dsimp only <;> rw [storedSent] <;>
          exact ⟨running, rfl, .sent, _, iff_of_false (nomatch ·) many, keptSent⟩

/-- The rounds of a loop are exact on the messages that they are given. -/
theorem rounds_exact (messages : List OfflineRecord) (pass : Pass) (running : pass.running = true)
    (apart : (messages.map (·.id)).Nodup)
    (stored : ∀ message ∈ messages, pass.store.get message.id = some message) :
    (messages.foldl (Pass.round reply now) pass).running = true ∧
    (messages.foldl (Pass.round reply now) pass).attempted =
      pass.attempted ++ (messages.filter fun message => message.sendAttempts < 3).map (·.id) ∧
    (∀ message ∈ messages, ∃ status updates, (status = .failed ↔ 3 ≤ message.sendAttempts) ∧
      (messages.foldl (Pass.round reply now) pass).store.get message.id =
        some (withStatus status updates message)) ∧
    ∀ key, key ∉ messages.map (·.id) →
      (messages.foldl (Pass.round reply now) pass).store.get key = pass.store.get key := by
  induction messages generalizing pass with
  | nil => exact ⟨running, (List.append_nil _).symm, List.forall_mem_nil _, fun _ _ => rfl⟩
  | cons message rest ih =>
      obtain ⟨alone, others⟩ := List.nodup_cons.mp apart
      obtain ⟨goes, tried, status, updates, gaveUp, kept⟩ :=
        round_spec reply now pass message running (stored message List.mem_cons_self)
      have still : ∀ other ∈ rest, (pass.round reply now message).store.get other.id = some other := by
        intro other member
        have different : other.id ≠ message.id := fun same => alone (List.mem_map.mpr ⟨other, member, same⟩)
        rw [kept, if_neg different]
        exact stored other (List.mem_cons_of_mem _ member)
      obtain ⟨ends, attempted, changed, left⟩ := ih (pass.round reply now message) goes others still
      refine ⟨ends, ?_, ?_, ?_⟩
      · rw [List.foldl_cons, attempted, tried, List.filter_cons, List.append_assoc]
        split <;> rename_i few <;> simp only [few, decide_true, decide_false] <;> rfl
      · intro other member
        rcases List.mem_cons.mp member with rfl | later
        · refine ⟨status, updates, gaveUp, ?_⟩
          rw [List.foldl_cons, left _ alone, kept, if_pos rfl]
        · exact changed other later
      · intro key absent
        rw [List.map_cons, List.mem_cons, not_or] at absent
        rw [List.foldl_cons, left key absent.2, kept, if_neg absent.1]

theorem sendAll_exact (store : MessageStore) (messages : List OfflineRecord)
    (apart : (messages.map (·.id)).Nodup) (stored : ∀ message ∈ messages, store.get message.id = some message) :
    (sendAll store messages reply now).running = true ∧
    (sendAll store messages reply now).attempted =
      (messages.filter fun message => message.sendAttempts < 3).map (·.id) ∧
    (∀ message ∈ messages, ∃ status updates, (status = .failed ↔ 3 ≤ message.sendAttempts) ∧
      (sendAll store messages reply now).store.get message.id = some (withStatus status updates message)) ∧
    ∀ key, key ∉ messages.map (·.id) → (sendAll store messages reply now).store.get key = store.get key :=
  rounds_exact reply now messages ⟨store, [], [], true⟩ rfl apart stored

/-- No record has a status that is an array. -/
theorem getPendingMessages_eq_nil (store : MessageStore) : getPendingMessages store = [] := by
  rw [getPendingMessages, getAllByStatus, ObjectStore.getAll, List.filter_eq_nil_iff]
  exact fun message _ equal => nomatch of_decide_eq_true equal

theorem syncPendingMessages_eq (store : MessageStore) :
    syncPendingMessages store reply now = ⟨store, [], [], true⟩ := by
  rw [syncPendingMessages, getPendingMessages_eq_nil]
  rfl

/-- The query for one status at a time finds the waiting messages. -/
theorem mem_getMessagesByStatus (store : MessageStore) (message : OfflineRecord) :
    message ∈ getMessagesByStatus store [.sending, .pendingRetry] ↔ message ∈ store.records ∧ message.Waiting := by
  unfold getMessagesByStatus getAllByStatus ObjectStore.getAll OfflineRecord.Waiting
  simp only [List.flatMap_cons, List.flatMap_nil, List.append_nil, List.mem_append, List.mem_filter,
    decide_eq_true_eq, StatusKey.value.injEq]
  exact and_or_left.symm

theorem getMessagesByStatus_nodup (store : MessageStore) :
    ((getMessagesByStatus store [.sending, .pendingRetry]).map (·.id)).Nodup := by
  have records : store.records.Nodup := store.ordered.imp fun less same => less.ne (congrArg _ same)
  have listed : (getMessagesByStatus store [.sending, .pendingRetry]).Nodup := by
    simp only [getMessagesByStatus, List.flatMap_cons, List.flatMap_nil, List.append_nil]
    refine List.Nodup.append (records.filter _) (records.filter _) fun message one two => ?_
    have first := of_decide_eq_true (List.mem_filter.mp one).2
    have second := of_decide_eq_true (List.mem_filter.mp two).2
    exact nomatch first.symm.trans second
  refine List.Nodup.map_on (fun first one second two same => ?_) listed
  exact store.eq_of_key_eq ((mem_getMessagesByStatus store first).mp one).1
    ((mem_getMessagesByStatus store second).mp two).1 same

/-- With that query the loop tries the waiting messages with tries left, and touches no message
that does not wait. -/
theorem sendAll_getMessagesByStatus (store : MessageStore) (message : OfflineRecord)
    (member : message ∈ store.records) :
    (message.id ∈ (sendAll store (getMessagesByStatus store [.sending, .pendingRetry]) reply now).attempted ↔
      message.Waiting ∧ message.sendAttempts < 3) ∧
    (¬ message.Waiting →
      (sendAll store (getMessagesByStatus store [.sending, .pendingRetry]) reply now).store.get message.id =
        some message) := by
  have unique : ∀ other ∈ getMessagesByStatus store [.sending, .pendingRetry], other.id = message.id →
      other = message := fun other listed same =>
    store.eq_of_key_eq ((mem_getMessagesByStatus store other).mp listed).1 member same
  obtain ⟨-, attempted, -, left⟩ := sendAll_exact reply now store _ (getMessagesByStatus_nodup store)
    fun other listed => (store.get_eq_some_iff _ _).mpr ⟨((mem_getMessagesByStatus store other).mp listed).1, rfl⟩
  constructor
  · rw [attempted, List.mem_map]
    constructor
    · rintro ⟨other, listed, same⟩
      obtain ⟨inside, few⟩ := List.mem_filter.mp listed
      obtain rfl := unique other inside same
      exact ⟨((mem_getMessagesByStatus store other).mp inside).2, of_decide_eq_true few⟩
    · rintro ⟨waiting, few⟩
      have inside := (mem_getMessagesByStatus store message).mpr ⟨member, waiting⟩
      exact ⟨message, List.mem_filter.mpr ⟨inside, decide_eq_true few⟩, rfl⟩
  · intro idle
    rw [left]
    · exact (store.get_eq_some_iff _ _).mpr ⟨member, rfl⟩
    · intro listed
      obtain ⟨other, inside, same⟩ := List.mem_map.mp listed
      obtain rfl := unique other inside same
      exact idle ((mem_getMessagesByStatus store other).mp inside).2

/-- A pass tries the waiting messages with tries left once each, gives up the other waiting ones,
and touches no message that does not wait. -/
structure Drains (store : MessageStore) : Prop where
  attempts : (syncPendingMessages store reply now).attempted.Perm
    ((store.records.filter fun message => message.Waiting ∧ message.sendAttempts < 3).map (·.id))
  failures : ∀ message ∈ store.records, message.status ≠ .failed →
    (((syncPendingMessages store reply now).store.get message.id).map (·.status) = some .failed ↔
      message.Waiting ∧ 3 ≤ message.sendAttempts)
  others : ∀ message ∈ store.records, ¬ message.Waiting →
    (syncPendingMessages store reply now).store.get message.id = some message

/-- The messages that several passes try, one pass after the other. -/
def attemptedBy : MessageStore → List ((OfflineRecord → Reply) × Nat) → List Nat
  | _, [] => []
  | store, (reply, now) :: rest =>
      let pass := syncPendingMessages store reply now
      pass.attempted ++ attemptedBy pass.store rest

theorem attemptedBy_eq_nil (store : MessageStore) (passes : List ((OfflineRecord → Reply) × Nat)) :
    attemptedBy store passes = [] := by
  induction passes with
  | nil => rfl
  | cons first rest ih =>
      rw [attemptedBy, syncPendingMessages_eq, List.nil_append]
      exact ih

/-- A waiting message is neither tried nor given up. -/
theorem drains_iff (store : MessageStore) :
    Drains reply now store ↔ ∀ message ∈ store.records, ¬ message.Waiting := by
  constructor
  · rintro ⟨attempts, failures, -⟩ message member waiting
    rw [syncPendingMessages_eq] at attempts failures
    by_cases few : message.sendAttempts < 3
    · have tried : message.id ∈ ([] : List Nat) :=
        attempts.mem_iff.mpr (List.mem_map_of_mem (List.mem_filter.mpr ⟨member, decide_eq_true ⟨waiting, few⟩⟩))
      exact nomatch tried
    · have active : message.status ≠ .failed := by
        rintro failed
        rcases waiting with sending | retry
        · exact nomatch failed.symm.trans sending
        · exact nomatch failed.symm.trans retry
      have given := (failures message member active).mpr ⟨waiting, Nat.not_lt.mp few⟩
      rw [(store.get_eq_some_iff _ _).mpr ⟨member, rfl⟩] at given
      exact active (Option.some.inj given)
  · intro none
    have stays : ∀ message ∈ store.records, store.get message.id = some message :=
      fun message member => (store.get_eq_some_iff _ _).mpr ⟨member, rfl⟩
    have empty : (store.records.filter fun message => message.Waiting ∧ message.sendAttempts < 3) = [] :=
      List.filter_eq_nil_iff.mpr fun message member both => none message member (of_decide_eq_true both).1
    constructor
    · rw [syncPendingMessages_eq, empty]
      exact .refl _
    · intro message member active
      rw [syncPendingMessages_eq, stays message member]
      exact iff_of_false (fun failed => active (Option.some.inj failed)) fun both => none message member both.1
    · intro message member _
      rw [syncPendingMessages_eq, stays message member]

end Passes

/-- A pass drains the outbox exactly when there is nothing in it,
and no number of passes tries a message more than three times. -/
theorem syncPendingMessages_drains_iff (store : MessageStore) :
    (∀ (reply : OfflineRecord → Reply) (now : Nat),
      Drains reply now store ↔ ∀ message ∈ store.records, ¬ message.Waiting) ∧
    ∀ (passes : List ((OfflineRecord → Reply) × Nat)) (id : Nat), (attemptedBy store passes).count id ≤ 3 := by
  refine ⟨fun reply now => drains_iff reply now store, fun passes id => ?_⟩
  rw [attemptedBy_eq_nil, List.count_nil]
  exact Nat.zero_le 3

/-- A new text for the user with the number 4. -/
def newText : Draft := ⟨none, 0, .user 4, 1, 4, none, msgChatTextSend, .text "a", false, 1700000000000⟩

/-- The store with the new text in it. -/
def storeWithText : MessageStore where
  records := [draftRecord newText 3 1700000000000]
  ordered := List.pairwise_singleton _ _
  distinct := by decide

/-- A new text is not tried, although the server would take it. -/
theorem syncPendingMessages_leaves_text : ¬ Drains (fun _ => .response 9) 1700000060000 storeWithText := by
  intro drains
  have attempts := drains.attempts.length_eq
  exact absurd attempts (by decide)

end OfflineSyncManager

end SecureChat.Web
