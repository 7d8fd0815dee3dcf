import SecureChat.Proof.Web.OfflineOutbox

namespace SecureChat.Web
open Library OfflineSyncManager

/-- What an acknowledgement says of a record. -/
def acknowledged (data : List UInt8) (message : OfflineRecord) : OfflineRecord :=
  match parseMessageAck data with
  | none => message
  | some (messageId, statusCode) =>
      match statusOfCode statusCode with
      | none => message
      | some status => if message.messageId = messageId then withStatus status noUpdates message else message

/-- What a receipt says of a record. -/
def receipted (data : List UInt8) (message : OfflineRecord) : OfflineRecord :=
  match parseReadReceipt data with
  | none => message
  | some (messageId, readerId, timestamp) =>
      if message.messageId = messageId then withReader readerId timestamp message else message

/-- A number of the server stands for one record. Zero is the number of a message that has none yet. -/
def Unique (store : MessageStore) : Prop :=
  ∀ first ∈ store.records, ∀ second ∈ store.records, first.messageId = second.messageId →
    first.messageId ≠ 0 → first.id = second.id

/-- What the event says of each record. -/
def target : OfflineEvent → Option (OfflineRecord → OfflineRecord)
  | .acknowledged data => some (acknowledged data)
  | .receipt data => some (receipted data)
  | _ => none

/-- After the event a number stands for one record, what the server has taken carries its number,
and an acknowledgement or a receipt has changed the record of its message and no other. -/
structure Identified (deviceId : Nat) (store : MessageStore) (event : OfflineEvent) : Prop where
  unique : Unique (offlineStep deviceId store event).1
  carried : ∀ entry ∈ (offlineStep deviceId store event).2, ∃ message,
    (offlineStep deviceId store event).1.get entry.1 = some message ∧ message.messageId = entry.2
  exact : ∀ change ∈ target event, ∀ key,
    (offlineStep deviceId store event).1.get key = (store.get key).map change

/-- No record carries the number. -/
def Fresh (store : MessageStore) (messageId : Nat) : Prop :=
  messageId ≠ 0 → ∀ message ∈ store.records, message.messageId ≠ messageId

/-- A new record has a number of its own, if it is stored at all,
and an acknowledgement or a receipt says nothing new. -/
def Distinct (store : MessageStore) : OfflineEvent → Prop
  | .storeMessage draft id now =>
      store.get id = none → store.Free (draftRecord draft id now) → Fresh store draft.messageId
  | .pushed data id _ =>
      store.get id = none → ∀ messageData ∈ parseIncomingMessage data, Fresh store messageData.messageId
  | .pulled messageData id _ => store.get id = none → Fresh store messageData.messageId
  | .acknowledged data => ∀ message ∈ store.records, acknowledged data message = message
  | .receipt data => ∀ message ∈ store.records, receipted data message = message
  | .sync _ _ _ => True

/-- The index over the numbers of the server does not exist, so that nothing is found by them. -/
theorem getMessageByServerId_eq_none (store : MessageStore) (messageId : Nat) :
    getMessageByServerId store messageId = none := rfl

theorem handleMessageAck_eq (store : MessageStore) (data : List UInt8) : handleMessageAck store data = store := by
  unfold handleMessageAck
  cases parseMessageAck data with
  | none => rfl
  | some parsed =>
      dsimp only
      rw [updateMessageStatusByServerId, getMessageByServerId_eq_none]
      rfl

theorem handleReadReceipt_eq (store : MessageStore) (data : List UInt8) :
    handleReadReceipt store data = store := by
  unfold handleReadReceipt
  cases parseReadReceipt data with
  | none => rfl
  | some parsed =>
      dsimp only
      rw [markMessageAsRead, getMessageByServerId_eq_none]
      rfl

/-- The key of a record and its number of the server. -/
def OfflineRecord.numbers (message : OfflineRecord) : Nat × Nat := (message.id, message.messageId)

section Storing

variable {store next : MessageStore}

/-- Records that keep their numbers keep them apart. -/
theorem unique_of_same (same : next.records.map OfflineRecord.numbers = store.records.map OfflineRecord.numbers)
    (unique : Unique store) : Unique next := by
  have back : ∀ message ∈ next.records, ∃ old ∈ store.records, old.id = message.id ∧
      old.messageId = message.messageId := by
    intro message member
    have listed := List.mem_map_of_mem (f := OfflineRecord.numbers) member
    rw [same] at listed
    obtain ⟨old, inside, equal⟩ := List.mem_map.mp listed
    exact ⟨old, inside, congrArg Prod.fst equal, congrArg Prod.snd equal⟩
  intro first one second two equal numbered
  obtain ⟨early, inside, key, number⟩ := back first one
  obtain ⟨late, within, other, second'⟩ := back second two
  rw [← key, ← other]
  exact unique early inside late within (number.trans (equal.trans second'.symm))
    fun zero => numbered (number.symm.trans zero)

theorem updateMessageStatus_same (id : Nat) (status : MessageStatus) (updates : Updates)
    (updated : updateMessageStatus store id status updates = some next) :
    next.records.map OfflineRecord.numbers = store.records.map OfflineRecord.numbers := by
  rw [updateMessageStatus, getMessage] at updated
  cases found : store.get id with
  | none =>
      rw [found] at updated
      rw [Option.some.inj updated]
  | some message =>
      rw [found] at updated
      have key : (withStatus status updates message).id = id := store.get_key id message found
      have again : store.get (withStatus status updates message).id = some message := by rw [key, found]
      exact ObjectStore.put_map _ updated again rfl

/-- A new record keeps the numbers apart exactly when its number is new. -/
theorem unique_put_iff {record : OfflineRecord} (unique : Unique store) (free : store.get record.id = none)
    (stored : store.put record = some next) : Unique next ↔ Fresh store record.messageId := by
  have away : ∀ message ∈ store.records, message.id ≠ record.id := by
    intro message member same
    have found := (store.get_eq_some_iff record.id message).mpr ⟨member, same⟩
    exact nomatch free.symm.trans found
  have members := ObjectStore.mem_put stored
  constructor
  · intro kept numbered message member same
    have key := kept record ((members record).mpr (.inl rfl)) message
      ((members message).mpr (.inr ⟨member, away message member⟩)) same.symm numbered
    exact away message member key.symm
  · intro fresh first one second two equal numbered
    rcases (members first).mp one with rfl | ⟨inside, -⟩ <;>
      rcases (members second).mp two with rfl | ⟨within, -⟩
    · rfl
    · exact absurd equal.symm (fresh numbered second within)
    · exact absurd equal (fresh (fun zero => numbered (equal.trans zero)) first inside)
    · exact unique first inside second within equal numbered

end Storing

/-- The answer to a query about a status changes no number. -/
theorem query_same (answer : OfflineRecord → Option Nat) (pass : Pass) (message : OfflineRecord) :
    (pass.query answer message).store.records.map OfflineRecord.numbers =
      pass.store.records.map OfflineRecord.numbers ∧
    (pass.query answer message).accepted = pass.accepted := by
  unfold Pass.query
  split
  · exact ⟨rfl, rfl⟩
  · cases (answer message).bind statusOfCode with
    | none => exact ⟨rfl, rfl⟩
    | some status =>
        dsimp only
        cases updated : updateMessageStatus pass.store message.id status noUpdates with
        | none => exact ⟨rfl, rfl⟩
        | some next => exact ⟨updateMessageStatus_same _ _ _ updated, rfl⟩

theorem queries_same (answer : OfflineRecord → Option Nat) (messages : List OfflineRecord) (pass : Pass) :
    (messages.foldl (Pass.query answer) pass).store.records.map OfflineRecord.numbers =
      pass.store.records.map OfflineRecord.numbers ∧
    (messages.foldl (Pass.query answer) pass).accepted = pass.accepted := by
  induction messages generalizing pass with
  | nil => exact ⟨rfl, rfl⟩
  | cons message rest ih =>
      obtain ⟨first, before⟩ := query_same answer pass message
      obtain ⟨later, after⟩ := ih (pass.query answer message)
      exact ⟨later.trans first, after.trans before⟩

/-- A pass over the outbox and over the statuses changes no number, and the server takes nothing. -/
theorem autoSync_same (store : MessageStore) (reply : OfflineRecord → Reply)
    (answer : OfflineRecord → Option Nat) (now : Nat) :
    (autoSync store reply answer now).store.records.map OfflineRecord.numbers =
      store.records.map OfflineRecord.numbers ∧
    (autoSync store reply answer now).accepted = [] := by
  rw [autoSync, syncPendingMessages_eq, syncMessageStatus]
  exact queries_same answer _ _

section Steps

variable (deviceId : Nat) (store : MessageStore)

/-- An event that stores one record, unless its key is taken, identifies exactly fresh records. -/
theorem stored_iff (record : OfflineRecord) (event : OfflineEvent) (silent : target event = none)
    (step : offlineStep deviceId store event =
      if (store.get record.id).isSome then (store, []) else ((store.put record).getD store, []))
    (unique : Unique store) :
    Identified deviceId store event ↔
      (store.get record.id = none → store.Free record → Fresh store record.messageId) := by
  have told : (offlineStep deviceId store event).2 = [] := by
    rw [step]
    split <;> rfl
  have plain : Identified deviceId store event ↔ Unique (offlineStep deviceId store event).1 := by
    refine ⟨Identified.unique, fun kept => ⟨kept, ?_, ?_⟩⟩
    · rw [told]
      exact List.forall_mem_nil _
    · rw [silent]
      exact fun _ member => nomatch member
  rw [plain, step]
  cases found : store.get record.id with
  | some old => exact iff_of_true unique fun absent => nomatch absent
  | none =>
      rw [Option.isSome_none, if_neg Bool.false_ne_true]
      by_cases free : store.Free record
      · cases stored : store.put record with
        | none => exact absurd ((dif_pos free).symm.trans stored) (Option.some_ne_none _)
        | some next =>
            rw [Option.getD_some, unique_put_iff unique found stored]
            exact ⟨fun fresh _ _ => fresh, fun fresh => fresh rfl free⟩
      · have refused : store.put record = none := dif_neg free
        rw [refused, Option.getD_none]
        exact iff_of_true unique fun _ possible => absurd possible free

/-- An event that leaves the store alone is exact when it says nothing new of any record. -/
theorem ignored_iff (change : OfflineRecord → OfflineRecord) (event : OfflineEvent)
    (said : target event = some change) (step : offlineStep deviceId store event = (store, []))
    (unique : Unique store) :
    Identified deviceId store event ↔ ∀ message ∈ store.records, change message = message := by
  constructor
  · intro identified message member
    have exact := identified.exact change said message.id
    rw [step, (store.get_eq_some_iff _ _).mpr ⟨member, rfl⟩] at exact
    exact (Option.some.inj exact).symm
  · intro nothing
    refine ⟨?_, ?_, ?_⟩
    · rwa [step]
    · rw [step]
      exact List.forall_mem_nil _
    · intro other member key
      obtain rfl := Option.some.inj (said.symm.trans member)
      rw [step]
      cases found : store.get key with
      | none => rfl
      | some message =>
          have inside := ((store.get_eq_some_iff key message).mp found).1
          exact congrArg some (nothing message inside).symm

theorem event_iff (event : OfflineEvent) (unique : Unique store) :
    Identified deviceId store event ↔ Distinct store event := by
  cases event with
  | storeMessage draft id now =>
      exact stored_iff deviceId store (draftRecord draft id now) _ rfl rfl unique
  | sync reply answer now =>
      obtain ⟨same, taken⟩ := autoSync_same store reply answer now
      refine iff_of_true ⟨unique_of_same same unique, ?_, fun _ member => nomatch member⟩ trivial
      intro entry member
      have none : entry ∈ ([] : List (Nat × Nat)) := taken ▸ member
      exact nomatch none
  | pushed data id now =>
      cases parsed : parseIncomingMessage data with
      | none =>
          have step : offlineStep deviceId store (.pushed data id now) = (store, []) := by
            rw [offlineStep, handleIncomingMessage, parsed]
            exact ite_self _
          have told : Identified deviceId store (.pushed data id now) := by
            refine ⟨?_, ?_, fun _ member => nomatch member⟩
            · rwa [step]
            · rw [step]
              exact List.forall_mem_nil _
          refine iff_of_true told fun _ messageData member => ?_
          exact nomatch parsed.symm.trans member
      | some messageData =>
          have step : offlineStep deviceId store (.pushed data id now) =
              if (store.get id).isSome then (store, [])
              else ((store.put (incomingRecord messageData id deviceId now)).getD store, []) := by
            rw [offlineStep, handleIncomingMessage, parsed]
            rfl
          rw [stored_iff deviceId store (incomingRecord messageData id deviceId now) _ rfl step unique]
          have free : store.Free (incomingRecord messageData id deviceId now) := fun _ _ => .inr (.inl rfl)
          constructor
          · intro fresh absent other member
            obtain rfl := Option.some.inj (parsed.symm.trans member)
            exact fresh absent free
          · exact fun fresh absent _ => fresh absent messageData parsed
  | pulled messageData id now =>
      have free : store.Free (incomingRecord messageData id deviceId now) := fun _ _ => .inr (.inl rfl)
      rw [stored_iff deviceId store (incomingRecord messageData id deviceId now) _ rfl rfl unique]
      exact ⟨fun fresh absent => fresh absent free, fun fresh absent _ => fresh absent⟩
  | acknowledged data =>
      exact ignored_iff deviceId store (acknowledged data) _ rfl
        (congrArg (·, []) (handleMessageAck_eq store data)) unique
  | receipt data =>
      exact ignored_iff deviceId store (receipted data) _ rfl
        (congrArg (·, []) (handleReadReceipt_eq store data)) unique

end Steps

/-- From an empty store the numbers of the server identify the records exactly in the runs in which each
new record has a number of its own and no acknowledgement or receipt has anything to change. -/
theorem offlineMachine_identified_iff (deviceId : Nat) (events : List OfflineEvent) :
    (offlineMachine deviceId).Along (Identified deviceId) .empty events ↔
      (offlineMachine deviceId).Along Distinct .empty events := by
  refine (offlineMachine deviceId).along_iff_along _ _ Unique (fun store event => event_iff deviceId store event)
    (fun store event unique distinct => ?_) _ _ fun _ member => nomatch member
  exact ((event_iff deviceId store event unique).mpr distinct).unique

/-- A text of the user 4 with the number 12 of the server, as it arrives. -/
def incomingText : List UInt8 :=
  uintBytes 8 12 ++ uintBytes 8 4 ++ uintBytes 8 1 ++ uintBytes 8 1700000000000 ++ uintBytes 4 0 ++
    uintBytes 8 0 ++ [0] ++ List.replicate 64 0 ++ uintBytes 4 1 ++ [0x61]

/-- A message that arrives once more gets a second record. -/
theorem offlineMachine_stores_twice :
    ¬ (offlineMachine 1).Along (Identified 1) .empty
      [.pushed incomingText 3 1700000000000, .pushed incomingText 5 1700000001000] := by
  have parsed : parseIncomingMessage incomingText =
      some ⟨12, 4, 1, none, 0, [0x61], false, 1700000000000⟩ := by decide +kernel
  intro ⟨_, second, _⟩
  have unique := second.unique
  simp only [offlineMachine, offlineStep, handleIncomingMessage, parsed] at unique
  have same := unique (incomingRecord ⟨12, 4, 1, none, 0, [0x61], false, 1700000000000⟩ 3 1 1700000000000)
    (by decide) (incomingRecord ⟨12, 4, 1, none, 0, [0x61], false, 1700000000000⟩ 5 1 1700000001000)
    (by decide) rfl (by decide)
  exact absurd same (by decide)

end SecureChat.Web
