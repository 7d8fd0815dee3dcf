import SecureChat.Construction.Web.OfflineTasks
import SecureChat.Proof.Web.ServerIds

namespace SecureChat.Web
open Library OfflineSyncManager

/-- What stays the same in all states of a record. -/
def OfflineRecord.shape (message : OfflineRecord) : Nat × Option Nat × Conversation × Nat :=
  (message.id, message.localId, message.conversationId, message.timestamp)

namespace Task

/-- The record that a task is about to write. -/
def saving : Task → Option OfflineRecord
  | .saveReceipt message => some message
  | .saveStatus message _ => some message
  | .saveMark message _ _ => some message
  | _ => none

/-- The records that a task has read and may write back. -/
def snapshots : Task → List OfflineRecord
  | .saveReceipt message => [message]
  | .saveStatus message _ => [message]
  | .findUser messages => messages
  | .saveMark message rest _ => message :: rest
  | _ => []

/-- Each record that the task may write back is still in the store, in this or another state. -/
def Known (store : MessageStore) (task : Task) : Prop :=
  ∀ message ∈ task.snapshots, ∃ old, store.get message.id = some old ∧ old.shape = message.shape

section Resuming

variable (store : MessageStore) (userId : Nat) (answer : Answer) (task : Task)

/-- A task that goes on writes at most the record that it is about to write. -/
theorem resume_store : (task.resume store userId answer).1 = store ∨
    ∃ message ∈ task.saving, store.put message = some (task.resume store userId answer).1 := by
  have saved : ∀ message, (saveMessage store message).getD store = store ∨
      store.put message = some ((saveMessage store message).getD store) := by
    intro message
    cases stored : saveMessage store message with
    | none => exact .inl rfl
    | some next => exact .inr stored
  cases task with
  | saveReceipt message => exact (saved message).imp_right fun stored => ⟨message, rfl, stored⟩
  | saveStatus message caller =>
      rw [resume]
      cases stored : saveMessage store message with
      | none => exact .inl rfl
      | some next => exact .inr ⟨message, rfl, stored⟩
  | saveMark message rest currentUserId =>
      rw [resume]
      cases stored : saveMessage store message with
      | none => exact .inl rfl
      | some next => exact .inr ⟨message, rfl, stored⟩
  | lookAck messageId statusCode => exact .inl rfl
  | lookReceipt messageId readerId timestamp => exact .inl rfl
  | readStatus id status updates caller =>
      rw [resume]
      cases getMessage store id <;> exact .inl rfl
  | sending message rest =>
      rw [resume]
      cases sendMessageToServer message answer.reply <;> exact .inl rfl
  | querying message rest =>
      rw [resume]
      cases answer.status.bind statusOfCode <;> exact .inl rfl
  | listPending => exact .inl rfl
  | listStatuses => exact .inl rfl
  | listConversation conversationId => exact .inl rfl
  | findUser messages => exact .inl rfl
  | finished => exact .inl rfl

theorem nextPending_snapshots (messages : List OfflineRecord) : (nextPending messages).snapshots = [] := by
  cases messages with
  | nil => rfl
  | cons message rest =>
      rw [nextPending]
      split <;> rfl

theorem nextStatus_snapshots (messages : List OfflineRecord) : (nextStatus messages).snapshots = [] := by
  cases messages <;> rfl

theorem afterStatus_snapshots (stored : Bool) (now : Nat) (caller : Caller) :
    (afterStatus stored now caller).snapshots = [] := by
  cases caller with
  | acknowledgement => rfl
  | failing rest => cases stored <;> first | rfl | exact nextPending_snapshots rest
  | sent message rest => cases stored <;> first | rfl | exact nextPending_snapshots rest
  | retrying rest => cases stored <;> first | rfl | exact nextPending_snapshots rest
  | queried rest => cases stored <;> first | rfl | exact nextStatus_snapshots rest

/-- The loop over a conversation stops at the first record without the user. -/
theorem nextMark_cases (currentUserId : Nat) (messages : List OfflineRecord) :
    (nextMark currentUserId messages = .finished ∧ ∀ message ∈ messages, currentUserId ∈ message.readBy) ∨
    ∃ front message rest, messages = front ++ message :: rest ∧
      (∀ earlier ∈ front, currentUserId ∈ earlier.readBy) ∧ currentUserId ∉ message.readBy ∧
      nextMark currentUserId messages =
        .saveMark { message with readBy := message.readBy ++ [currentUserId], status := .read } rest
          currentUserId := by
  induction messages with
  | nil => exact .inl ⟨rfl, List.forall_mem_nil _⟩
  | cons message rest ih =>
      by_cases marked : currentUserId ∈ message.readBy
      · have skipped : nextMark currentUserId (message :: rest) = nextMark currentUserId rest := if_pos marked
        rw [skipped]
        rcases ih with ⟨ended, all⟩ | ⟨front, other, back, rfl, before, unmarked, stopped⟩
        · exact .inl ⟨ended, List.forall_mem_cons.mpr ⟨marked, all⟩⟩
        · exact .inr ⟨message :: front, other, back, rfl, List.forall_mem_cons.mpr ⟨marked, before⟩, unmarked,
            stopped⟩
      · exact .inr ⟨[], message, rest, rfl, List.forall_mem_nil _, marked, if_neg marked⟩

theorem nextMark_snapshots (currentUserId : Nat) (messages : List OfflineRecord) :
    ∀ message ∈ (nextMark currentUserId messages).snapshots, ∃ old ∈ messages, old.shape = message.shape := by
  intro message member
  rcases nextMark_cases currentUserId messages with ⟨ended, -⟩ | ⟨front, stop, rest, rfl, -, -, stopped⟩
  · rw [ended] at member
    exact nomatch member
  · rw [stopped] at member
    rcases List.mem_cons.mp member with rfl | later
    · exact ⟨stop, List.mem_append_right _ List.mem_cons_self, rfl⟩
    · exact ⟨message, List.mem_append_right _ (List.mem_cons_of_mem _ later), rfl⟩

theorem mem_getConversationMessages (conversationId : Conversation) (limit offset : Nat) (message : OfflineRecord)
    (listed : message ∈ getConversationMessages store conversationId limit offset) : message ∈ store.records := by
  have sorted := List.mem_of_mem_drop (List.mem_of_mem_take listed)
  exact List.mem_of_mem_filter (List.mem_mergeSort.mp sorted)

/-- What a task may write back after it has gone on, it could write back before, or it was just read. -/
theorem resume_snapshots : ∀ message ∈ (task.resume store userId answer).2.snapshots,
    ∃ old, old.shape = message.shape ∧ (old ∈ task.snapshots ∨ old ∈ store.records) := by
  have none : ∀ {next : Task}, next.snapshots = [] → ∀ message ∈ next.snapshots,
      ∃ old, old.shape = message.shape ∧ (old ∈ task.snapshots ∨ old ∈ store.records) := by
    intro next empty message member
    rw [empty] at member
    exact nomatch member
  cases task with
  | lookAck messageId statusCode => exact none rfl
  | lookReceipt messageId readerId timestamp => exact none rfl
  | saveReceipt message => exact none rfl
  | readStatus id status updates caller =>
      rw [resume]
      cases found : getMessage store id with
      | none => exact none (afterStatus_snapshots true answer.now caller)
      | some message =>
          intro other member
          obtain rfl := List.mem_singleton.mp member
          exact ⟨message, rfl, .inr ((store.get_eq_some_iff id message).mp found).1⟩
  | saveStatus message caller =>
      rw [resume]
      cases saveMessage store message <;> exact none (afterStatus_snapshots _ answer.now caller)
  | listPending => exact none (nextPending_snapshots _)
  | sending message rest =>
      rw [resume]
      cases sendMessageToServer message answer.reply <;> exact none rfl
  | listStatuses => exact none (nextStatus_snapshots _)
  | querying message rest =>
      rw [resume]
      cases answer.status.bind statusOfCode with
      | none => exact none (nextStatus_snapshots rest)
      | some status => exact none rfl
  | listConversation conversationId =>
      intro message member
      exact ⟨message, rfl, .inr (mem_getConversationMessages store _ _ _ message member)⟩
  | findUser messages =>
      intro message member
      obtain ⟨old, listed, same⟩ := nextMark_snapshots userId messages message member
      exact ⟨old, same, .inl listed⟩
  | saveMark message rest currentUserId =>
      rw [resume]
      cases saveMessage store message with
      | none => exact none rfl
      | some next =>
          intro other member
          obtain ⟨old, listed, same⟩ := nextMark_snapshots currentUserId rest other member
          exact ⟨old, same, .inl (List.mem_cons_of_mem _ listed)⟩
  | finished => exact none rfl

theorem saving_mem_snapshots (message : OfflineRecord) (saves : message ∈ task.saving) :
    message ∈ task.snapshots := by
  cases task <;> cases saves <;> exact List.mem_cons_self

/-- No record is lost. -/
def Keeps (before after : MessageStore) : Prop :=
  ∀ id old, before.get id = some old → ∃ new, after.get id = some new ∧ new.shape = old.shape

variable {store userId answer task}

theorem Known.mono {next : MessageStore} (known : task.Known store) (keeps : Keeps store next) :
    task.Known next := by
  intro message member
  obtain ⟨old, found, same⟩ := known message member
  obtain ⟨new, again, still⟩ := keeps message.id old found
  exact ⟨new, again, still.trans same⟩

/-- A record that is new in the store changes no other one. -/
theorem keeps_new {next : MessageStore} {record : OfflineRecord} (absent : store.get record.id = none)
    (stored : store.put record = some next) : Keeps store next := by
  intro id old found
  have other : id ≠ record.id := fun same => nomatch (same ▸ found).symm.trans absent
  exact ⟨old, by rw [ObjectStore.get_put stored, if_neg other, found], rfl⟩

theorem Known.keeps (known : task.Known store) : Keeps store (task.resume store userId answer).1 := by
  intro id old found
  rcases resume_store store userId answer task with still | ⟨message, saves, stored⟩
  · exact ⟨old, by rw [still, found], rfl⟩
  · rw [ObjectStore.get_put stored]
    split
    · rename_i same
      obtain ⟨present, there, equal⟩ := known message (saving_mem_snapshots task message saves)
      rw [← same, found] at there
      obtain rfl := Option.some.inj there
      exact ⟨message, rfl, equal.symm⟩
    · exact ⟨old, found, rfl⟩

theorem Known.resume (known : task.Known store) :
    (task.resume store userId answer).2.Known (task.resume store userId answer).1 := by
  have before : (task.resume store userId answer).2.Known store := by
    intro message member
    obtain ⟨old, alike, snapshot | record⟩ := resume_snapshots store userId answer task message member
    · obtain ⟨present, found, same⟩ := known old snapshot
      have key : old.id = message.id := congrArg Prod.fst alike
      exact ⟨present, key ▸ found, same.trans alike⟩
    · exact ⟨old, (store.get_eq_some_iff _ _).mpr ⟨record, congrArg Prod.fst alike⟩, alike⟩
  exact before.mono known.keeps

/-- A known record is never refused. -/
theorem Known.stored (known : task.Known store) (message : OfflineRecord) (saves : message ∈ task.saving) :
    ∃ next, store.put message = some next := by
  obtain ⟨old, found, same⟩ := known message (saving_mem_snapshots task message saves)
  have localKey : old.localId = message.localId := congrArg (·.2.1) same
  exact ObjectStore.put_again found localKey.symm

end Resuming

end Task

namespace OfflineState

/-- The first `await` of an operation. -/
def First : Task → Prop
  | .listPending => True
  | .listStatuses => True
  | .lookAck _ _ => True
  | .lookReceipt _ _ _ => True
  | .listConversation _ => True
  | _ => False

section Resuming

variable {state : OfflineState}

theorem resume_none (index : Nat) (answer : Answer) (outside : state.tasks[index]? = none) :
    state.resume index answer = state := by
  rw [resume, outside]

theorem resume_some (index : Nat) (answer : Answer) (task : Task) (found : state.tasks[index]? = some task) :
    state.resume index answer = { state with
      store := (task.resume state.store state.userId answer).1
      tasks := state.tasks.set index (task.resume state.store state.userId answer).2 } := by
  rw [resume, found]

end Resuming

/-- What an event can do: nothing, begin an operation, store a new record, or let a task go on. -/
theorem step_cases (deviceId : Nat) (state : OfflineState) (event : TaskEvent) :
    state.step deviceId event = state ∨
    (∃ task, First task ∧ state.step deviceId event = state.begin task) ∨
    (∃ record next, state.store.get record.id = none ∧ state.store.put record = some next ∧
      state.step deviceId event = { state with store := next }) ∨
    ∃ index answer task, event = .resume index answer ∧ state.tasks[index]? = some task ∧
      state.step deviceId event = { state with
        store := (task.resume state.store state.userId answer).1
        tasks := state.tasks.set index (task.resume state.store state.userId answer).2 } := by
  have create : ∀ record : OfflineRecord, state.store.get record.id = none →
      { state with store := (saveMessage state.store record).getD state.store } = state ∨
      ∃ next, state.store.put record = some next ∧
        { state with store := (saveMessage state.store record).getD state.store } =
          { state with store := next } := by
    intro record absent
    cases stored : saveMessage state.store record with
    | none => exact .inl rfl
    | some next => exact .inr ⟨next, stored, rfl⟩
  have created : ∀ record : OfflineRecord,
      (if (state.store.get record.id).isSome then state
        else { state with store := (saveMessage state.store record).getD state.store }) = state ∨
      ∃ record' next, state.store.get record'.id = none ∧ state.store.put record' = some next ∧
        (if (state.store.get record.id).isSome then state
          else { state with store := (saveMessage state.store record).getD state.store }) =
          { state with store := next } := by
    intro record
    cases found : state.store.get record.id with
    | some old => exact .inl (if_pos rfl)
    | none =>
        rw [Option.isSome_none, if_neg Bool.false_ne_true]
        rcases create record found with same | ⟨next, stored, same⟩
        · exact .inl same
        · exact .inr ⟨record, next, found, stored, same⟩
  cases event with
  | storeMessage draft id now =>
      rcases created (draftRecord draft id now) with same | ⟨record, next, rest⟩
      · exact .inl same
      · exact .inr (.inr (.inl ⟨record, next, rest⟩))
  | pushed data id now =>
      have stepped : state.step deviceId (.pushed data id now) =
          if (state.store.get id).isSome then state
          else { state with store := handleIncomingMessage state.store data id deviceId now } := rfl
      rw [stepped, handleIncomingMessage]
      cases parseIncomingMessage data with
      | none => exact .inl (ite_self _)
      | some messageData =>
          rcases created (incomingRecord messageData id deviceId now) with same | ⟨record, next, rest⟩
          · exact .inl same
          · exact .inr (.inr (.inl ⟨record, next, rest⟩))
  | syncPendingMessages =>
      rw [step]
      split
      · exact .inl rfl
      · exact .inr (.inl ⟨.listPending, trivial, rfl⟩)
  | syncMessageStatus =>
      rw [step]
      split
      · exact .inl rfl
      · exact .inr (.inl ⟨.listStatuses, trivial, rfl⟩)
  | acknowledged data =>
      rw [step]
      cases parseMessageAck data with
      | none => exact .inl rfl
      | some parsed => exact .inr (.inl ⟨.lookAck parsed.1 parsed.2, trivial, rfl⟩)
  | receipt data =>
      rw [step]
      cases parseReadReceipt data with
      | none => exact .inl rfl
      | some parsed => exact .inr (.inl ⟨.lookReceipt parsed.1 parsed.2.1 parsed.2.2, trivial, rfl⟩)
  | markConversationAsRead conversationId => exact .inr (.inl ⟨.listConversation conversationId, trivial, rfl⟩)
  | resume index answer =>
      cases found : state.tasks[index]? with
      | none => exact .inl (resume_none index answer found)
      | some task => exact .inr (.inr (.inr ⟨index, answer, task, rfl, found, resume_some index answer task found⟩))

/-- Every task may write back only what is in the store. -/
def Known (state : OfflineState) : Prop := ∀ task ∈ state.tasks, task.Known state.store

theorem step_known (deviceId : Nat) (state : OfflineState) (event : TaskEvent) (known : state.Known) :
    (state.step deviceId event).Known := by
  rcases step_cases deviceId state event with same | ⟨task, first, same⟩ |
    ⟨record, next, absent, stored, same⟩ | ⟨index, answer, task, -, found, same⟩
  · rwa [same]
  · rw [same]
    intro other member
    rcases List.mem_append.mp member with old | new
    · exact known other old
    · obtain rfl := List.mem_singleton.mp new
      cases other <;> first | exact first.elim | exact List.forall_mem_nil _
  · rw [same]
    exact fun other member => (known other member).mono (Task.keeps_new absent stored)
  · rw [same]
    have here := known task (List.mem_of_getElem? found)
    intro other member
    rcases List.mem_or_eq_of_mem_set member with old | rfl
    · exact (known other old).mono here.keeps
    · exact here.resume

end OfflineState

/-- A change of the status that nothing interrupts is the whole operation. -/
theorem Task.resume_alone (store : MessageStore) (userId id : Nat) (status : MessageStatus) (updates : Updates)
    (first second : Answer) (message : OfflineRecord) (found : store.get id = some message) :
    (((Task.readStatus id status updates .acknowledgement).resume store userId first).2.resume store userId
      second) = ((updateMessageStatus store id status updates).getD store, .finished) := by
  have held : (Task.readStatus id status updates .acknowledgement).resume store userId first =
      (store, .saveStatus (withStatus status updates message) .acknowledgement) := by
    rw [Task.resume, getMessage, found]
  rw [held, updateMessageStatus, getMessage, found, Task.resume]
  dsimp only
  cases saveMessage store (withStatus status updates message) <;> rfl

end SecureChat.Web
