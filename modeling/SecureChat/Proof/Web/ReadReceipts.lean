import SecureChat.Proof.Web.OfflineTasks

namespace SecureChat.Web
open Library OfflineSyncManager

/-- The page of the conversation that a mark goes over holds the message. -/
def Covers (store : MessageStore) (id : Nat) (conversationId : Conversation) : Prop :=
  ∃ message ∈ getConversationMessages store conversationId 1000 0, message.id = id

/-- A page of a conversation shows nothing but what stays the same in all states of its records. -/
theorem getConversationMessages_shapes (store : MessageStore) (conversationId : Conversation)
    (limit offset : Nat) : (getConversationMessages store conversationId limit offset).map OfflineRecord.shape =
      ((((store.records.map OfflineRecord.shape).filter fun shape => shape.2.2.1 = conversationId).mergeSort
        fun first second => decide (second.2.2.2 ≤ first.2.2.2)).drop offset).take limit := by
  have selected : (store.getAll fun message => decide (message.conversationId = conversationId)).map
      OfflineRecord.shape =
      (store.records.map OfflineRecord.shape).filter fun shape => shape.2.2.1 = conversationId := by
    rw [ObjectStore.getAll, List.filter_map]
    rfl
  rw [getConversationMessages, List.map_take, List.map_drop, ← selected]
  congr 2
  exact List.map_mergeSort fun first _ second _ => rfl

theorem covers_congr (first second : MessageStore) (id : Nat) (conversationId : Conversation)
    (same : first.records.map OfflineRecord.shape = second.records.map OfflineRecord.shape) :
    Covers first id conversationId ↔ Covers second id conversationId := by
  have shown : ∀ store : MessageStore, Covers store id conversationId ↔
      id ∈ ((getConversationMessages store conversationId 1000 0).map OfflineRecord.shape).map Prod.fst := by
    intro store
    rw [List.map_map, List.mem_map]
    rfl
  rw [shown, shown, getConversationMessages_shapes, getConversationMessages_shapes, same]

namespace Task

/-- The tasks that the three operations over a stored message come to. -/
def Working (userId : Nat) : Task → Prop
  | .lookReceipt _ _ _ => True
  | .readStatus _ _ _ caller => caller = .acknowledgement
  | .saveStatus _ caller => caller = .acknowledgement
  | .listConversation _ => True
  | .findUser _ => True
  | .saveMark message _ currentUserId => currentUserId = userId ∧ userId ∈ message.readBy
  | .finished => True
  | _ => False

/-- The mark that the task belongs to has the message still before it. -/
def Comes (store : MessageStore) (id : Nat) : Task → Prop
  | .listConversation conversationId => Covers store id conversationId
  | .findUser messages => ∃ message ∈ messages, message.id = id
  | .saveMark message rest _ => ∃ listed ∈ message :: rest, listed.id = id
  | _ => False

/-- How often the task stops at most before it is finished. -/
def rounds : Task → Nat
  | .lookReceipt _ _ _ => 1
  | .readStatus _ _ _ _ => 2
  | .saveStatus _ _ => 1
  | .listConversation _ => 1002
  | .findUser messages => messages.length + 1
  | .saveMark _ rest _ => rest.length + 1
  | _ => 0

/-- What one of these tasks does when it goes on. A receipt never finds its message. -/
inductive Move (store : MessageStore) (userId : Nat) : Task → MessageStore → Task → Prop where
  | lost (messageId readerId timestamp : Nat) :
      Move store userId (.lookReceipt messageId readerId timestamp) store .finished
  | absent (id : Nat) (status : MessageStatus) (updates : Updates) :
      Move store userId (.readStatus id status updates .acknowledgement) store .finished
  | read (message : OfflineRecord) (status : MessageStatus) (updates : Updates)
      (found : store.get message.id = some message) :
      Move store userId (.readStatus message.id status updates .acknowledgement) store
        (.saveStatus (withStatus status updates message) .acknowledgement)
  | write (message : OfflineRecord) (next : MessageStore) (stored : store.put message = some next) :
      Move store userId (.saveStatus message .acknowledgement) next .finished
  | list (conversationId : Conversation) :
      Move store userId (.listConversation conversationId) store
        (.findUser (getConversationMessages store conversationId 1000 0))
  | find (messages : List OfflineRecord) :
      Move store userId (.findUser messages) store (nextMark userId messages)
  | mark (message : OfflineRecord) (rest : List OfflineRecord) (next : MessageStore)
      (marked : userId ∈ message.readBy) (stored : store.put message = some next) :
      Move store userId (.saveMark message rest userId) next (nextMark userId rest)
  | done : Move store userId .finished store .finished

theorem resume_move (store : MessageStore) (userId : Nat) (answer : Answer) (task : Task)
    (known : task.Known store) (working : task.Working userId) :
    Move store userId task (task.resume store userId answer).1 (task.resume store userId answer).2 := by
  cases task with
  | lookReceipt messageId readerId timestamp => exact .lost messageId readerId timestamp
  | readStatus id status updates caller =>
      obtain rfl : caller = .acknowledgement := working
      rw [resume]
      cases found : getMessage store id with
      | none => exact .absent id status updates
      | some message =>
          obtain rfl : message.id = id := store.get_key id message found
          exact .read message status updates found
  | saveStatus message caller =>
      obtain rfl : caller = .acknowledgement := working
      obtain ⟨next, stored⟩ := known.stored message rfl
      rw [resume, saveMessage, stored]
      exact .write message next stored
  | listConversation conversationId => exact .list conversationId
  | findUser messages => exact .find messages
  | saveMark message rest currentUserId =>
      obtain ⟨rfl, marked⟩ := working
      obtain ⟨next, stored⟩ := known.stored message rfl
      rw [resume, saveMessage, stored]
      exact .mark message rest next marked stored
  | finished => exact .done
  | _ => exact working.elim

theorem nextMark_working (userId : Nat) (messages : List OfflineRecord) :
    (nextMark userId messages).Working userId := by
  rcases nextMark_cases userId messages with ⟨ended, -⟩ | ⟨front, stop, rest, -, -, -, stopped⟩
  · rw [ended]
    trivial
  · rw [stopped]
    exact ⟨rfl, List.mem_append_right _ List.mem_cons_self⟩

theorem nextMark_rounds (userId : Nat) (messages : List OfflineRecord) :
    (nextMark userId messages).rounds ≤ messages.length := by
  rcases nextMark_cases userId messages with ⟨ended, -⟩ | ⟨front, stop, rest, rfl, -, -, stopped⟩
  · rw [ended]
    exact Nat.zero_le _
  · rw [stopped, List.length_append, List.length_cons]
    exact Nat.le_add_left _ _

theorem nextMark_comes (store : MessageStore) (userId id : Nat) (messages : List OfflineRecord)
    (comes : (nextMark userId messages).Comes store id) : ∃ message ∈ messages, message.id = id := by
  rcases nextMark_cases userId messages with ⟨ended, -⟩ | ⟨front, stop, rest, rfl, -, -, stopped⟩
  · rw [ended] at comes
    exact comes.elim
  · rw [stopped] at comes
    obtain ⟨message, listed, same⟩ := comes
    rcases List.mem_cons.mp listed with rfl | later
    · exact ⟨stop, List.mem_append_right _ List.mem_cons_self, same⟩
    · exact ⟨message, List.mem_append_right _ (List.mem_cons_of_mem _ later), same⟩

/-- Every state of the message that the task may write back has a property of its readers. -/
def Holding (property : List Nat → Prop) (id : Nat) (task : Task) : Prop :=
  ∀ message ∈ task.snapshots, message.id = id → property message.readBy

/-- The loop over a conversation adds the user to the readers of a message, or the message is not in it. -/
theorem nextMark_holding (property : List Nat → Prop) (userId id : Nat) (messages : List OfflineRecord)
    (holding : ∀ message ∈ messages, message.id = id → property message.readBy)
    (grows : (∀ readers, property readers → userId ∉ readers → property (readers ++ [userId])) ∨
      ¬ ∃ message ∈ messages, message.id = id) : (nextMark userId messages).Holding property id := by
  intro message member same
  rcases nextMark_cases userId messages with ⟨ended, -⟩ | ⟨front, stop, rest, rfl, -, unmarked, stopped⟩
  · rw [ended] at member
    exact nomatch member
  · rw [stopped] at member
    have inside : stop ∈ front ++ stop :: rest := List.mem_append_right _ List.mem_cons_self
    rcases List.mem_cons.mp member with rfl | later
    · rcases grows with grows | elsewhere
      · exact grows stop.readBy (holding stop inside same) unmarked
      · exact absurd ⟨stop, inside, same⟩ elsewhere
    · exact holding message (List.mem_append_right _ (List.mem_cons_of_mem _ later)) same

/-- The records that the task has read as they were stored. -/
def listed : Task → List OfflineRecord
  | .findUser messages => messages
  | .saveMark _ rest _ => rest
  | _ => []

/-- No state of the message that the task has listed shows the user. -/
def Unmarked (userId id : Nat) (task : Task) : Prop :=
  ∀ message ∈ task.listed, message.id = id → userId ∉ message.readBy

/-- The task does not change the status of the message. -/
def Apart (id : Nat) : Task → Prop
  | .readStatus other _ _ _ => other ≠ id
  | .saveStatus message _ => message.id ≠ id
  | _ => True

theorem nextMark_unmarked (userId id : Nat) (messages : List OfflineRecord)
    (unmarked : ∀ message ∈ messages, message.id = id → userId ∉ message.readBy) :
    (nextMark userId messages).Unmarked userId id := by
  intro message member
  rcases nextMark_cases userId messages with ⟨ended, -⟩ | ⟨front, stop, rest, rfl, -, -, stopped⟩
  · rw [ended] at member
    exact nomatch member
  · rw [stopped] at member
    exact unmarked message (List.mem_append_right _ (List.mem_cons_of_mem _ member))

/-- A message that does not show the user is not passed over. -/
theorem nextMark_coming (store : MessageStore) (userId id : Nat) (messages : List OfflineRecord)
    (unmarked : ∀ message ∈ messages, message.id = id → userId ∉ message.readBy)
    (coming : ∃ message ∈ messages, message.id = id) : (nextMark userId messages).Comes store id := by
  obtain ⟨message, member, same⟩ := coming
  rcases nextMark_cases userId messages with ⟨-, all⟩ | ⟨front, stop, rest, rfl, passed, -, stopped⟩
  · exact absurd (all message member) (unmarked message member same)
  · rw [stopped]
    rcases List.mem_append.mp member with early | late
    · exact absurd (passed message early) (unmarked message member same)
    · rcases List.mem_cons.mp late with rfl | later
      · exact ⟨_, List.mem_cons_self, same⟩
      · exact ⟨message, List.mem_cons_of_mem _ later, same⟩

theorem nextMark_apart (userId id : Nat) (messages : List OfflineRecord) :
    (nextMark userId messages).Apart id := by
  rcases nextMark_cases userId messages with ⟨ended, -⟩ | ⟨front, stop, rest, -, -, -, stopped⟩
  · rw [ended]
    trivial
  · rw [stopped]
    trivial

theorem comes_congr (first second : MessageStore) (id : Nat) (task : Task)
    (same : first.records.map OfflineRecord.shape = second.records.map OfflineRecord.shape) :
    task.Comes first id ↔ task.Comes second id := by
  cases task with
  | listConversation conversationId => exact covers_congr first second id conversationId same
  | _ => exact Iff.rfl

namespace Move

variable {store next : MessageStore} {userId id : Nat} {task after : Task}

theorem working (move : Move store userId task next after) : after.Working userId := by
  cases move with
  | lost messageId readerId timestamp => trivial
  | absent id status updates => trivial
  | read message status updates found => rfl
  | write message next stored => trivial
  | list conversationId => trivial
  | find messages => exact nextMark_working userId messages
  | mark message rest next marked stored => exact nextMark_working userId rest
  | done => trivial

theorem rounds (move : Move store userId task next after) (unfinished : task ≠ .finished) :
    after.rounds < task.rounds := by
  cases move with
  | lost messageId readerId timestamp => exact Nat.zero_lt_one
  | absent id status updates => exact Nat.two_pos
  | read message status updates found => exact Nat.one_lt_two
  | write message next stored => exact Nat.zero_lt_one
  | list conversationId =>
      have page : (getConversationMessages store conversationId 1000 0).length ≤ 1000 :=
        List.length_take_le _ _
      exact Nat.add_lt_add_right (Nat.lt_succ_of_le page) 1
  | find messages => exact Nat.lt_succ_of_le (nextMark_rounds userId messages)
  | mark message rest next marked stored => exact Nat.lt_succ_of_le (nextMark_rounds userId rest)
  | done => exact absurd rfl unfinished

/-- A task that has the message before it had it before it all the time. -/
theorem comes (move : Move store userId task next after) (coming : after.Comes next id) :
    task.Comes store id := by
  cases move with
  | lost messageId readerId timestamp => exact coming.elim
  | absent id status updates => exact coming.elim
  | read message status updates found => exact coming.elim
  | write message next stored => exact coming.elim
  | list conversationId => exact coming
  | find messages => exact nextMark_comes store userId id messages coming
  | mark message rest next marked stored =>
      obtain ⟨listed, member, same⟩ := nextMark_comes next userId id rest coming
      exact ⟨listed, List.mem_cons_of_mem _ member, same⟩
  | done => exact coming.elim

/-- A message is put in a state that the task held, or it stays as it was. -/
theorem stored {property : List Nat → Prop} (move : Move store userId task next after)
    (stored : ∀ message, store.get id = some message → property message.readBy)
    (holding : task.Holding property id) : ∀ message, next.get id = some message → property message.readBy := by
  have put : ∀ record, store.put record = some next → (record.id = id → property record.readBy) →
      ∀ message, next.get id = some message → property message.readBy := by
    intro record written holds message found
    rw [ObjectStore.get_put written] at found
    split at found
    · rename_i same
      obtain rfl := Option.some.inj found
      exact holds same.symm
    · exact stored message found
  cases move with
  | write message next written => exact put message written (holding message List.mem_cons_self)
  | mark message rest next marked written => exact put message written (holding message List.mem_cons_self)
  | _ => exact stored

theorem holding {property : List Nat → Prop} (move : Move store userId task next after)
    (stored : ∀ message, store.get id = some message → property message.readBy)
    (holding : task.Holding property id)
    (grows : (∀ readers, property readers → userId ∉ readers → property (readers ++ [userId])) ∨
      ¬ task.Comes store id) : after.Holding property id := by
  cases move with
  | read message status updates found =>
      intro other member same
      obtain rfl := List.mem_singleton.mp member
      obtain rfl : message.id = id := same
      exact stored message found
  | list conversationId =>
      intro message member same
      have record := mem_getConversationMessages store conversationId 1000 0 message member
      exact stored message ((store.get_eq_some_iff id message).mpr ⟨record, same⟩)
  | find messages => exact nextMark_holding property userId id messages holding grows
  | mark message rest next marked written =>
      have later : ∀ other ∈ rest, other.id = id → property other.readBy :=
        fun other member => holding other (List.mem_cons_of_mem _ member)
      refine nextMark_holding property userId id rest later (grows.imp_right fun elsewhere coming => ?_)
      obtain ⟨listed, member, same⟩ := coming
      exact elsewhere ⟨listed, List.mem_cons_of_mem _ member, same⟩
  | lost messageId readerId timestamp => exact List.forall_mem_nil _
  | absent id status updates => exact List.forall_mem_nil _
  | write message next written => exact List.forall_mem_nil _
  | done => exact List.forall_mem_nil _

theorem shapes (move : Move store userId task next after) (known : task.Known store) :
    next.records.map OfflineRecord.shape = store.records.map OfflineRecord.shape := by
  have put : ∀ record ∈ task.snapshots, store.put record = some next →
      next.records.map OfflineRecord.shape = store.records.map OfflineRecord.shape := by
    intro record member written
    obtain ⟨old, found, same⟩ := known record member
    exact ObjectStore.put_map OfflineRecord.shape written found same.symm
  cases move with
  | write message next written => exact put message List.mem_cons_self written
  | mark message rest next marked written => exact put message List.mem_cons_self written
  | _ => rfl

/-- A message whose status no task changes is put with the user only. -/
theorem put_marked (move : Move store userId task next after) (apart : task.Apart id) :
    next.get id = store.get id ∨ ∀ message, next.get id = some message → userId ∈ message.readBy := by
  cases move with
  | write message next written => exact .inl (by rw [ObjectStore.get_put written, if_neg (Ne.symm apart)])
  | mark message rest next marked written =>
      rw [ObjectStore.get_put written]
      split
      · exact .inr fun other found => Option.some.inj found ▸ marked
      · exact .inl rfl
  | _ => exact .inl rfl

theorem apart (move : Move store userId task next after) (apart : task.Apart id) : after.Apart id := by
  cases move with
  | read message status updates found => exact apart
  | find messages => exact nextMark_apart userId id messages
  | mark message rest next marked written => exact nextMark_apart userId id rest
  | _ => trivial

theorem unmarked (move : Move store userId task next after)
    (stored : ∀ message, store.get id = some message → userId ∉ message.readBy)
    (unmarked : task.Unmarked userId id) : after.Unmarked userId id := by
  cases move with
  | list conversationId =>
      intro message member same
      have record := mem_getConversationMessages store conversationId 1000 0 message member
      exact stored message ((store.get_eq_some_iff id message).mpr ⟨record, same⟩)
  | find messages => exact nextMark_unmarked userId id messages unmarked
  | mark message rest next marked written => exact nextMark_unmarked userId id rest unmarked
  | _ => exact List.forall_mem_nil _

/-- A mark that has the message before it has put it, or has it still before it. -/
theorem coming (move : Move store userId task next after)
    (stored : ∀ message, next.get id = some message → userId ∉ message.readBy)
    (unmarked : task.Unmarked userId id) (coming : task.Comes store id) : after.Comes next id := by
  cases move with
  | list conversationId => exact coming
  | find messages => exact nextMark_coming store userId id messages unmarked coming
  | mark message rest next marked written =>
      obtain ⟨listed, member, same⟩ := coming
      rcases List.mem_cons.mp member with rfl | later
      · have found : next.get id = some listed := by rw [ObjectStore.get_put written, if_pos same.symm]
        exact absurd marked (stored listed found)
      · exact nextMark_coming next userId id rest unmarked ⟨listed, later, same⟩
  | _ => exact coming.elim

end Move

end Task

namespace OfflineState

/-- The three operations are in flight, and the records are those that they began with, in other states. -/
structure Underway (origin : MessageStore) (userId : Nat) (state : OfflineState) : Prop where
  known : state.Known
  user : state.userId = userId
  working : ∀ task ∈ state.tasks, task.Working userId
  shapes : state.store.records.map OfflineRecord.shape = origin.records.map OfflineRecord.shape

variable {origin : MessageStore} {userId : Nat} {state : OfflineState}

theorem Underway.move (underway : state.Underway origin userId) (index : Nat) (answer : Answer) (task : Task)
    (found : state.tasks[index]? = some task) : ∃ store next, Task.Move state.store userId task store next ∧
      state.resume index answer = { state with store := store, tasks := state.tasks.set index next } := by
  have member := List.mem_of_getElem? found
  have move := Task.resume_move state.store userId answer task (underway.known task member)
    (underway.working task member)
  refine ⟨_, _, move, ?_⟩
  rw [resume_some index answer task found, underway.user]

theorem Underway.resume (underway : state.Underway origin userId) (index : Nat) (answer : Answer) :
    (state.resume index answer).Underway origin userId := by
  have known : (state.resume index answer).Known := state.step_known 0 (.resume index answer) underway.known
  cases found : state.tasks[index]? with
  | none =>
      rw [resume_none index answer found]
      exact underway
  | some task =>
      obtain ⟨store, next, move, same⟩ := underway.move index answer task found
      rw [same] at known ⊢
      refine ⟨known, underway.user, fun other member => ?_, ?_⟩
      · rcases List.mem_or_eq_of_mem_set member with old | rfl
        · exact underway.working other old
        · exact move.working
      · exact (move.shapes (underway.known task (List.mem_of_getElem? found))).trans underway.shapes

/-- What each operation of a schedule keeps holds after all of them. -/
theorem interleave_keeps (property : OfflineState → Prop) (schedule : List (Nat × Answer))
    (keeps : ∀ state, ∀ go ∈ schedule, property state → property (state.resume go.1 go.2))
    (state : OfflineState) (initial : property state) : property (state.interleave schedule) :=
  List.foldlRecOn schedule _ initial fun reached kept go member => keeps reached go member kept

theorem Underway.interleave (underway : state.Underway origin userId) (schedule : List (Nat × Answer)) :
    (state.interleave schedule).Underway origin userId :=
  interleave_keeps _ schedule (fun _ go _ kept => kept.resume go.1 go.2) state underway

section Schedules

variable (state : OfflineState) (schedule : List (Nat × Answer))

theorem interleave_append (later : List (Nat × Answer)) :
    state.interleave (schedule ++ later) = (state.interleave schedule).interleave later := List.foldl_append

theorem resume_length (index : Nat) (answer : Answer) :
    (state.resume index answer).tasks.length = state.tasks.length := by
  rw [resume]
  split
  · rfl
  · exact List.length_set

theorem interleave_length : (state.interleave schedule).tasks.length = state.tasks.length :=
  interleave_keeps (fun reached => reached.tasks.length = state.tasks.length) schedule
    (fun reached go _ kept => (reached.resume_length go.1 go.2).trans kept) state rfl

/-- A task stays where it is while others go on. -/
theorem interleave_other (index : Nat) (others : ∀ go ∈ schedule, go.1 ≠ index) :
    (state.interleave schedule).tasks[index]? = state.tasks[index]? := by
  refine interleave_keeps (fun reached => reached.tasks[index]? = state.tasks[index]?) schedule
    (fun reached go member kept => ?_) state rfl
  rw [← kept, resume]
  split
  · rfl
  · exact List.getElem?_set_ne (others go member)

theorem interleave_finished (index : Nat) (finished : state.tasks[index]? = some .finished) :
    (state.interleave schedule).tasks[index]? = some .finished := by
  refine interleave_keeps (fun reached => reached.tasks[index]? = some .finished) schedule
    (fun reached go _ kept => ?_) state finished
  rw [resume]
  split
  · exact kept
  · rename_i task found
    by_cases same : go.1 = index
    · rw [same, kept] at found
      obtain rfl := Option.some.inj found
      have inside : index < reached.tasks.length := (List.getElem?_eq_some_iff.mp kept).1
      rw [same]
      exact List.getElem?_set_self inside
    · rw [← kept]
      exact List.getElem?_set_ne same

end Schedules

/-- Each operation comes to its end when it goes on often enough. -/
theorem Underway.finish_one (answer : Answer) (underway : state.Underway origin userId) (index : Nat)
    (task : Task) (found : state.tasks[index]? = some task) : ∃ schedule : List (Nat × Answer),
      (∀ go ∈ schedule, go.1 = index) ∧ (state.interleave schedule).tasks[index]? = some .finished := by
  induction rounds : task.rounds using Nat.strong_induction_on generalizing state task with
  | _ left ih =>
      by_cases finished : task = .finished
      · exact ⟨[], List.forall_mem_nil _, finished ▸ found⟩
      · obtain ⟨store, next, move, same⟩ := underway.move index answer task found
        have fewer : next.rounds < left := rounds ▸ move.rounds finished
        have inside : index < state.tasks.length := (List.getElem?_eq_some_iff.mp found).1
        have here : (state.resume index answer).tasks[index]? = some next := by
          rw [same]
          exact List.getElem?_set_self inside
        obtain ⟨schedule, only, ended⟩ := ih next.rounds fewer (underway.resume index answer) next here rfl
        exact ⟨(index, answer) :: schedule, List.forall_mem_cons.mpr ⟨rfl, only⟩, ended⟩

/-- All operations of a list come to their ends, and no other one goes on. -/
theorem Underway.finish_all (answer : Answer) (indices : List Nat) (underway : state.Underway origin userId)
    (inside : ∀ index ∈ indices, index < state.tasks.length) : ∃ schedule : List (Nat × Answer),
      (∀ go ∈ schedule, go.1 ∈ indices) ∧
      ∀ index ∈ indices, (state.interleave schedule).tasks[index]? = some .finished := by
  induction indices generalizing state with
  | nil => exact ⟨[], List.forall_mem_nil _, List.forall_mem_nil _⟩
  | cons index rest ih =>
      obtain ⟨here, others⟩ := List.forall_mem_cons.mp inside
      obtain ⟨first, only, ended⟩ := underway.finish_one answer index _ (List.getElem?_eq_getElem here)
      have within : ∀ other ∈ rest, other < (state.interleave first).tasks.length := by
        rw [interleave_length]
        exact others
      obtain ⟨second, listed, all⟩ := ih (underway.interleave first) within
      refine ⟨first ++ second, fun go member => ?_, ?_⟩
      · rcases List.mem_append.mp member with early | late
        · exact only go early ▸ List.mem_cons_self
        · exact List.mem_cons_of_mem _ (listed go late)
      · rw [interleave_append]
        exact List.forall_mem_cons.mpr ⟨interleave_finished _ second index ended, all⟩

/-- All states of a message have a property of its readers, and a mark keeps it or does not come. -/
structure Steady (origin : MessageStore) (userId : Nat) (property : List Nat → Prop) (id : Nat)
    (state : OfflineState) : Prop where
  underway : state.Underway origin userId
  stored : ∀ message, state.store.get id = some message → property message.readBy
  holding : ∀ task ∈ state.tasks, task.Holding property id
  grows : (∀ readers, property readers → userId ∉ readers → property (readers ++ [userId])) ∨
    ∀ task ∈ state.tasks, ¬ task.Comes origin id

theorem Steady.resume {property : List Nat → Prop} {id : Nat} (steady : state.Steady origin userId property id)
    (index : Nat) (answer : Answer) : (state.resume index answer).Steady origin userId property id := by
  have underway := steady.underway.resume index answer
  cases found : state.tasks[index]? with
  | none =>
      rw [resume_none index answer found]
      exact steady
  | some task =>
      obtain ⟨store, next, move, same⟩ := steady.underway.move index answer task found
      have member := List.mem_of_getElem? found
      have shapes := steady.underway.shapes
      have here := steady.grows.imp_right fun elsewhere coming =>
        elsewhere task member ((Task.comes_congr state.store origin id task shapes).mp coming)
      rw [same] at underway ⊢
      refine ⟨underway, move.stored steady.stored (steady.holding task member), fun other inside => ?_,
        steady.grows.imp_right fun elsewhere other inside coming => ?_⟩
      · rcases List.mem_or_eq_of_mem_set inside with old | rfl
        · exact steady.holding other old
        · exact move.holding steady.stored (steady.holding task member) here
      · rcases List.mem_or_eq_of_mem_set inside with old | rfl
        · exact elsewhere other old coming
        · have before := move.comes ((Task.comes_congr store origin id other underway.shapes).mpr coming)
          exact elsewhere task member ((Task.comes_congr state.store origin id task shapes).mp before)

theorem Steady.interleave {property : List Nat → Prop} {id : Nat}
    (steady : state.Steady origin userId property id) (schedule : List (Nat × Answer)) :
    (state.interleave schedule).Steady origin userId property id :=
  interleave_keeps _ schedule (fun _ go _ kept => kept.resume go.1 go.2) state steady

/-- No operation changes the status of the message, and a mark has put it, or has it still before it. -/
structure Marking (origin : MessageStore) (userId id : Nat) (state : OfflineState) : Prop where
  underway : state.Underway origin userId
  apart : ∀ task ∈ state.tasks, task.Apart id
  marked : (∀ message, state.store.get id = some message → userId ∈ message.readBy) ∨
    (∀ message, state.store.get id = some message → userId ∉ message.readBy) ∧
    (∀ task ∈ state.tasks, task.Unmarked userId id) ∧ ∃ task ∈ state.tasks, task.Comes origin id

theorem Marking.resume {id : Nat} (marking : state.Marking origin userId id) (index : Nat) (answer : Answer) :
    (state.resume index answer).Marking origin userId id := by
  have underway := marking.underway.resume index answer
  cases found : state.tasks[index]? with
  | none =>
      rw [resume_none index answer found]
      exact marking
  | some task =>
      obtain ⟨store, next, move, same⟩ := marking.underway.move index answer task found
      have member := List.mem_of_getElem? found
      have apart := marking.apart task member
      rw [same] at underway ⊢
      refine ⟨underway, fun other inside => ?_, ?_⟩
      · rcases List.mem_or_eq_of_mem_set inside with old | rfl
        · exact marking.apart other old
        · exact move.apart apart
      · rcases move.put_marked apart with still | marked
        · refine marking.marked.imp (fun marked => still ▸ marked) fun ⟨stored, unmarked, coming⟩ => ?_
          have later : ∀ message, store.get id = some message → userId ∉ message.readBy := still ▸ stored
          refine ⟨later, fun other inside => ?_, ?_⟩
          · rcases List.mem_or_eq_of_mem_set inside with old | rfl
            · exact unmarked other old
            · exact move.unmarked stored (unmarked task member)
          · obtain ⟨other, inside, comes⟩ := coming
            obtain ⟨place, at_place⟩ := List.mem_iff_getElem?.mp inside
            by_cases moved : index = place
            · subst moved
              obtain rfl := Option.some.inj (at_place.symm.trans found)
              have before := (Task.comes_congr state.store origin id other marking.underway.shapes).mpr comes
              have after := move.coming later (unmarked other member) before
              have bound : index < state.tasks.length := (List.getElem?_eq_some_iff.mp found).1
              exact ⟨next, List.mem_of_getElem? (List.getElem?_set_self bound),
                (Task.comes_congr store origin id next underway.shapes).mp after⟩
            · have kept : (state.tasks.set index next)[place]? = some other :=
                (List.getElem?_set_ne moved).trans at_place
              exact ⟨other, List.mem_of_getElem? kept, comes⟩
        · exact .inl marked

theorem Marking.interleave {id : Nat} (marking : state.Marking origin userId id)
    (schedule : List (Nat × Answer)) : (state.interleave schedule).Marking origin userId id :=
  interleave_keeps _ schedule (fun _ go _ kept => kept.resume go.1 go.2) state marking

/-- The operations as they begin. -/
def inFlight (store : MessageStore) (userId : Nat) (works : List Handling) : OfflineState :=
  ⟨store, works.map Handling.task, userId⟩

theorem inFlight_underway (store : MessageStore) (userId : Nat) (works : List Handling) :
    (inFlight store userId works).Underway store userId := by
  refine ⟨fun task member => ?_, rfl, fun task member => ?_, rfl⟩
  · obtain ⟨work, -, rfl⟩ := List.mem_map.mp member
    cases work <;> exact List.forall_mem_nil _
  · obtain ⟨work, -, rfl⟩ := List.mem_map.mp member
    cases work <;> trivial

/-- A message is never lost as a whole. -/
theorem Underway.present (underway : state.Underway origin userId) (message : OfflineRecord)
    (member : message ∈ origin.records) : ∃ final, state.store.get message.id = some final := by
  have shown : message.shape ∈ state.store.records.map OfflineRecord.shape := by
    rw [underway.shapes]
    exact List.mem_map_of_mem member
  obtain ⟨final, inside, same⟩ := List.mem_map.mp shown
  exact ⟨final, (state.store.get_eq_some_iff _ _).mpr ⟨inside, congrArg Prod.fst same⟩⟩

end OfflineState

open OfflineState

/-- Once all operations have come to their ends, the stored message shows every reader of its receipts once. -/
def NoneLost (store : MessageStore) (userId : Nat) (works : List Handling) (message : OfflineRecord) : Prop :=
  ∀ schedule, (∀ task ∈ ((inFlight store userId works).interleave schedule).tasks, task = .finished) →
    ∀ readerId timestamp, Handling.markMessageAsRead message.messageId readerId timestamp ∈ works →
      ∃ final, ((inFlight store userId works).interleave schedule).store.get message.id = some final ∧
        final.readBy.count readerId = 1

/-- The reader is shown once already, or it is the user, the message lies in a conversation that is
marked as read, and nothing else changes it. -/
def Shown (store : MessageStore) (userId : Nat) (works : List Handling) (message : OfflineRecord)
    (readerId : Nat) : Prop :=
  message.readBy.count readerId = 1 ∨
  readerId ∉ message.readBy ∧ readerId = userId ∧
    (∃ conversationId, Handling.markConversationAsRead conversationId ∈ works ∧
      Covers store message.id conversationId) ∧
    ∀ status updates, Handling.updateMessageStatus message.id status updates ∉ works

section Receipts

variable (store : MessageStore) (userId : Nat) (works : List Handling) (message : OfflineRecord)

theorem inFlight_steady (property : List Nat → Prop) (member : message ∈ store.records)
    (holds : property message.readBy)
    (grows : (∀ readers, property readers → userId ∉ readers → property (readers ++ [userId])) ∨
      ∀ conversationId, Handling.markConversationAsRead conversationId ∈ works →
        ¬ Covers store message.id conversationId) :
    (inFlight store userId works).Steady store userId property message.id := by
  refine ⟨inFlight_underway store userId works, fun other found => ?_, fun task inside => ?_,
    grows.imp_right fun apart task inside => ?_⟩
  · have same := (store.get_eq_some_iff _ _).mpr ⟨member, rfl⟩
    obtain rfl := Option.some.inj (same.symm.trans found)
    exact holds
  · obtain ⟨work, -, rfl⟩ := List.mem_map.mp inside
    cases work <;> exact List.forall_mem_nil _
  · obtain ⟨work, listed, rfl⟩ := List.mem_map.mp inside
    cases work with
    | markConversationAsRead conversationId => exact apart conversationId listed
    | _ => exact not_false

/-- A reader that the message shows already is shown as often afterwards, and so is everybody but the user. -/
theorem count_steady (readerId : Nat) (member : message ∈ store.records)
    (fixed : readerId ≠ userId ∨ readerId ∈ message.readBy) : (inFlight store userId works).Steady store userId
      (fun readers => readers.count readerId = message.readBy.count readerId) message.id := by
  refine inFlight_steady store userId works message _ member rfl (.inl fun readers same unread => ?_)
  rw [List.count_append, same]
  rcases fixed with other | shown
  · rw [List.count_singleton, if_neg (by simpa using Ne.symm other), Nat.add_zero]
  · have present : readerId ∈ readers := List.count_pos_iff.mp (same ▸ List.count_pos_iff.mpr shown)
    have other : userId ≠ readerId := fun equal => unread (equal ▸ present)
    rw [List.count_singleton, if_neg (by simpa using other), Nat.add_zero]

theorem all_finished (state : OfflineState)
    (each : ∀ index < state.tasks.length, state.tasks[index]? = some .finished) :
    ∀ task ∈ state.tasks, task = .finished := by
  intro task member
  obtain ⟨index, found⟩ := List.mem_iff_getElem?.mp member
  have ended := each index (List.getElem?_eq_some_iff.mp found).1
  exact Option.some.inj (found.symm.trans ended)

/-- There is an order in which all operations come to their ends. -/
theorem inFlight_finishes : ∃ schedule,
    ∀ task ∈ ((inFlight store userId works).interleave schedule).tasks, task = .finished := by
  obtain ⟨schedule, -, ended⟩ := (inFlight_underway store userId works).finish_all noAnswer
    (List.range (inFlight store userId works).tasks.length) fun index => List.mem_range.mp
  refine ⟨schedule, all_finished _ fun index inside => ended index (List.mem_range.mpr ?_)⟩
  rwa [interleave_length] at inside

/-- A change of the status that begins first and ends last undoes what all others have done. -/
theorem update_overwrites (member : message ∈ store.records) (status : MessageStatus) (updates : Updates)
    (listed : Handling.updateMessageStatus message.id status updates ∈ works) : ∃ schedule,
      (∀ task ∈ ((inFlight store userId works).interleave schedule).tasks, task = .finished) ∧
      ∀ final, ((inFlight store userId works).interleave schedule).store.get message.id = some final →
        final.readBy = message.readBy := by
  obtain ⟨index, bound, at_index⟩ := List.mem_iff_getElem.mp listed
  have found : store.get message.id = some message := (store.get_eq_some_iff _ _).mpr ⟨member, rfl⟩
  have first : (inFlight store userId works).tasks[index]? =
      some (.readStatus message.id status updates .acknowledgement) := by
    rw [inFlight, List.getElem?_map, List.getElem?_eq_getElem bound, at_index]
    rfl
  let began := (inFlight store userId works).resume index noAnswer
  have underway : began.Underway store userId := (inFlight_underway store userId works).resume index noAnswer
  have held : began.tasks[index]? = some (.saveStatus (withStatus status updates message) .acknowledgement) := by
    have read : (Task.readStatus message.id status updates .acknowledgement).resume store userId noAnswer =
        (store, .saveStatus (withStatus status updates message) .acknowledgement) := by
      rw [Task.resume, getMessage, found]
    have inside : index < (inFlight store userId works).tasks.length := (List.getElem?_eq_some_iff.mp first).1
    have resumed : began.tasks = (inFlight store userId works).tasks.set index
        ((Task.readStatus message.id status updates .acknowledgement).resume store userId noAnswer).2 :=
      congrArg OfflineState.tasks (resume_some index noAnswer _ first)
    rw [resumed, read]
    exact List.getElem?_set_self inside
  -- All other operations come to their ends before the change of the status is saved.
  let others := (List.range began.tasks.length).filter (· ≠ index)
  obtain ⟨schedule, only, ended⟩ := underway.finish_all noAnswer others fun other inside =>
    List.mem_range.mp (List.mem_of_mem_filter inside)
  have still := interleave_other began schedule index fun go inside =>
    of_decide_eq_true (List.mem_filter.mp (only go inside)).2
  obtain ⟨saved, next, move, same⟩ :=
    (underway.interleave schedule).move index noAnswer _ (still.trans held)
  have whole : (inFlight store userId works).interleave ((index, noAnswer) :: (schedule ++ [(index, noAnswer)])) =
      { began.interleave schedule with
        store := saved
        tasks := (began.interleave schedule).tasks.set index next } :=
    (interleave_append began schedule [(index, noAnswer)]).trans same
  cases move with
  | write _ _ stored =>
      refine ⟨(index, noAnswer) :: (schedule ++ [(index, noAnswer)]), ?_⟩
      rw [whole]
      refine ⟨all_finished _ fun other inside => ?_, fun final present => ?_⟩
      · rw [List.length_set] at inside
        by_cases here : index = other
        · subst here
          exact List.getElem?_set_self inside
        · rw [interleave_length] at inside
          have listed : other ∈ others :=
            List.mem_filter.mpr ⟨List.mem_range.mpr inside, decide_eq_true (Ne.symm here)⟩
          exact (List.getElem?_set_ne here).trans (ended other listed)
      · have put : saved.get message.id = some (withStatus status updates message) :=
          (ObjectStore.get_put stored message.id).trans (if_pos rfl)
        obtain rfl := Option.some.inj (put.symm.trans present)
        rfl

/-- A mark that nothing else crosses shows the user at the end. -/
theorem mark_stays (member : message ∈ store.records) (unread : userId ∉ message.readBy)
    (conversationId : Conversation) (listed : Handling.markConversationAsRead conversationId ∈ works)
    (covers : Covers store message.id conversationId)
    (apart : ∀ status updates, Handling.updateMessageStatus message.id status updates ∉ works) :
    (inFlight store userId works).Marking store userId message.id := by
  have found : store.get message.id = some message := (store.get_eq_some_iff _ _).mpr ⟨member, rfl⟩
  refine ⟨inFlight_underway store userId works, fun task inside => ?_, .inr ⟨fun other there => ?_, ?_, ?_⟩⟩
  · obtain ⟨work, crosses, rfl⟩ := List.mem_map.mp inside
    cases work with
    | updateMessageStatus id status updates => exact fun same => apart status updates (same ▸ crosses)
    | _ => trivial
  · obtain rfl := Option.some.inj (found.symm.trans there)
    exact unread
  · intro task inside
    obtain ⟨work, -, rfl⟩ := List.mem_map.mp inside
    cases work <;> exact List.forall_mem_nil _
  · exact ⟨.listConversation conversationId, List.mem_map_of_mem listed, covers⟩

/-- No receipt is lost in any order exactly if all its readers were shown before, or are marked. -/
theorem noneLost_iff (member : message ∈ store.records) :
    NoneLost store userId works message ↔ ∀ readerId timestamp,
      Handling.markMessageAsRead message.messageId readerId timestamp ∈ works →
        Shown store userId works message readerId := by
  have underway := inFlight_underway store userId works
  constructor
  · intro none readerId timestamp received
    obtain ⟨schedule, finished⟩ := inFlight_finishes store userId works
    obtain ⟨final, found, once⟩ := none schedule finished readerId timestamp received
    by_cases fixed : readerId ≠ userId ∨ readerId ∈ message.readBy
    · have steady := (count_steady store userId works message readerId member fixed).interleave schedule
      exact .inl ((steady.stored final found).symm.trans once)
    · obtain ⟨rfl, unread⟩ : readerId = userId ∧ readerId ∉ message.readBy := by
        rwa [not_or, not_not] at fixed
      refine .inr ⟨unread, rfl, by_contra fun apart => ?_, fun status updates listed => ?_⟩
      · have elsewhere : ∀ conversationId, Handling.markConversationAsRead conversationId ∈ works →
            ¬ Covers store message.id conversationId :=
          fun conversationId listed covers => apart ⟨conversationId, listed, covers⟩
        have steady := inFlight_steady store readerId works message (readerId ∉ ·) member unread (.inr elsewhere)
        have absent := (steady.interleave schedule).stored final found
        rw [List.count_eq_zero_of_not_mem absent] at once
        exact nomatch once
      · obtain ⟨bad, ended, undone⟩ := update_overwrites store readerId works message member status updates listed
        obtain ⟨last, there, again⟩ := none bad ended readerId timestamp received
        rw [undone last there, List.count_eq_zero_of_not_mem unread] at again
        exact nomatch again
  · intro shown schedule finished readerId timestamp received
    obtain ⟨final, found⟩ := (underway.interleave schedule).present message member
    refine ⟨final, found, ?_⟩
    rcases shown readerId timestamp received with once | ⟨unread, rfl, ⟨conversationId, listed, covers⟩, apart⟩
    · have fixed : readerId ∈ message.readBy := List.count_pos_iff.mp (once ▸ Nat.zero_lt_one)
      have steady := count_steady store userId works message readerId member (.inr fixed)
      exact ((steady.interleave schedule).stored final found).trans once
    · have marking := mark_stays store readerId works message member unread conversationId listed covers apart
      have marked : readerId ∈ final.readBy := by
        rcases (marking.interleave schedule).marked with marked | ⟨-, -, task, inside, comes⟩
        · exact marked final found
        · rw [finished task inside] at comes
          exact comes.elim
      have grows : ∀ readers : List Nat, readers.count readerId ≤ 1 → readerId ∉ readers →
          (readers ++ [readerId]).count readerId ≤ 1 := by
        intro readers _ other
        rw [List.count_append, List.count_eq_zero_of_not_mem other, List.count_singleton_self]
      have none : message.readBy.count readerId ≤ 1 := by
        rw [List.count_eq_zero_of_not_mem unread]
        exact Nat.zero_le 1
      have steady := inFlight_steady store readerId works message (·.count readerId ≤ 1) member none (.inl grows)
      exact Nat.le_antisymm ((steady.interleave schedule).stored final found) (List.count_pos_iff.mpr marked)

end Receipts

/-- A message that the user 1 has sent to the user 4, and who has read it. -/
def sentMessage (readBy : List Nat) : OfflineRecord :=
  let draft : Draft := ⟨none, 7, .user 4, 1, 4, none, msgChatTextSend, .text "a", false, 1700000000000⟩
  { draftRecord draft 3 1700000000000 with
    status := .sent
    readBy := readBy }

def sentStore (readBy : List Nat) : MessageStore where
  records := [sentMessage readBy]
  ordered := List.pairwise_singleton _ _
  distinct := by
    intro first one second two
    rw [List.mem_singleton.mp one, List.mem_singleton.mp two]
    exact .inl rfl

/-- A second receipt of a reader loses nothing. -/
theorem noneLost_shown_reader :
    NoneLost (sentStore [4]) 1 [.markMessageAsRead 7 4 1700000060000] (sentMessage [4]) := by
  refine (noneLost_iff _ _ _ _ (List.mem_singleton_self _)).mpr fun readerId timestamp received => ?_
  obtain ⟨-, rfl, -⟩ : 7 = 7 ∧ readerId = 4 ∧ timestamp = 1700000060000 := by
    simpa [sentMessage, draftRecord] using received
  exact .inl rfl

/-- The first receipt of a message is lost, whatever else happens. -/
theorem noneLost_loses_first :
    ¬ NoneLost (sentStore []) 1 [.markMessageAsRead 7 4 1700000060000] (sentMessage []) := by
  intro none
  obtain ⟨final, found, once⟩ := none [(0, noAnswer)] (by decide) 4 1700000060000 List.mem_cons_self
  obtain rfl : sentMessage [] = final := Option.some.inj found
  exact absurd once (by decide)

/-- Even where two receipts have found the message, the one that is saved last undoes the other one. -/
theorem receipts_overwrite (store : MessageStore) (userId first second early late : Nat) (message : OfflineRecord)
    (found : store.get message.id = some message) (unread : first ∉ message.readBy) (other : first ≠ second)
    (answer : Answer) : ∀ final, ((⟨store, [.saveReceipt (withReader first early message),
        .saveReceipt (withReader second late message)], userId⟩ : OfflineState).interleave
          [(0, answer), (1, answer)]).store.get message.id = some final → first ∉ final.readBy := by
  obtain ⟨middle, stored⟩ : ∃ middle, store.put (withReader first early message) = some middle :=
    ObjectStore.put_again found rfl
  have between : middle.get message.id = some (withReader first early message) :=
    (ObjectStore.get_put stored message.id).trans (if_pos rfl)
  obtain ⟨last, written⟩ : ∃ last, middle.put (withReader second late message) = some last :=
    ObjectStore.put_again between rfl
  have latest : last.get message.id = some (withReader second late message) :=
    (ObjectStore.get_put written message.id).trans (if_pos rfl)
  intro final there
  have saved : ((⟨store, [.saveReceipt (withReader first early message),
      .saveReceipt (withReader second late message)], userId⟩ : OfflineState).interleave
        [(0, answer), (1, answer)]).store = last := by
    show (saveMessage ((saveMessage store _).getD store) _).getD _ = last
    rw [saveMessage, saveMessage, stored, Option.getD_some, written, Option.getD_some]
  rw [saved, latest] at there
  obtain rfl := Option.some.inj there
  intro member
  have shown : first ∈ (if second ∈ message.readBy then message.readBy else message.readBy ++ [second]) := member
  split at shown
  · exact unread shown
  · rcases List.mem_append.mp shown with old | new
    · exact unread old
    · exact other (List.mem_singleton.mp new)

end SecureChat.Web
