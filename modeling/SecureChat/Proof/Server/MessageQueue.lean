import Mathlib.Data.Nat.ModEq
import SecureChat.Construction.Server.MessageQueue
import SecureChat.Library.Ring

namespace SecureChat.Server
open Library

variable {Message : Type}

/-- The messages of the successful push calls, in their order. -/
def pushedMessages (events : List (QueueEvent Message)) : List Message :=
  events.filterMap fun
    | .pushReturned _ message 0 => message
    | _ => none

/-- The messages that pop calls have returned, in their order. -/
def poppedMessages (events : List (QueueEvent Message)) : List Message :=
  events.filterMap fun
    | .popReturned _ message => message
    | _ => none

/-- The messages that pop calls have returned and those that clear calls have freed, in their order. -/
def departedMessages (events : List (QueueEvent Message)) : List Message :=
  events.filterMap fun
    | .popReturned _ message => message
    | .freed message => some message
    | _ => none

/-- The pointers between head and tail. -/
def MessageQueue.content (queue : MessageQueue Message) : List (Option Message) :=
  (List.range queue.count).map fun i => queue.messages[(queue.head + i) % queue.capacity]?.join

@[simp] theorem pushedMessages_append (first second : List (QueueEvent Message)) :
    pushedMessages (first ++ second) = pushedMessages first ++ pushedMessages second :=
  List.filterMap_append

@[simp] theorem departedMessages_append (first second : List (QueueEvent Message)) :
    departedMessages (first ++ second) = departedMessages first ++ departedMessages second :=
  List.filterMap_append

@[simp] theorem pushedMessages_freed (messages : List Message) :
    pushedMessages (messages.map QueueEvent.freed) = [] := by
  rw [pushedMessages, List.filterMap_map]
  exact List.filterMap_eq_nil_iff.mpr fun _ _ => rfl

@[simp] theorem departedMessages_freed (messages : List Message) :
    departedMessages (messages.map QueueEvent.freed) = messages := by
  rw [departedMessages, List.filterMap_map]
  exact List.filterMap_some

/-- Every popped message has left the queue. -/
theorem poppedMessages_sublist (events : List (QueueEvent Message)) :
    (poppedMessages events).Sublist (departedMessages events) := by
  induction events with
  | nil => exact List.Sublist.refl _
  | cons event events ih =>
      have split : ∀ rest : List (QueueEvent Message), event :: rest = [event] ++ rest := fun _ => rfl
      rw [split, departedMessages_append, poppedMessages, List.filterMap_append]
      apply List.Sublist.append _ ih
      cases event with
      | pushReturned thread message code => exact List.Sublist.refl _
      | popReturned thread message => exact List.Sublist.refl _
      | freed message => exact List.nil_sublist _

/-- The array is a ring that holds the messages between head and tail. -/
structure QueueHolds (capacity : Nat) (queue : MessageQueue Message) (content : List Message) : Prop where
  bound : queue.capacity = capacity
  length : queue.messages.length = capacity
  counted : queue.count = content.length
  ring : Ring queue.messages queue.tail queue.head (content.map some)

namespace QueueHolds

variable {capacity : Nat} {queue : MessageQueue Message} {content : List Message}

theorem create (positive : 0 < capacity) :
    QueueHolds capacity (messageQueueCreate capacity : MessageQueue Message) [] where
  bound := rfl
  length := List.length_replicate
  counted := rfl
  ring := Ring.empty _ (by rwa [messageQueueCreate, List.length_replicate])

theorem count_le (holds : QueueHolds capacity queue content) : queue.count ≤ capacity := by
  have within := holds.ring.within
  rwa [List.length_map, holds.length, ← holds.counted] at within

theorem tail_eq (holds : QueueHolds capacity queue content) :
    queue.tail = (queue.head + queue.count) % capacity := by
  have behind := holds.ring.behind
  rwa [List.length_map, holds.length, ← holds.counted] at behind

/-- Each message lies behind the head at its own place of the order. -/
theorem cell (holds : QueueHolds capacity queue content) (i : Nat) (inside : i < content.length) :
    queue.messages[(queue.head + i) % queue.capacity]?.join = content[i]? := by
  have placed := holds.ring.getElem? i (by rwa [List.length_map])
  rw [holds.length, ← holds.bound] at placed
  rw [placed, List.getElem?_map, List.getElem?_eq_getElem inside]
  rfl

theorem content_eq (holds : QueueHolds capacity queue content) :
    queue.content = content.map some := by
  apply List.ext_getElem?
  intro i
  by_cases inside : i < content.length
  · rw [MessageQueue.content, List.getElem?_map, List.getElem?_range (by rwa [holds.counted]),
      Option.map_some, holds.cell i inside, List.getElem?_map, List.getElem?_eq_getElem inside]
    rfl
  · rw [List.getElem?_eq_none, List.getElem?_eq_none]
    · rw [List.length_map]
      omega
    · rw [MessageQueue.content, List.length_map, List.length_range, holds.counted]
      omega

/-- A message that finds room becomes the last one. -/
theorem insertMessage (holds : QueueHolds capacity queue content) (message : Message)
    (room : queue.count < queue.capacity) :
    QueueHolds capacity (insertMessage queue message) (content ++ [message]) := by
  have place := holds.ring.head_lt
  have written := holds.ring.write [some message] place
  have spare : content.length < queue.messages.length := by
    rwa [holds.length, ← holds.bound, ← holds.counted]
  have same : memcpy queue.messages queue.tail [some message] =
      queue.messages.set queue.tail (some message) := by
    rw [memcpy, List.set_eq_take_append_cons_drop, if_pos place, List.append_assoc]
    rfl
  have full : content.length + 1 - queue.messages.length = 0 := by omega
  have short : (content.map some ++ [some message]).length ≤ queue.messages.length := by
    rw [List.length_append, List.length_map]
    exact spare
  rw [same, rtake_of_length_le _ _ short] at written
  rw [List.length_map, List.length_singleton, full, Nat.add_zero queue.head, Nat.mod_eq_of_lt holds.ring.first,
    holds.length] at written
  apply QueueHolds.mk
  · exact holds.bound
  · rw [Server.insertMessage, List.length_set, holds.length]
  · rw [Server.insertMessage, holds.counted, List.length_append, List.length_singleton]
  · rw [Server.insertMessage, holds.bound, List.map_append]
    exact written

/-- The first message leaves the queue. -/
theorem takeMessage (holds : QueueHolds capacity queue content) (waits : queue.count ≠ 0) :
    ∃ message rest, content = message :: rest ∧ (takeMessage queue).2 = some message ∧
      QueueHolds capacity (takeMessage queue).1 rest := by
  cases content with
  | nil => exact absurd holds.counted waits
  | cons message rest =>
      have first := holds.cell 0 (Nat.zero_lt_succ _)
      have advanced := holds.ring.advance 1 (by simp)
      have inside : queue.head < queue.capacity := by
        rw [holds.bound, ← holds.length]
        exact holds.ring.first
      rw [Nat.add_zero, Nat.mod_eq_of_lt inside] at first
      refine ⟨message, rest, rfl, first, ?_⟩
      apply QueueHolds.mk
      · exact holds.bound
      · exact holds.length
      · rw [Server.takeMessage, holds.counted]
        rfl
      · rw [Server.takeMessage, holds.bound, ← holds.length]
        exact advanced

end QueueHolds

/-- Freeing distinct cells frees the messages in them, in the order of the cells. -/
theorem freeMessages_freed (indices : List Nat) (messages : List (Option Message))
    (content : List Message) (distinct : indices.Nodup)
    (stored : indices.map (fun index => messages[index]?.join) = content.map some) :
    (freeMessages indices messages).2 = content ∧
      (freeMessages indices messages).1.length = messages.length := by
  induction indices generalizing messages content with
  | nil =>
      obtain rfl := List.map_eq_nil_iff.mp stored.symm
      exact ⟨rfl, rfl⟩
  | cons index rest ih =>
      cases content with
      | nil => cases stored
      | cons message content =>
          rw [List.map_cons, List.map_cons, List.cons.injEq] at stored
          rw [List.nodup_cons] at distinct
          have untouched : rest.map (fun other => (messages.set index none)[other]?.join) =
              content.map some := by
            rw [← stored.2]
            apply List.map_congr_left
            intro other member
            have apart : index ≠ other := by
              rintro rfl
              exact distinct.1 member
            rw [List.getElem?_set_ne apart]
          obtain ⟨freed, length⟩ := ih _ _ distinct.2 untouched
          rw [freeMessages, stored.1]
          rw [List.length_set] at length
          exact ⟨by rw [← freed], length⟩

/-- A clear call frees exactly the messages in the queue, and the queue is empty behind it. -/
theorem QueueHolds.clear {capacity : Nat} {queue : MessageQueue Message} {content : List Message}
    (holds : QueueHolds capacity queue content) :
    (messageQueueClear queue).2 = content ∧ QueueHolds capacity (messageQueueClear queue).1 [] := by
  have positive : 0 < queue.messages.length := Nat.zero_lt_of_lt holds.ring.first
  have within := holds.count_le
  have stored : ((List.range queue.count).map fun i => (queue.head + i) % queue.capacity).map
      (fun index => queue.messages[index]?.join) = content.map some := by
    rw [List.map_map, ← holds.content_eq]
    rfl
  have distinct : ((List.range queue.count).map
      fun i => (queue.head + i) % queue.capacity).Nodup := by
    apply List.Nodup.map_on _ List.nodup_range
    intro i first j second equal
    rw [List.mem_range] at first second
    have same : i % queue.capacity = j % queue.capacity := Nat.ModEq.add_left_cancel' queue.head equal
    rwa [holds.bound, Nat.mod_eq_of_lt (by omega), Nat.mod_eq_of_lt (by omega)] at same
  obtain ⟨freed, length⟩ := freeMessages_freed _ _ _ distinct stored
  refine ⟨freed, ?_⟩
  apply QueueHolds.mk
  · exact holds.bound
  · exact length.trans holds.length
  · rfl
  · exact Ring.empty _ (by rw [messageQueueClear, length]; exact positive)

/-- What has been pushed is what has left, followed by what the queue holds. -/
def QueueHistory (capacity : Nat) (state : QueueState Message) (events : List (QueueEvent Message)) :
    Prop :=
  ∃ content, QueueHolds capacity state.queue content ∧
    pushedMessages events = departedMessages events ++ content

/-- Events without a push and without a departure leave the balance as it is. -/
theorem QueueHistory.silent {capacity : Nat} {state next : QueueState Message}
    {events : List (QueueEvent Message)} (history : QueueHistory capacity state events)
    (added : List (QueueEvent Message)) (same : next.queue = state.queue)
    (kept : pushedMessages added = []) (stays : departedMessages added = []) :
    QueueHistory capacity next (events ++ added) := by
  obtain ⟨content, holds, balance⟩ := history
  refine ⟨content, same ▸ holds, ?_⟩
  rw [pushedMessages_append, departedMessages_append, kept, stays, List.append_nil, List.append_nil, balance]

theorem QueueHistory.attempt {capacity : Nat} {state : QueueState Message}
    {events : List (QueueEvent Message)} (history : QueueHistory capacity state events)
    (thread : Nat) (call : WaitingCall Message) :
    QueueHistory capacity (attempt state thread call).1 (events ++ (attempt state thread call).2) := by
  obtain ⟨content, holds, balance⟩ := id history
  cases call with
  | push message timeoutMs =>
      rw [Server.attempt]
      split
      · exact history.silent [] rfl rfl rfl
      · rename_i room
        refine ⟨content ++ [message], holds.insertMessage message (Nat.lt_of_not_le room), ?_⟩
        rw [pushedMessages_append, departedMessages_append, balance, List.append_assoc, List.append_assoc]
        rfl
  | pop timeoutMs =>
      rw [Server.attempt]
      split
      · exact history.silent [] rfl rfl rfl
      · rename_i waits
        obtain ⟨message, rest, rfl, taken, kept⟩ := holds.takeMessage waits
        refine ⟨rest, kept, ?_⟩
        change pushedMessages (events ++ [.popReturned thread (Server.takeMessage state.queue).2]) =
          departedMessages (events ++ [.popReturned thread (Server.takeMessage state.queue).2]) ++ rest
        rw [pushedMessages_append, departedMessages_append, balance, taken, List.append_assoc]
        simp [pushedMessages, departedMessages]

/-- Every step between two holders of the mutex keeps the balance of the queue. -/
theorem QueueHistory.step {capacity : Nat} (state : QueueState Message) (input : QueueInput Message)
    (events : List (QueueEvent Message)) (history : QueueHistory capacity state events) :
    QueueHistory capacity (queueMachine.step state input).1
      (events ++ (queueMachine.step state input).2) := by
  have idle : QueueHistory capacity state (events ++ []) := history.silent [] rfl rfl rfl
  simp only [queueMachine]
  cases input with
  | push thread message timeoutMs =>
      rw [queueStep]
      split
      · exact idle
      · cases message with
        | none => exact history.silent _ rfl rfl rfl
        | some message => exact history.attempt thread _
  | pop thread timeoutMs =>
      rw [queueStep]
      split
      · exact idle
      · exact history.attempt thread _
  | wake thread =>
      rw [queueStep]
      split
      · exact idle
      · exact history.attempt thread _
  | expire thread =>
      rw [queueStep]
      split
      · exact idle
      · rename_i call sleeps
        split
        · cases call with
          | push message timeoutMs => exact history.silent _ rfl rfl rfl
          | pop timeoutMs => exact history.silent _ rfl rfl rfl
        · exact idle
  | clear =>
      obtain ⟨content, holds, balance⟩ := history
      obtain ⟨freed, cleared⟩ := holds.clear
      rw [queueStep]
      refine ⟨[], cleared, ?_⟩
      change pushedMessages (events ++ (messageQueueClear state.queue).2.map .freed) =
        departedMessages (events ++ (messageQueueClear state.queue).2.map .freed) ++ []
      rw [freed, pushedMessages_append, departedMessages_append, balance]
      simp

theorem queueStart_history {capacity : Nat} (positive : 0 < capacity) :
    QueueHistory capacity (queueStart capacity : QueueState Message) [] :=
  ⟨[], QueueHolds.create positive, rfl⟩

/-- The message queue is a bounded first-in first-out queue under every interleaving. -/
theorem queueMachine_boundedFifo [DecidableEq Message] (capacity : Nat) (positive : 0 < capacity)
    (inputs : List (QueueInput Message)) :
    (∀ state ∈ queueMachine.states (queueStart capacity) inputs,
      state.queue.count ≤ capacity ∧
        state.queue.tail = (state.queue.head + state.queue.count) % capacity) ∧
      (pushedMessages (queueMachine.run (queueStart capacity) inputs).2).map some =
        (departedMessages (queueMachine.run (queueStart capacity) inputs).2).map some ++
          (queueMachine.run (queueStart capacity) inputs).1.queue.content ∧
      (poppedMessages (queueMachine.run (queueStart capacity) inputs).2).Sublist
        (pushedMessages (queueMachine.run (queueStart capacity) inputs).2) ∧
      ∀ message, (poppedMessages (queueMachine.run (queueStart capacity) inputs).2).count message ≤
        (pushedMessages (queueMachine.run (queueStart capacity) inputs).2).count message := by
  have visited := queueMachine.states_always (fun state => ∃ events, QueueHistory capacity state events)
    (fun state input history => ⟨_, history.choose_spec.step state input _⟩) _ inputs
    ⟨[], queueStart_history positive⟩
  have final := queueMachine.history_always (QueueHistory capacity)
    (fun state input events history => history.step state input events) _ inputs [] (queueStart_history positive)
  rw [List.nil_append] at final
  obtain ⟨content, holds, balance⟩ := final
  have ordered : (poppedMessages (queueMachine.run (queueStart capacity) inputs).2).Sublist
      (pushedMessages (queueMachine.run (queueStart capacity) inputs).2) := by
    rw [balance]
    exact (poppedMessages_sublist _).trans (List.sublist_append_left _ _)
  refine ⟨?_, ?_, ordered, fun message => ordered.count_le message⟩
  · intro state member
    obtain ⟨events, content, kept, -⟩ := visited state member
    exact ⟨kept.count_le, kept.tail_eq⟩
  · rw [balance, List.map_append, holds.content_eq]

/-- A producer waits for room, a consumer makes it, and the rest is cleared. -/
theorem queueMachine_boundedFifo_interleaving :
    0 < 1 ∧ (poppedMessages (queueMachine.run (queueStart 1) [.push 0 (some 7) 0, .push 1 (some 8) 5,
      .pop 2 0, .wake 1, .clear]).2).Sublist (pushedMessages (queueMachine.run (queueStart 1)
        [.push 0 (some 7) 0, .push 1 (some 8) 5, .pop 2 0, .wake 1, .clear]).2) :=
  ⟨by decide, (queueMachine_boundedFifo 1 (by decide) _).2.2.1⟩

end SecureChat.Server
