import SecureChat.Construction.Web.Promises
import SecureChat.Proof.Web.PendingMessages

namespace SecureChat.Web
open Library

namespace SecureChatWebSocket

section Kept

variable (client : SecureChatWebSocket)

/-- The waiting messages, and the number for the next call that expects a response. -/
def ledger : List Message × Int := (client.pendingMessages, client.nextCorrelationId)

theorem retry_ledger : client.retry.ledger = client.ledger := by
  unfold retry
  split <;> rfl

theorem reject_ledger (socket : Nat) : (client.reject socket).ledger = client.ledger := by
  unfold reject
  split
  · rfl
  · dsimp only
    split
    · exact retry_ledger _
    · rfl

theorem connect_ledger (retries created : Bool) : (client.connect retries created).ledger = client.ledger := by
  unfold connect
  split
  · split
    · exact client.retry_ledger
    · rfl
  · dsimp only
    split
    · rfl
    · split
      · exact retry_ledger _
      · rfl

theorem onConnectTimeout_ledger (socket : Nat) : (client.onConnectTimeout socket).ledger = client.ledger := by
  unfold onConnectTimeout
  dsimp only
  split
  · rw [reject_ledger]
    split <;> rfl
  · rfl

theorem onclose_ledger (socket code : Nat) : (client.onclose socket code).ledger = client.ledger := by
  unfold onclose
  dsimp only
  split
  · rfl
  · split <;> rfl

theorem onerror_ledger (socket : Nat) : ((client.closeSocket socket).onerror socket).ledger = client.ledger :=
  reject_ledger _ socket

theorem handleMessage_ledger (rawData : List UInt8) : (client.handleMessage rawData).ledger = client.ledger := by
  unfold handleMessage
  split
  · rfl
  · split
    · rfl
    · split
      · rfl
      · split <;> rfl

theorem disconnect_ledger : client.disconnect.ledger = ([], client.nextCorrelationId) := by
  unfold disconnect
  split <;> rfl

/-- What a `sendMessage` call does with the client, by what becomes of the message. -/
structure Sends (clock : Int → Int) (expectResponse : Bool) (message : Message) (next : SecureChatWebSocket) :
    Prop where
  socket : next.socket = client.socket
  state : next.state = client.state
  sockets : next.sockets = client.sockets
  pending : next.pendingMessages =
    client.pendingMessages ++ if client.delivery expectResponse = .waits then [message] else []
  numbers : next.nextCorrelationId = client.nextCorrelationId +
    if client.delivery expectResponse = .waits then 0 else if expectResponse then 1 else 0

theorem sendMessage_sends (clock : Int → Int) (expectResponse : Bool) (message : Message) :
    Sends client clock expectResponse message (client.sendMessage clock expectResponse message).1 := by
  by_cases waits : client.socket = none ∨ client.state ≠ .connected
  · have delivered : client.delivery expectResponse = .waits := by
      unfold delivery
      split
      · rfl
      · rename_i socket current
        exact if_pos (waits.resolve_left (current ▸ Option.some_ne_none socket))
    rw [sendMessage_waits clock client message expectResponse waits]
    refine ⟨rfl, rfl, rfl, ?_, ?_⟩
    · rw [if_pos delivered]
    · rw [if_pos delivered, Int.add_zero]
  · obtain ⟨held, connected⟩ := not_or.mp waits
    obtain ⟨socket, current⟩ := Option.ne_none_iff_exists'.mp held
    have delivered : client.delivery expectResponse ≠ .waits := by
      rw [delivery, current]
      dsimp only
      rw [if_neg connected]
      split
      · exact nofun
      · split <;> exact nofun
    obtain ⟨same, -⟩ := sendMessage_connected clock client socket message expectResponse current
      (not_not.mp connected)
    refine ⟨same.socket, same.state, same.sockets, ?_, ?_⟩
    · rw [same.pending, if_neg delivered, List.append_nil]
    · rw [if_neg delivered, sendMessage, current]
      dsimp only
      rw [if_neg connected]
      split <;> rfl

/-- Only a message that expects a response leaves its promise in the map. -/
theorem delivery_awaits (expectResponse : Bool) (awaits : client.delivery expectResponse = .awaits) :
    expectResponse = true := by
  unfold delivery at awaits
  split at awaits
  · exact nomatch awaits
  · split at awaits
    · exact nomatch awaits
    · split at awaits
      · exact nomatch awaits
      · split at awaits
        · rename_i expects
          exact expects.1
        · exact nomatch awaits

/-- A message that was sent and is not waited for expects no response. -/
theorem delivery_sent (expectResponse : Bool) (positive : 1 ≤ client.nextCorrelationId)
    (sent : client.delivery expectResponse = .sent) : expectResponse = false := by
  unfold delivery at sent
  split at sent
  · exact nomatch sent
  · split at sent
    · exact nomatch sent
    · split at sent
      · exact nomatch sent
      · split at sent
        · exact nomatch sent
        · rename_i other
          cases expectResponse with
          | true => exact absurd ⟨rfl, by omega⟩ other
          | false => rfl

end Kept

end SecureChatWebSocket

namespace Exchange

/-- Where the promise of each call is: it waits with its message, it waits for a response, or it is settled. -/
def places (exchange : Exchange) : List Nat :=
  exchange.client.pendingMessages.map (·.call) ++ exchange.correlationMap.map Prod.snd ++
    exchange.settled.map Prod.fst

/-- The numbers of the map are its own, and each entry was assigned and has a timer.
A response settles one promise. -/
structure Tidy (exchange : Exchange) : Prop where
  positive : 1 ≤ exchange.client.nextCorrelationId
  keys : (exchange.correlationMap.map Prod.fst).Nodup
  fresh : ∀ entry ∈ exchange.correlationMap, entry.1 < exchange.client.nextCorrelationId
  armed : ∀ entry ∈ exchange.correlationMap, entry.1 ∈ exchange.responseTimers
  owned : ∀ entry ∈ exchange.correlationMap, entry ∈ exchange.assigned
  past : ∀ call number body, (call, Outcome.response number body) ∈ exchange.settled →
    number < exchange.received.length
  single : exchange.settled.Pairwise fun first second => ∀ number one other,
    first.2 = .response number one → second.2 ≠ .response number other

/-- A promise is in one place only, and only known calls have one. -/
structure Counted (exchange : Exchange) : Prop where
  apart : exchange.places.Nodup
  known : ∀ call ∈ exchange.places, call < exchange.calls
  expected : ∀ call ∈ exchange.expecting, call < exchange.calls

/-- What becomes of the promise of one message. -/
inductive Posted (exchange : Exchange) (expectResponse : Bool) (message : Message) : Exchange → Prop where
  | waits (next : SecureChatWebSocket) (delivered : exchange.client.delivery expectResponse = .waits)
      (pending : next.pendingMessages = exchange.client.pendingMessages ++ [message])
      (numbers : next.nextCorrelationId = exchange.client.nextCorrelationId) :
      Posted exchange expectResponse message { exchange with client := next }
  | settles (next : SecureChatWebSocket) (assigned : List (Int × Nat)) (outcome : Outcome)
      (delivered : exchange.client.delivery expectResponse = .throws ∧ outcome = .rejected ∨
        exchange.client.delivery expectResponse = .sent ∧ outcome = .null)
      (pending : next.pendingMessages = exchange.client.pendingMessages)
      (numbers : exchange.client.nextCorrelationId ≤ next.nextCorrelationId)
      (grown : exchange.assigned ⊆ assigned) :
      Posted exchange expectResponse message
        (settle { exchange with client := next, assigned := assigned } message.call outcome)
  | awaits (next : SecureChatWebSocket) (delivered : exchange.client.delivery expectResponse = .awaits)
      (pending : next.pendingMessages = exchange.client.pendingMessages)
      (numbers : next.nextCorrelationId = exchange.client.nextCorrelationId + 1) :
      Posted exchange expectResponse message { exchange with
        client := next
        assigned := exchange.assigned ++ [(exchange.client.nextCorrelationId, message.call)]
        correlationMap := exchange.correlationMap ++ [(exchange.client.nextCorrelationId, message.call)]
        responseTimers := exchange.responseTimers ++ [exchange.client.nextCorrelationId] }

theorem sendMessage_posted (exchange : Exchange) (clock : Int → Int) (expectResponse : Bool) (message : Message) :
    Posted exchange expectResponse message (exchange.sendMessage clock expectResponse message) := by
  obtain ⟨-, -, -, pending, numbers⟩ := exchange.client.sendMessage_sends clock expectResponse message
  have settled : ∀ outcome, exchange.client.delivery expectResponse = .throws ∧ outcome = .rejected ∨
      exchange.client.delivery expectResponse = .sent ∧ outcome = .null →
      exchange.client.delivery expectResponse ≠ .waits → Posted exchange expectResponse message
        (settle (if expectResponse then { exchange with
            client := (exchange.client.sendMessage clock expectResponse message).1
            assigned := exchange.assigned ++ [(exchange.client.nextCorrelationId, message.call)] }
          else { exchange with client := (exchange.client.sendMessage clock expectResponse message).1 })
          message.call outcome) := by
    intro outcome delivered other
    rw [if_neg other, List.append_nil] at pending
    rw [if_neg other] at numbers
    cases expectResponse with
    | true => exact .settles _ _ outcome delivered pending (by rw [numbers]; omega) (List.subset_append_left _ _)
    | false => exact .settles _ _ outcome delivered pending (by rw [numbers]; omega) (List.Subset.refl _)
  rw [sendMessage]
  dsimp only
  cases delivered : exchange.client.delivery expectResponse with
  | waits =>
      rw [if_pos delivered] at pending numbers
      exact .waits _ delivered pending (numbers.trans (Int.add_zero _))
  | throws => exact settled .rejected (.inl ⟨delivered, rfl⟩) (delivered ▸ nofun)
  | sent => exact settled .null (.inr ⟨delivered, rfl⟩) (delivered ▸ nofun)
  | awaits =>
      have other : exchange.client.delivery expectResponse ≠ .waits := delivered ▸ nofun
      obtain rfl := exchange.client.delivery_awaits expectResponse delivered
      rw [if_neg other, List.append_nil] at pending
      rw [if_neg other] at numbers
      exact .awaits _ delivered pending numbers

namespace Posted

variable {exchange next : Exchange} {expectResponse : Bool} {message : Message}

/-- The promise of a message is put in one place. -/
theorem places (posted : Posted exchange expectResponse message next) :
    next.places.Perm (exchange.places ++ [message.call]) := by
  have moved : ∀ waiting mapped settled : List Nat,
      ((waiting ++ [message.call]) ++ mapped ++ settled).Perm (waiting ++ mapped ++ settled ++ [message.call]) ∧
      (waiting ++ (mapped ++ [message.call]) ++ settled).Perm
        (waiting ++ mapped ++ settled ++ [message.call]) := by
    intro waiting mapped settled
    constructor <;> exact List.perm_iff_count.mpr fun call => by simp only [List.count_append]; omega
  cases posted with
  | waits client delivered pending numbers =>
      unfold Exchange.places
      rw [pending, List.map_append]
      exact (moved _ _ _).1
  | settles client assigned outcome delivered pending numbers grown =>
      unfold Exchange.places settle
      rw [pending, List.map_append, ← List.append_assoc]
      exact .refl _
  | awaits client delivered pending numbers =>
      unfold Exchange.places
      rw [pending, List.map_append]
      exact (moved _ _ _).2

theorem tidy (posted : Posted exchange expectResponse message next) (tidy : exchange.Tidy) : next.Tidy := by
  cases posted with
  | waits client delivered pending numbers =>
      refine ⟨numbers ▸ tidy.positive, tidy.keys, fun entry member => ?_, tidy.armed, tidy.owned, tidy.past,
        tidy.single⟩
      rw [numbers]
      exact tidy.fresh entry member
  | settles client assigned outcome delivered pending numbers grown =>
      have silent : ∀ number body, outcome ≠ .response number body := by
        rcases delivered with ⟨-, rfl⟩ | ⟨-, rfl⟩ <;> exact fun _ _ => nofun
      refine ⟨tidy.positive.trans numbers, tidy.keys,
        fun entry member => (tidy.fresh entry member).trans_le numbers, tidy.armed,
        fun entry member => grown (tidy.owned entry member), fun call number body member => ?_, ?_⟩
      · rcases List.mem_append.mp member with old | new
        · exact tidy.past call number body old
        · obtain ⟨-, same⟩ := Prod.mk.inj (List.mem_singleton.mp new)
          exact absurd same.symm (silent number body)
      · refine List.pairwise_append.mpr ⟨tidy.single, List.pairwise_singleton _ _, fun first _ second new => ?_⟩
        obtain rfl := List.mem_singleton.mp new
        exact fun number _ other _ => silent number other
  | awaits client delivered pending numbers =>
      have later : exchange.client.nextCorrelationId < client.nextCorrelationId := by
        rw [numbers]
        exact Int.lt_succ _
      refine ⟨tidy.positive.trans later.le, ?_, ?_, ?_, ?_, tidy.past, tidy.single⟩
      · rw [List.map_append, List.nodup_append]
        refine ⟨tidy.keys, List.pairwise_singleton _ _, fun key old other new => ?_⟩
        obtain ⟨entry, member, rfl⟩ := List.mem_map.mp old
        obtain rfl := List.mem_singleton.mp new
        exact (tidy.fresh entry member).ne
      · exact List.forall_mem_append.mpr ⟨fun entry member => (tidy.fresh entry member).trans later,
          List.forall_mem_singleton.mpr later⟩
      · exact List.forall_mem_append.mpr ⟨fun entry member => List.mem_append_left _ (tidy.armed entry member),
          List.forall_mem_singleton.mpr (List.mem_append_right _ List.mem_cons_self)⟩
      · exact List.forall_mem_append.mpr ⟨fun entry member => List.mem_append_left _ (tidy.owned entry member),
          List.forall_mem_singleton.mpr (List.mem_append_right _ List.mem_cons_self)⟩

/-- Nothing else of the client changes. -/
theorem frame (posted : Posted exchange expectResponse message next) : next.calls = exchange.calls ∧
    next.expecting = exchange.expecting ∧ next.received = exchange.received ∧
    exchange.assigned ⊆ next.assigned ∧ exchange.settled ⊆ next.settled := by
  cases posted with
  | waits client delivered pending numbers => exact ⟨rfl, rfl, rfl, List.Subset.refl _, List.Subset.refl _⟩
  | settles client assigned outcome delivered pending numbers grown =>
      exact ⟨rfl, rfl, rfl, grown, List.subset_append_left _ _⟩
  | awaits client delivered pending numbers =>
      exact ⟨rfl, rfl, rfl, List.subset_append_left _ _, List.Subset.refl _⟩

end Posted

section Sending

variable (clock : Int → Int)

theorem sendAll_cons (exchange : Exchange) (message : Message) (expectResponse : Bool)
    (rest : List (Message × Bool)) : exchange.sendAll clock ((message, expectResponse) :: rest) =
      (exchange.sendMessage clock expectResponse message).sendAll clock rest := rfl

theorem sendAll_places (exchange : Exchange) (messages : List (Message × Bool)) :
    (exchange.sendAll clock messages).places.Perm (exchange.places ++ messages.map (·.1.call)) := by
  induction messages generalizing exchange with
  | nil =>
      rw [List.map_nil, List.append_nil]
      exact .refl _
  | cons entry rest ih =>
      have first := (exchange.sendMessage_posted clock entry.2 entry.1).places
      rw [sendAll_cons, List.map_cons, ← List.singleton_append, ← List.append_assoc]
      exact (ih _).trans (first.append_right _)

theorem sendAll_tidy (exchange : Exchange) (messages : List (Message × Bool)) (tidy : exchange.Tidy) :
    (exchange.sendAll clock messages).Tidy := by
  induction messages generalizing exchange with
  | nil => exact tidy
  | cons entry rest ih => exact ih _ ((exchange.sendMessage_posted clock entry.2 entry.1).tidy tidy)

theorem sendAll_frame (exchange : Exchange) (messages : List (Message × Bool)) :
    (exchange.sendAll clock messages).calls = exchange.calls ∧
      (exchange.sendAll clock messages).expecting = exchange.expecting ∧
      (exchange.sendAll clock messages).received = exchange.received ∧
      exchange.assigned ⊆ (exchange.sendAll clock messages).assigned ∧
      exchange.settled ⊆ (exchange.sendAll clock messages).settled := by
  induction messages generalizing exchange with
  | nil => exact ⟨rfl, rfl, rfl, List.Subset.refl _, List.Subset.refl _⟩
  | cons entry rest ih =>
      obtain ⟨calls, expecting, received, assigned, settled⟩ :=
        (exchange.sendMessage_posted clock entry.2 entry.1).frame
      obtain ⟨more, others, came, given, done⟩ := ih (exchange.sendMessage clock entry.2 entry.1)
      exact ⟨more.trans calls, others.trans expecting, came.trans received, List.Subset.trans assigned given,
        List.Subset.trans settled done⟩

/-- Both models of the client do the same with its messages. -/
theorem sendMessage_client (exchange : Exchange) (expectResponse : Bool) (message : Message) :
    (exchange.sendMessage clock expectResponse message).client =
      (exchange.client.sendMessage clock expectResponse message).1 := by
  rw [sendMessage]
  dsimp only
  cases exchange.client.delivery expectResponse <;> cases expectResponse <;> rfl

theorem sendAll_client (exchange : Exchange) (messages : List (Message × Bool)) :
    (exchange.sendAll clock messages).client = (exchange.client.sendAll clock messages).1 := by
  induction messages generalizing exchange with
  | nil => rfl
  | cons entry rest ih =>
      have first := exchange.sendMessage_client clock entry.2 entry.1
      rw [sendAll_cons, ih, first]
      rfl

end Sending

/-- A new state of the client without an effect on the promises. -/
theorem Tidy.client {exchange : Exchange} (tidy : exchange.Tidy) (next : SecureChatWebSocket)
    (same : next.nextCorrelationId = exchange.client.nextCorrelationId) : Tidy { exchange with client := next } :=
  ⟨same ▸ tidy.positive, tidy.keys, fun entry member => same ▸ tidy.fresh entry member, tidy.armed, tidy.owned,
    tidy.past, tidy.single⟩

theorem places_client (exchange : Exchange) (next : SecureChatWebSocket)
    (same : next.pendingMessages = exchange.client.pendingMessages) :
    places { exchange with client := next } = exchange.places := by
  unfold places
  rw [same]

/-- The entry that a number finds is all that goes with the number. -/
theorem lookup_perm (entries : List (Int × Nat)) (keys : (entries.map Prod.fst).Nodup) (key : Int) (call : Nat)
    (found : entries.lookup key = some call) :
    (entries.filter (·.1 ≠ key) ++ [(key, call)]).Perm entries := by
  induction entries with
  | nil => exact nomatch found
  | cons entry rest ih =>
      obtain ⟨other, value⟩ := entry
      obtain ⟨apart, distinct⟩ := List.nodup_cons.mp keys
      rw [List.lookup_cons] at found
      by_cases same : key = other
      · subst same
        have head : call = value := by simpa using found.symm
        have others : rest.filter (·.1 ≠ key) = rest := List.filter_eq_self.mpr fun entry member =>
          decide_eq_true fun equal => apart (List.mem_map.mpr ⟨entry, member, equal⟩)
        rw [List.filter_cons_of_neg (by simp), others, head]
        exact List.perm_append_singleton _ _
      · have later : rest.lookup key = some call := by
          rw [beq_false_of_ne same] at found
          exact found
        rw [List.filter_cons_of_pos (by simpa using Ne.symm same)]
        exact (ih distinct later).cons _

/-- Some new calls have a promise each, and all others have kept theirs. -/
structure Moves (exchange next : Exchange) (count : Nat) : Prop where
  places : next.places.Perm (exchange.places ++ List.range' exchange.calls count)
  calls : next.calls = exchange.calls + count
  expecting : ∀ call ∈ next.expecting, call ∈ exchange.expecting ∨ call ∈ List.range' exchange.calls count

theorem Moves.still {exchange next : Exchange} (places : next.places.Perm exchange.places)
    (calls : next.calls = exchange.calls) (expecting : next.expecting = exchange.expecting) :
    Moves exchange next 0 := by
  refine ⟨?_, calls, fun call member => .inl (expecting ▸ member)⟩
  rw [List.range'_zero, List.append_nil]
  exact places

theorem Moves.trans {first second third : Exchange} {early late : Nat} (before : Moves first second early)
    (after : Moves second third late) : Moves first third (early + late) := by
  have joined : List.range' first.calls early ++ List.range' second.calls late =
      List.range' first.calls (early + late) := by
    rw [before.calls]
    exact List.range'_append_1
  refine ⟨?_, by rw [after.calls, before.calls, Nat.add_assoc], fun call member => ?_⟩
  · rw [← joined, ← List.append_assoc]
    exact after.places.trans (before.places.append_right _)
  · rw [← joined]
    rcases after.expecting call member with old | new
    · exact (before.expecting call old).imp_right (List.mem_append_left _)
    · exact .inr (List.mem_append_right _ new)

theorem Counted.moves {exchange next : Exchange} {count : Nat} (counted : exchange.Counted)
    (moves : Moves exchange next count) : next.Counted := by
  have bounded : ∀ call ∈ exchange.places ++ List.range' exchange.calls count, call < next.calls := by
    rw [moves.calls]
    refine List.forall_mem_append.mpr ⟨fun call member => ?_, fun call member => (List.mem_range'_1.mp member).2⟩
    exact Nat.lt_add_right _ (counted.known call member)
  refine ⟨moves.places.nodup_iff.mpr ?_, fun call member => bounded call (moves.places.subset member),
    fun call member => ?_⟩
  · refine List.nodup_append.mpr ⟨counted.apart, List.nodup_range', fun old member new later => ?_⟩
    have early := counted.known old member
    have late := (List.mem_range'_1.mp later).1
    omega
  · rcases moves.expecting call member with old | new
    · rw [moves.calls]
      exact Nat.lt_add_right _ (counted.expected call old)
    · exact bounded call (List.mem_append_right _ new)

section Events

variable (exchange : Exchange) (clock : Int → Int)

theorem client_moves (next : SecureChatWebSocket) (same : next.pendingMessages = exchange.client.pendingMessages) :
    Moves exchange { exchange with client := next } 0 :=
  .still (.of_eq (exchange.places_client next same)) rfl rfl

theorem call_moves (entries : List (Int × List UInt8 × Bool)) :
    Moves exchange (exchange.call clock entries) entries.length := by
  let messages := numbered exchange.calls entries
  let counted : Exchange := { exchange with
    calls := exchange.calls + entries.length
    expecting := exchange.expecting ++ (messages.filter Prod.snd).map fun entry => entry.1.call }
  obtain ⟨calls, expecting, -⟩ := sendAll_frame clock counted messages
  have placed := sendAll_places clock counted messages
  rw [numbered_calls] at placed
  refine ⟨placed, calls, fun call member => ?_⟩
  rcases List.mem_append.mp (expecting ▸ member) with old | new
  · exact .inl old
  · obtain ⟨entry, inside, rfl⟩ := List.mem_map.mp new
    rw [← numbered_calls]
    exact .inr (List.mem_map.mpr ⟨entry, List.mem_of_mem_filter inside, rfl⟩)

theorem call_tidy (entries : List (Int × List UInt8 × Bool)) (tidy : exchange.Tidy) :
    (exchange.call clock entries).Tidy :=
  sendAll_tidy clock _ _ ⟨tidy.positive, tidy.keys, tidy.fresh, tidy.armed, tidy.owned, tidy.past, tidy.single⟩

theorem flush_moves : Moves exchange (exchange.flushPendingMessages clock) 0 := by
  obtain ⟨calls, expecting, -⟩ := sendAll_frame clock
    { exchange with client := { exchange.client with pendingMessages := [] } }
    (exchange.client.pendingMessages.map (·, false))
  have placed := sendAll_places clock
    { exchange with client := { exchange.client with pendingMessages := [] } }
    (exchange.client.pendingMessages.map (·, false))
  rw [List.map_map] at placed
  have turned : ∀ waiting mapped settled : List Nat,
      ([] ++ mapped ++ settled ++ waiting).Perm (waiting ++ mapped ++ settled) := by
    intro waiting mapped settled
    rw [List.nil_append, List.append_assoc waiting]
    exact List.perm_append_comm
  exact .still (placed.trans (turned _ _ _)) calls expecting

theorem flush_tidy (tidy : exchange.Tidy) : (exchange.flushPendingMessages clock).Tidy :=
  sendAll_tidy clock _ _ (tidy.client _ rfl)

theorem onopen_moves (socket : Nat) (eager : List (Int × List UInt8 × Bool)) :
    Moves exchange (exchange.onopen socket eager clock) eager.length := by
  let opened : Exchange := { exchange with
    client := (exchange.client.changeSocket socket ({ · with readyState := .open })).setState .connected }
  have first : Moves exchange opened 0 := exchange.client_moves _ rfl
  have second := opened.call_moves clock eager
  have third : Moves (opened.call clock eager) (opened.call clock eager).startHeartbeat 0 :=
    .still (.refl _) rfl rfl
  have fourth := (opened.call clock eager).startHeartbeat.flush_moves clock
  have fifth := ((opened.call clock eager).startHeartbeat.flushPendingMessages clock).client_moves
    (((opened.call clock eager).startHeartbeat.flushPendingMessages clock).client.changeSocket socket
      ({ · with settled := true })) rfl
  have whole := (((first.trans second).trans third).trans fourth).trans fifth
  rwa [Nat.zero_add] at whole

theorem onopen_tidy (socket : Nat) (eager : List (Int × List UInt8 × Bool)) (tidy : exchange.Tidy) :
    (exchange.onopen socket eager clock).Tidy := by
  have called := call_tidy _ clock eager (tidy.client
    ((exchange.client.changeSocket socket ({ · with readyState := .open })).setState .connected) rfl)
  have beating : Tidy (startHeartbeat _) :=
    ⟨called.positive, called.keys, called.fresh, called.armed, called.owned, called.past, called.single⟩
  exact (flush_tidy _ clock beating).client _ rfl

/-- A promise that is taken from the map is settled. -/
theorem taken_places (correlationId : Int) (call : Nat) (outcome : Outcome) (tidy : exchange.Tidy)
    (found : exchange.correlationMap.lookup correlationId = some call) :
    (exchange.client.pendingMessages.map (·.call) ++
      (exchange.correlationMap.filter (·.1 ≠ correlationId)).map Prod.snd ++
      (exchange.settled ++ [(call, outcome)]).map Prod.fst).Perm exchange.places := by
  have entries := (lookup_perm _ tidy.keys correlationId call found).map Prod.snd
  have turned : ∀ waiting mapped settled : List Nat,
      (waiting ++ mapped ++ (settled ++ [call])).Perm (waiting ++ (mapped ++ [call]) ++ settled) := by
    intro waiting mapped settled
    exact List.perm_iff_count.mpr fun other => by simp only [List.count_append]; omega
  rw [List.map_append] at entries ⊢
  exact (turned _ _ _).trans ((entries.append_left _).append_right _)

/-- What is left in the map is as tidy as before. -/
theorem taken_tidy (correlationId : Int) (call : Nat) (outcome : Outcome) (received : List (Int × List UInt8))
    (tidy : exchange.Tidy) (more : exchange.received.length ≤ received.length)
    (next : ∀ number body, outcome = .response number body →
      exchange.received.length ≤ number ∧ number < received.length) :
    Tidy { exchange with
      received := received
      correlationMap := exchange.correlationMap.filter (·.1 ≠ correlationId)
      settled := exchange.settled ++ [(call, outcome)] } := by
  refine ⟨tidy.positive, tidy.keys.sublist (List.filter_sublist.map _),
    fun entry member => tidy.fresh entry (List.mem_of_mem_filter member),
    fun entry member => tidy.armed entry (List.mem_of_mem_filter member),
    fun entry member => tidy.owned entry (List.mem_of_mem_filter member), fun other number body member => ?_, ?_⟩
  · rcases List.mem_append.mp member with old | new
    · exact (tidy.past other number body old).trans_le more
    · obtain ⟨-, same⟩ := Prod.mk.inj (List.mem_singleton.mp new)
      exact (next number body same.symm).2
  · refine List.pairwise_append.mpr ⟨tidy.single, List.pairwise_singleton _ _, fun first old second new => ?_⟩
    obtain rfl := List.mem_singleton.mp new
    intro number one other earlier later
    have before := tidy.past first.1 number one (earlier ▸ old)
    have after := (next number other later).1
    omega

theorem handleMessage_moves (rawData : List UInt8) (tidy : exchange.Tidy) :
    Moves exchange (exchange.handleMessage rawData) 0 := by
  have same : (exchange.client.handleMessage rawData).pendingMessages = exchange.client.pendingMessages :=
    congrArg Prod.fst (exchange.client.handleMessage_ledger rawData)
  rw [handleMessage]
  dsimp only
  cases SecureChatWebSocket.responseOf rawData with
  | none => exact exchange.client_moves _ same
  | some response =>
      dsimp only
      cases found : exchange.correlationMap.lookup response.1 with
      | none => exact .still (.of_eq (exchange.places_client _ same)) rfl rfl
      | some call =>
          refine .still ?_ rfl rfl
          have kept := taken_places exchange response.1 call (.response exchange.received.length response.2) tidy
            found
          rw [← same] at kept
          exact kept

theorem handleMessage_tidy (rawData : List UInt8) (tidy : exchange.Tidy) :
    (exchange.handleMessage rawData).Tidy := by
  have same := congrArg Prod.snd (exchange.client.handleMessage_ledger rawData)
  have handled := tidy.client _ same
  rw [handleMessage]
  dsimp only
  cases SecureChatWebSocket.responseOf rawData with
  | none => exact handled
  | some response =>
      have longer : exchange.received.length < (exchange.received ++ [response]).length := by
        rw [List.length_append]
        exact Nat.lt_succ_self _
      dsimp only
      cases exchange.correlationMap.lookup response.1 with
      | none => exact ⟨handled.positive, handled.keys, handled.fresh, handled.armed, handled.owned,
          fun call number body member => (handled.past call number body member).trans longer, handled.single⟩
      | some call =>
          refine taken_tidy _ response.1 call _ _ handled longer.le fun number body equal => ?_
          obtain ⟨rfl, -⟩ := Outcome.response.inj equal
          exact ⟨le_refl _, longer⟩

theorem onResponseTimeout_moves (correlationId : Int) (tidy : exchange.Tidy) :
    Moves exchange (exchange.onResponseTimeout correlationId) 0 := by
  rw [onResponseTimeout]
  dsimp only
  cases found : exchange.correlationMap.lookup correlationId with
  | none => exact .still (.refl _) rfl rfl
  | some call => exact .still (taken_places exchange correlationId call .rejected tidy found) rfl rfl

theorem onResponseTimeout_tidy (correlationId : Int) (tidy : exchange.Tidy) :
    (exchange.onResponseTimeout correlationId).Tidy := by
  have others : ∀ entry ∈ exchange.correlationMap, entry.1 ≠ correlationId →
      entry.1 ∈ exchange.responseTimers.filter (· ≠ correlationId) := fun entry member apart =>
    List.mem_filter.mpr ⟨tidy.armed entry member, decide_eq_true apart⟩
  rw [onResponseTimeout]
  dsimp only
  cases found : exchange.correlationMap.lookup correlationId with
  | none =>
      have apart : ∀ entry ∈ exchange.correlationMap, entry.1 ≠ correlationId := by
        intro entry member
        have other := List.lookup_eq_none_iff.mp found entry member
        exact fun same => by simp [same] at other
      exact ⟨tidy.positive, tidy.keys, tidy.fresh, fun entry member => others entry member (apart entry member),
        tidy.owned, tidy.past, tidy.single⟩
  | some call =>
      have taken := taken_tidy exchange correlationId call .rejected exchange.received tidy (le_refl _)
        fun _ _ => nofun
      refine ⟨taken.positive, taken.keys, taken.fresh, fun entry member => ?_, taken.owned, taken.past,
        taken.single⟩
      obtain ⟨inside, apart⟩ := List.mem_filter.mp member
      exact others entry inside (of_decide_eq_true apart)

theorem stopHeartbeat_frame : ∃ timer intervals, exchange.stopHeartbeat =
    { exchange with heartbeatTimer := timer, intervals := intervals } := by
  unfold stopHeartbeat
  split
  · exact ⟨_, _, rfl⟩
  · exact ⟨_, _, rfl⟩

/-- An interval sends a heartbeat or does nothing. -/
theorem onHeartbeat_cases : exchange.onHeartbeat clock = exchange ∨
    exchange.onHeartbeat clock = exchange.call clock [(msgSystemHeartbeat, [], false)] := by
  unfold onHeartbeat
  split
  · exact .inl rfl
  · split
    · exact .inr rfl
    · exact .inl rfl

/-- A timer or a call that changes nothing but the connection. -/
theorem clientStep_ledger (event : ClientEvent)
    (quiet : (∃ created, event = .reconnectTimer created) ∨ ∃ socket, event = .timeout socket) :
    (clientStep exchange.client exchange.calls event).1.ledger = exchange.client.ledger := by
  rcases quiet with ⟨created, rfl⟩ | ⟨socket, rfl⟩
  · rw [clientStep]
    split
    · rfl
    · exact SecureChatWebSocket.connect_ledger _ true created
  · rw [clientStep]
    split
    · exact exchange.client.onConnectTimeout_ledger socket
    · rfl

/-- The promise of a call that is settled stays so, and the others are forgotten. -/
theorem disconnect_places : exchange.disconnect.places = exchange.settled.map Prod.fst ∧
    exchange.disconnect.calls = exchange.calls ∧ exchange.disconnect.expecting = exchange.expecting := by
  obtain ⟨timer, intervals, same⟩ := exchange.stopHeartbeat_frame
  have emptied : exchange.client.disconnect.pendingMessages = [] :=
    congrArg Prod.fst exchange.client.disconnect_ledger
  unfold disconnect places
  rw [same, emptied]
  exact ⟨rfl, rfl, rfl⟩

theorem disconnect_tidy (tidy : exchange.Tidy) : exchange.disconnect.Tidy := by
  obtain ⟨timer, intervals, same⟩ := exchange.stopHeartbeat_frame
  have number : exchange.client.disconnect.nextCorrelationId = exchange.client.nextCorrelationId :=
    congrArg Prod.snd exchange.client.disconnect_ledger
  unfold disconnect
  rw [same]
  exact ⟨number ▸ tidy.positive, .nil, List.forall_mem_nil _, List.forall_mem_nil _, List.forall_mem_nil _,
    tidy.past, tidy.single⟩

/-- What an event does with the promises. The first case is also that of an event that does not happen. -/
inductive Stepped : ExchangeEvent → Exchange → Prop where
  | quiet {event : ExchangeEvent} (next : SecureChatWebSocket) (timer : Option Nat) (intervals : List Nat)
      (wanted : Bool) (same : next.ledger = exchange.client.ledger) :
      Stepped event { exchange with
        client := next
        heartbeatTimer := timer
        intervals := intervals
        wanted := wanted }
  | calls {event : ExchangeEvent} (clock : Int → Int) (entries : List (Int × List UInt8 × Bool)) :
      Stepped event (exchange.call clock entries)
  | opens (socket : Nat) (eager : List (Int × List UInt8 × Bool)) (clock : Int → Int) :
      Stepped (.client (.opened socket eager clock)) (exchange.onopen socket eager clock)
  | receives {event : ExchangeEvent} (rawData : List UInt8) : Stepped event (exchange.handleMessage rawData)
  | expires {event : ExchangeEvent} (correlationId : Int) :
      Stepped event (exchange.onResponseTimeout correlationId)
  | disconnects : Stepped (.client .disconnect) exchange.disconnect

theorem step_stepped (event : ExchangeEvent) : Stepped exchange event (exchange.step event) := by
  have still : Stepped exchange event exchange := .quiet exchange.client _ _ _ rfl
  cases event with
  | client event =>
      cases event with
      | connect created => exact .quiet _ _ _ true (exchange.client.connect_ledger false created)
      | reconnectTimer created => exact .quiet _ _ _ _ (exchange.clientStep_ledger _ (.inl ⟨created, rfl⟩))
      | timeout socket => exact .quiet _ _ _ _ (exchange.clientStep_ledger _ (.inr ⟨socket, rfl⟩))
      | opened socket eager clock =>
          rw [step]
          split
          · exact .opens socket eager clock
          · exact still
      | message socket rawData =>
          rw [step]
          split
          · exact .receives rawData
          · exact still
      | error socket =>
          rw [step]
          split
          · exact .quiet _ _ _ _ (exchange.client.onerror_ledger socket)
          · exact still
      | closed socket code =>
          rw [step]
          split
          · obtain ⟨timer, intervals, same⟩ := exchange.stopHeartbeat_frame
            rw [onclose, same]
            exact .quiet _ timer intervals _ (exchange.client.onclose_ledger socket code)
          · exact still
      | sendMessage type data expectResponse clock => exact .calls clock _
      | disconnect => exact .disconnects
  | heartbeat interval clock =>
      rw [step]
      split
      · rcases exchange.onHeartbeat_cases clock with same | sends
        · rw [same]
          exact still
        · rw [sends]
          exact .calls clock _
      · exact still
  | responseTimeout correlationId =>
      rw [step]
      split
      · exact .expires correlationId
      · exact still

variable {exchange} {event : ExchangeEvent} {next : Exchange}

/-- Every event but `disconnect` keeps each promise somewhere. -/
theorem Stepped.moves (stepped : Stepped exchange event next) (tidy : exchange.Tidy)
    (other : event ≠ .client .disconnect) : ∃ count, Moves exchange next count := by
  cases stepped with
  | quiet client timer intervals wanted same =>
      exact ⟨0, .still (.of_eq (exchange.places_client client (congrArg Prod.fst same))) rfl rfl⟩
  | calls clock entries => exact ⟨_, exchange.call_moves clock entries⟩
  | opens socket eager clock => exact ⟨_, exchange.onopen_moves clock socket eager⟩
  | receives rawData => exact ⟨0, exchange.handleMessage_moves rawData tidy⟩
  | expires correlationId => exact ⟨0, exchange.onResponseTimeout_moves correlationId tidy⟩
  | disconnects => exact absurd rfl other

theorem Stepped.tidy (stepped : Stepped exchange event next) (tidy : exchange.Tidy) : next.Tidy := by
  cases stepped with
  | quiet client timer intervals wanted same =>
      have kept := tidy.client client (congrArg Prod.snd same)
      exact ⟨kept.positive, kept.keys, kept.fresh, kept.armed, kept.owned, kept.past, kept.single⟩
  | calls clock entries => exact exchange.call_tidy clock entries tidy
  | opens socket eager clock => exact exchange.onopen_tidy clock socket eager tidy
  | receives rawData => exact exchange.handleMessage_tidy rawData tidy
  | expires correlationId => exact exchange.onResponseTimeout_tidy correlationId tidy
  | disconnects => exact exchange.disconnect_tidy tidy

variable (exchange)

theorem step_moves (event : ExchangeEvent) (tidy : exchange.Tidy) (other : event ≠ .client .disconnect) :
    ∃ count, Moves exchange (exchange.step event) count := (exchange.step_stepped event).moves tidy other

theorem step_tidy (event : ExchangeEvent) (tidy : exchange.Tidy) : (exchange.step event).Tidy :=
  (exchange.step_stepped event).tidy tidy

theorem step_counted (event : ExchangeEvent) (tidy : exchange.Tidy) (counted : exchange.Counted) :
    (exchange.step event).Counted := by
  by_cases other : event = .client .disconnect
  · subst other
    obtain ⟨places, calls, expecting⟩ := exchange.disconnect_places
    have settled : (exchange.settled.map Prod.fst).Sublist exchange.places := List.sublist_append_right _ _
    refine ⟨?_, fun call member => ?_, fun call member => ?_⟩
    · exact places ▸ counted.apart.sublist settled
    · exact calls ▸ counted.known call (settled.subset (places ▸ member))
    · exact calls ▸ counted.expected call (expecting ▸ member)
  · obtain ⟨count, moves⟩ := exchange.step_moves event tidy other
    exact counted.moves moves

theorem call_client (entries : List (Int × List UInt8 × Bool)) : (exchange.call clock entries).client =
    (exchange.client.sendAll clock (numbered exchange.calls entries)).1 := sendAll_client clock _ _

theorem onopen_client (socket : Nat) (eager : List (Int × List UInt8 × Bool)) :
    (exchange.onopen socket eager clock).client =
      (exchange.client.onopen socket (numbered exchange.calls eager) clock).1 := by
  let opened : Exchange := { exchange with
    client := (exchange.client.changeSocket socket ({ · with readyState := .open })).setState .connected }
  let called := opened.call clock eager
  have flushed : (called.startHeartbeat.flushPendingMessages clock).client =
      (called.client.flushPendingMessages clock).1 := sendAll_client clock _ _
  have first : called.client = (opened.client.sendAll clock (numbered exchange.calls eager)).1 :=
    opened.call_client clock eager
  rw [first] at flushed
  exact congrArg (SecureChatWebSocket.changeSocket · socket ({ · with settled := true })) flushed

theorem handleMessage_client (rawData : List UInt8) :
    (exchange.handleMessage rawData).client = exchange.client.handleMessage rawData ∧
      (exchange.handleMessage rawData).intervals = exchange.intervals := by
  rw [handleMessage]
  dsimp only
  split
  · exact ⟨rfl, rfl⟩
  · split <;> exact ⟨rfl, rfl⟩

/-- The client goes through the same states with its promises as without them.
Only an error event finds its socket closed here. -/
theorem step_client (event : ClientEvent) (other : ∀ socket, event ≠ .error socket) :
    (exchange.step (.client event)).client = (clientStep exchange.client exchange.calls event).1 := by
  cases event with
  | connect created => rfl
  | reconnectTimer created => rfl
  | timeout socket => rfl
  | opened socket eager clock =>
      rw [step, clientStep]
      split
      · exact exchange.onopen_client clock socket eager
      · rfl
  | message socket rawData =>
      rw [step, clientStep]
      split
      · exact (exchange.handleMessage_client rawData).1
      · rfl
  | error socket => exact absurd rfl (other socket)
  | closed socket code =>
      rw [step, clientStep]
      split <;> rfl
  | sendMessage type data expectResponse clock => exact exchange.call_client clock [(type, data, expectResponse)]
  | disconnect => rfl

end Events

end Exchange

end SecureChat.Web
