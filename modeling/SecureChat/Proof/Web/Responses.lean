import Mathlib.Data.List.Nodup
import SecureChat.Proof.Web.Promises

namespace SecureChat.Web
open Library

namespace Exchange

/-- Every promise is settled, or its message waits, or it waits for a response with a timer. -/
def NoneForgotten (exchange : Exchange) : Prop :=
  ∀ call < exchange.calls, call ∈ exchange.settled.map Prod.fst ∨
    call ∈ exchange.client.pendingMessages.map (·.call) ∨
    ∃ correlationId, (correlationId, call) ∈ exchange.correlationMap ∧ correlationId ∈ exchange.responseTimers

/-- The application disconnects when nothing waits. -/
def Idle (exchange : Exchange) : ExchangeEvent → Prop
  | .client .disconnect => exchange.client.pendingMessages = [] ∧ exchange.correlationMap = []
  | _ => True

section Steps

variable (exchange : Exchange) (event : ExchangeEvent)

theorem noneForgotten_iff (tidy : exchange.Tidy) :
    exchange.NoneForgotten ↔ ∀ call < exchange.calls, call ∈ exchange.places := by
  refine forall₂_congr fun call _ => ?_
  have mapped : (∃ correlationId, (correlationId, call) ∈ exchange.correlationMap ∧
      correlationId ∈ exchange.responseTimers) ↔ call ∈ exchange.correlationMap.map Prod.snd := by
    rw [List.mem_map]
    constructor
    · rintro ⟨correlationId, member, -⟩
      exact ⟨_, member, rfl⟩
    · rintro ⟨⟨correlationId, other⟩, member, rfl⟩
      exact ⟨correlationId, member, tidy.armed _ member⟩
  rw [mapped, places, List.mem_append, List.mem_append, or_comm]

/-- Where every promise has a place, it has one after each event but `disconnect`. -/
theorem moves_noneForgotten (next : Exchange) (count : Nat) (moves : Moves exchange next count)
    (placed : ∀ call < exchange.calls, call ∈ exchange.places) : ∀ call < next.calls, call ∈ next.places := by
  intro call known
  rw [moves.calls] at known
  refine moves.places.mem_iff.mpr (List.mem_append.mpr ?_)
  by_cases old : call < exchange.calls
  · exact .inl (placed call old)
  · exact .inr (List.mem_range'_1.mpr ⟨Nat.le_of_not_lt old, known⟩)

/-- A `disconnect` forgets no promise exactly if none waits. -/
theorem disconnect_noneForgotten (counted : exchange.Counted)
    (placed : ∀ call < exchange.calls, call ∈ exchange.places) :
    (∀ call < exchange.disconnect.calls, call ∈ exchange.disconnect.places) ↔
      exchange.client.pendingMessages = [] ∧ exchange.correlationMap = [] := by
  obtain ⟨places, calls, -⟩ := exchange.disconnect_places
  rw [places, calls]
  obtain ⟨-, -, apart⟩ := List.nodup_append.mp counted.apart
  constructor
  · intro settled
    have none : ∀ call, call ∉ exchange.client.pendingMessages.map (·.call) ++
        exchange.correlationMap.map Prod.snd := fun call waits =>
      apart call waits call (settled call (counted.known call (List.mem_append_left _ waits))) rfl
    obtain ⟨pending, mapped⟩ := List.append_eq_nil_iff.mp (List.eq_nil_iff_forall_not_mem.mpr none)
    exact ⟨List.map_eq_nil_iff.mp pending, List.map_eq_nil_iff.mp mapped⟩
  · rintro ⟨pending, mapped⟩ call known
    have place := placed call known
    rwa [Exchange.places, pending, mapped] at place

theorem step_noneForgotten (tidy : exchange.Tidy) (counted : exchange.Counted) (none : exchange.NoneForgotten) :
    (exchange.step event).NoneForgotten ↔ exchange.Idle event := by
  have placed := (exchange.noneForgotten_iff tidy).mp none
  rw [noneForgotten_iff _ (exchange.step_tidy event tidy)]
  by_cases other : event = .client .disconnect
  · subst other
    exact exchange.disconnect_noneForgotten counted placed
  · obtain ⟨count, moves⟩ := exchange.step_moves event tidy other
    refine iff_of_true (exchange.moves_noneForgotten _ count moves placed) ?_
    unfold Idle
    split
    · exact absurd rfl other
    · trivial

end Steps

theorem create_tidy (reconnectAttempts : Nat) : (create reconnectAttempts).Tidy :=
  ⟨le_refl 1, .nil, List.forall_mem_nil _, List.forall_mem_nil _, List.forall_mem_nil _,
    (fun _ _ _ member => nomatch member), .nil⟩

theorem create_counted (reconnectAttempts : Nat) : (create reconnectAttempts).Counted :=
  ⟨.nil, List.forall_mem_nil _, List.forall_mem_nil _⟩

end Exchange

open Exchange

/-- No promise is forgotten in any state of a run exactly if the application never disconnects
while a promise waits. -/
theorem exchangeMachine_noneForgotten_iff (reconnectAttempts : Nat) (events : List ExchangeEvent) :
    (∀ visited ∈ exchangeMachine.states (create reconnectAttempts) events, visited.NoneForgotten) ↔
      exchangeMachine.Along Idle (create reconnectAttempts) events :=
  exchangeMachine.states_iff_along Idle (fun exchange => exchange.Tidy ∧ exchange.Counted) NoneForgotten
    (fun exchange event valid => ⟨exchange.step_tidy event valid.1, exchange.step_counted event valid.1 valid.2⟩)
    (fun exchange event valid none => exchange.step_noneForgotten event valid.1 valid.2 none)
    _ events ⟨create_tidy reconnectAttempts, create_counted reconnectAttempts⟩ fun _ known => nomatch known

/-- A message that was not sent yet is forgotten with its promise. -/
theorem exchangeMachine_forgets :
    ¬ ∀ visited ∈ exchangeMachine.states (create 5)
        [.client (.sendMessage 0x03000001 [0x61] false id), .client .disconnect], visited.NoneForgotten := by
  intro none
  have last := none _ (exchangeMachine.run_mem_states _ _) 0 Nat.zero_lt_one
  rcases last with settled | waits | ⟨correlationId, mapped, -⟩
  · exact nomatch settled
  · exact nomatch waits
  · exact nomatch mapped

namespace Exchange

/-- The promise was rejected, or it has the body of a response that came with a number of its call. -/
def Proper (exchange : Exchange) (call : Nat) (outcome : Outcome) : Prop :=
  outcome = .rejected ∨ ∃ number correlationId body, outcome = .response number body ∧
    exchange.received[number]? = some (correlationId, body) ∧ (correlationId, call) ∈ exchange.assigned

/-- A call that expects a response gets its own or none, no promise is settled twice,
and no response settles two promises. -/
structure Correlated (exchange : Exchange) : Prop where
  own : ∀ entry ∈ exchange.settled, entry.1 ∈ exchange.expecting → exchange.Proper entry.1 entry.2
  once : (exchange.settled.map Prod.fst).Nodup
  single : exchange.settled.Pairwise fun first second => ∀ number one other,
    first.2 = .response number one → second.2 ≠ .response number other

/-- At an open event that sends what waits, no message that waits expects a response. -/
def Undemanding (exchange : Exchange) : ExchangeEvent → Prop
  | .client (.opened socket _ _) => exchange.client.readyState socket = some .connecting →
      ∀ current, exchange.client.socket = some current →
        (current = socket ∨ exchange.client.readyState current ≠ some .connecting) →
        ∀ message ∈ exchange.client.pendingMessages, message.call ∉ exchange.expecting
  | _ => True

/-- Some promises are settled, and nothing that is known is lost. -/
structure Grows (exchange next : Exchange) (added : List (Nat × Outcome)) : Prop where
  settled : next.settled = exchange.settled ++ added
  received : exchange.received <+: next.received
  assigned : exchange.assigned ⊆ next.assigned
  expecting : ∀ call < exchange.calls, call ∈ next.expecting ↔ call ∈ exchange.expecting

theorem Proper.grows {exchange next : Exchange} {added : List (Nat × Outcome)} (grows : Grows exchange next added)
    {call : Nat} {outcome : Outcome} (proper : exchange.Proper call outcome) : next.Proper call outcome := by
  refine proper.imp_right fun ⟨number, correlationId, body, same, found, given⟩ => ?_
  obtain ⟨more, equal⟩ := grows.received
  refine ⟨number, correlationId, body, same, ?_, grows.assigned given⟩
  rw [← equal, List.getElem?_append_left (List.getElem?_eq_some_iff.mp found).1, found]

/-- All earlier promises are as they were, so only the new ones count. -/
theorem own_iff {exchange next : Exchange} {added : List (Nat × Outcome)} (grows : Grows exchange next added)
    (counted : exchange.Counted)
    (own : ∀ entry ∈ exchange.settled, entry.1 ∈ exchange.expecting → exchange.Proper entry.1 entry.2) :
    (∀ entry ∈ next.settled, entry.1 ∈ next.expecting → next.Proper entry.1 entry.2) ↔
      ∀ entry ∈ added, entry.1 ∈ next.expecting → next.Proper entry.1 entry.2 := by
  rw [grows.settled, List.forall_mem_append]
  refine and_iff_right fun entry member expects => ?_
  have known := counted.known entry.1 (List.mem_append_right _ (List.mem_map_of_mem member))
  exact (own entry member ((grows.expecting entry.1 known).mp expects)).grows grows

section Sending

variable (clock : Int → Int)

/-- Of the messages only those are settled with null that expect no response. -/
theorem sendAll_settled (exchange : Exchange) (messages : List (Message × Bool)) (tidy : exchange.Tidy) :
    ∃ added, (exchange.sendAll clock messages).settled = exchange.settled ++ added ∧
      ∀ entry ∈ added, entry.2 = .rejected ∨ ∃ message, (message, false) ∈ messages ∧ message.call = entry.1 := by
  induction messages generalizing exchange with
  | nil => exact ⟨[], (List.append_nil _).symm, List.forall_mem_nil _⟩
  | cons entry rest ih =>
      obtain ⟨message, expectResponse⟩ := entry
      have posted := exchange.sendMessage_posted clock expectResponse message
      obtain ⟨later, settled, each⟩ := ih _ (posted.tidy tidy)
      have weaker : ∀ entry ∈ later, entry.2 = .rejected ∨
          ∃ other, (other, false) ∈ (message, expectResponse) :: rest ∧ other.call = entry.1 :=
        fun entry member => (each entry member).imp_right fun ⟨other, listed, same⟩ =>
          ⟨other, List.mem_cons_of_mem _ listed, same⟩
      rw [sendAll_cons]
      generalize exchange.sendMessage clock expectResponse message = next at posted settled ⊢
      cases posted with
      | waits client delivered pending numbers => exact ⟨later, settled, weaker⟩
      | awaits client delivered pending numbers => exact ⟨later, settled, weaker⟩
      | settles client assigned outcome delivered pending numbers grown =>
          refine ⟨(message.call, outcome) :: later, ?_, List.forall_mem_cons.mpr ⟨?_, weaker⟩⟩
          · rw [settled, settle, List.append_assoc]
            rfl
          · rcases delivered with ⟨-, rejected⟩ | ⟨sent, -⟩
            · exact .inl rejected
            · obtain rfl := exchange.client.delivery_sent expectResponse tidy.positive sent
              exact .inr ⟨message, List.mem_cons_self, rfl⟩

/-- The promises that a flush settles, by what becomes of its messages. -/
def flushed (delivery : Delivery) (messages : List Message) : List (Nat × Outcome) :=
  match delivery with
  | .throws => messages.map fun message => (message.call, .rejected)
  | .sent => messages.map fun message => (message.call, .null)
  | _ => []

theorem delivery_congr (client next : SecureChatWebSocket) (socket : next.socket = client.socket)
    (state : next.state = client.state) (sockets : next.sockets = client.sockets) :
    next.delivery false = client.delivery false := by
  unfold SecureChatWebSocket.delivery SecureChatWebSocket.readyState
  rw [socket, state, sockets]
  cases client.socket <;> simp

/-- All messages of a flush go the same way. -/
theorem sendAll_flushed (exchange : Exchange) (messages : List Message) :
    (exchange.sendAll clock (messages.map (·, false))).settled =
      exchange.settled ++ flushed (exchange.client.delivery false) messages := by
  induction messages generalizing exchange with
  | nil =>
      cases exchange.client.delivery false <;> exact (List.append_nil _).symm
  | cons message rest ih =>
      obtain ⟨socket, state, sockets, -, -⟩ := exchange.client.sendMessage_sends clock false message
      rw [← sendMessage_client clock exchange false message] at socket state sockets
      have same := delivery_congr _ _ socket state sockets
      have posted := exchange.sendMessage_posted clock false message
      rw [List.map_cons, sendAll_cons, ih, same]
      generalize exchange.sendMessage clock false message = next at posted ⊢
      cases posted with
      | waits client delivered pending numbers => rw [delivered]; rfl
      | awaits client delivered pending numbers =>
          exact nomatch exchange.client.delivery_awaits false delivered
      | settles client assigned outcome delivered pending numbers grown =>
          rw [settle, List.append_assoc]
          rcases delivered with ⟨delivered, rfl⟩ | ⟨delivered, rfl⟩ <;> rw [delivered] <;> rfl

end Sending

section Events

variable (exchange : Exchange) (clock : Int → Int)

/-- An event that settles nothing keeps what is known. -/
theorem Grows.silent {next : Exchange} (settled : next.settled = exchange.settled)
    (received : next.received = exchange.received) (assigned : next.assigned = exchange.assigned)
    (expecting : next.expecting = exchange.expecting) : Grows exchange next [] :=
  ⟨settled.trans (List.append_nil _).symm, received ▸ List.prefix_rfl, assigned ▸ List.Subset.refl _,
    fun call _ => by rw [expecting]⟩

/-- New calls settle with null only what expects no response. -/
theorem call_grows (entries : List (Int × List UInt8 × Bool)) (tidy : exchange.Tidy) (counted : exchange.Counted) :
    ∃ added, Grows exchange (exchange.call clock entries) added ∧ ∀ entry ∈ added,
      entry.2 = .rejected ∨ entry.1 ∉ (exchange.call clock entries).expecting := by
  let messages := numbered exchange.calls entries
  let known : Exchange := { exchange with
    calls := exchange.calls + entries.length
    expecting := exchange.expecting ++ (messages.filter Prod.snd).map fun entry => entry.1.call }
  have fresh : known.Tidy := ⟨tidy.positive, tidy.keys, tidy.fresh, tidy.armed, tidy.owned, tidy.past, tidy.single⟩
  obtain ⟨-, expecting, received, assigned, -⟩ := sendAll_frame clock known messages
  obtain ⟨added, settled, each⟩ := sendAll_settled clock known messages fresh
  have later : ∀ entry ∈ messages, exchange.calls ≤ entry.1.call := by
    intro entry member
    have listed := List.mem_map_of_mem (f := (·.1.call)) member
    rw [numbered_calls] at listed
    exact (List.mem_range'_1.mp listed).1
  have distinct : (messages.map (·.1.call)).Nodup := by
    rw [numbered_calls]
    exact List.nodup_range'
  refine ⟨added, ⟨settled, received ▸ List.prefix_rfl, assigned, fun call old => ?_⟩, fun entry member => ?_⟩
  · show call ∈ (known.sendAll clock messages).expecting ↔ _
    rw [expecting, List.mem_append]
    refine or_iff_left fun new => ?_
    obtain ⟨entry, inside, rfl⟩ := List.mem_map.mp new
    exact absurd (later entry (List.mem_of_mem_filter inside)) (Nat.not_le_of_lt old)
  · refine (each entry member).imp_right ?_
    rintro ⟨message, listed, same⟩ expects
    rw [← same] at expects
    rcases List.mem_append.mp (expecting ▸ expects) with old | new
    · exact absurd (later _ listed) (Nat.not_le_of_lt (counted.expected _ old))
    · obtain ⟨other, inside, equal⟩ := List.mem_map.mp new
      obtain ⟨present, demands⟩ := List.mem_filter.mp inside
      have one := List.inj_on_of_nodup_map distinct present listed equal
      rw [one] at demands
      exact nomatch demands

theorem client_sendAll_frame (client : SecureChatWebSocket) (messages : List (Message × Bool)) :
    (client.sendAll clock messages).1.socket = client.socket ∧
      (client.sendAll clock messages).1.state = client.state ∧
      (client.sendAll clock messages).1.sockets = client.sockets := by
  induction messages generalizing client with
  | nil => exact ⟨rfl, rfl, rfl⟩
  | cons entry rest ih =>
      obtain ⟨socket, state, sockets, -, -⟩ := client.sendMessage_sends clock entry.2 entry.1
      obtain ⟨held, last, all⟩ := ih (client.sendMessage clock entry.2 entry.1).1
      exact ⟨held.trans socket, last.trans state, all.trans sockets⟩

/-- The client at the open event of a socket. -/
def openedClient (client : SecureChatWebSocket) (socket : Nat) : SecureChatWebSocket :=
  (client.changeSocket socket ({ · with readyState := .open })).setState .connected

/-- What waits is sent at an open event if the client holds this socket, or another one that does not connect. -/
theorem openedClient_delivery (client : SecureChatWebSocket) (socket : Nat)
    (connecting : client.readyState socket = some .connecting) :
    (openedClient client socket).delivery false = .sent ↔ ∃ current, client.socket = some current ∧
      (current = socket ∨ client.readyState current ≠ some .connecting) := by
  have held : (openedClient client socket).socket = client.socket := rfl
  have ready : ∀ current, (openedClient client socket).readyState current = some .connecting ↔
      ¬ (current = socket ∨ client.readyState current ≠ some .connecting) := by
    intro current
    obtain ⟨old, found, -⟩ := Option.map_eq_some_iff.mp connecting
    have changed := client.readyState_changeSocket socket ({ · with readyState := .open }) current
    rw [not_or, not_not]
    by_cases same : socket = current
    · subst same
      rw [if_pos rfl, found] at changed
      exact iff_of_false (fun other => by cases other.symm.trans changed) fun both => both.1 rfl
    · rw [if_neg same] at changed
      exact (changed ▸ Iff.rfl : _ ↔ client.readyState current = some .connecting).trans
        (and_iff_right (Ne.symm same)).symm
  unfold SecureChatWebSocket.delivery
  rw [held]
  cases client.socket with
  | none =>
      refine iff_of_false (by rintro ⟨⟩) ?_
      rintro ⟨_, ⟨⟩, -⟩
  | some current =>
      have connected : ¬ (openedClient client socket).state ≠ .connected := not_not_intro rfl
      dsimp only
      rw [if_neg connected]
      by_cases waits : (openedClient client socket).readyState current = some .connecting
      · rw [if_pos waits]
        refine iff_of_false (by rintro ⟨⟩) ?_
        rintro ⟨other, equal, either⟩
        obtain rfl := Option.some.inj equal
        exact (ready current).mp waits either
      · rw [if_neg waits, if_neg fun both => Bool.false_ne_true both.1]
        exact iff_of_true rfl ⟨current, rfl, not_not.mp fun none => waits ((ready current).mpr none)⟩

/-- An open event settles the new calls properly, and what waits as the flush does. -/
theorem onopen_grows (socket : Nat) (eager : List (Int × List UInt8 × Bool)) (tidy : exchange.Tidy)
    (counted : exchange.Counted) : ∃ added waiting, Grows exchange (exchange.onopen socket eager clock)
      (added ++ flushed ((openedClient exchange.client socket).delivery false) waiting) ∧
    (∀ entry ∈ added, entry.2 = .rejected ∨ entry.1 ∉ (exchange.onopen socket eager clock).expecting) ∧
    ((openedClient exchange.client socket).delivery false = .sent →
      waiting = exchange.client.pendingMessages) := by
  let opened : Exchange := { exchange with client := openedClient exchange.client socket }
  obtain ⟨added, grows, each⟩ := opened.call_grows clock eager (tidy.client _ rfl)
    (counted.moves (exchange.client_moves _ rfl))
  have client : (opened.call clock eager).client =
      ((openedClient exchange.client socket).sendAll clock (numbered exchange.calls eager)).1 :=
    opened.call_client clock eager
  let waiting := (opened.call clock eager).client.pendingMessages
  let flushing : Exchange := { (opened.call clock eager).startHeartbeat with
    client := { (opened.call clock eager).client with pendingMessages := [] } }
  have settled := sendAll_flushed clock flushing waiting
  obtain ⟨-, expecting, received, assigned, -⟩ := sendAll_frame clock flushing (waiting.map (·, false))
  have way : flushing.client.delivery false = (openedClient exchange.client socket).delivery false := by
    obtain ⟨held, state, sockets⟩ := client_sendAll_frame clock (openedClient exchange.client socket)
      (numbered exchange.calls eager)
    rw [← client] at held state sockets
    exact delivery_congr _ _ held state sockets
  rw [way] at settled
  refine ⟨added, waiting, ⟨?_, ?_, ?_, ?_⟩, ?_, fun sent => ?_⟩
  · exact settled.trans ((congrArg (· ++ _) grows.settled).trans (List.append_assoc _ _ _))
  · exact grows.received.trans (received ▸ List.prefix_rfl)
  · exact List.Subset.trans grows.assigned assigned
  · intro call known
    exact (expecting ▸ Iff.rfl : call ∈ (exchange.onopen socket eager clock).expecting ↔ _).trans
      (grows.expecting call known)
  · intro entry member
    exact (each entry member).imp_right fun absent listed => absent (expecting ▸ listed)
  · cases held : (openedClient exchange.client socket).socket with
    | none =>
        rw [SecureChatWebSocket.delivery, held] at sent
        cases sent
    | some current =>
        have same := (SecureChatWebSocket.sendAll_connected clock _ current (numbered exchange.calls eager) held
          rfl).1
        rw [← client] at same
        exact same.pending

/-- A promise is settled in a way that suits its call, or its call expects nothing. -/
def Suits (exchange : Exchange) (entry : Nat × Outcome) : Prop :=
  entry.2 = .rejected ∨ entry.1 ∉ exchange.expecting ∨ exchange.Proper entry.1 entry.2

theorem Suits.proper {exchange : Exchange} {entry : Nat × Outcome} (suits : exchange.Suits entry)
    (expects : entry.1 ∈ exchange.expecting) : exchange.Proper entry.1 entry.2 := by
  rcases suits with rejected | absent | proper
  · exact .inl rejected
  · exact absurd expects absent
  · exact proper

theorem handleMessage_grows (rawData : List UInt8) (tidy : exchange.Tidy) :
    ∃ added, Grows exchange (exchange.handleMessage rawData) added ∧
      ∀ entry ∈ added, (exchange.handleMessage rawData).Suits entry := by
  rw [handleMessage]
  dsimp only
  cases SecureChatWebSocket.responseOf rawData with
  | none => exact ⟨[], .silent exchange rfl rfl rfl rfl, List.forall_mem_nil _⟩
  | some response =>
      dsimp only
      cases found : exchange.correlationMap.lookup response.1 with
      | none =>
          refine ⟨[], ⟨?_, List.prefix_append _ _, List.Subset.refl _, fun _ _ => Iff.rfl⟩, List.forall_mem_nil _⟩
          exact (List.append_nil _).symm
      | some call =>
          have entry : (response.1, call) ∈ exchange.correlationMap :=
            (lookup_perm _ tidy.keys _ call found).subset (List.mem_append_right _ List.mem_cons_self)
          have owned := tidy.owned _ entry
          refine ⟨[(call, .response exchange.received.length response.2)],
            ⟨rfl, List.prefix_append _ _, List.Subset.refl _, fun _ _ => Iff.rfl⟩,
            List.forall_mem_singleton.mpr (.inr (.inr (.inr ⟨_, response.1, response.2, rfl, ?_, owned⟩)))⟩
          exact List.getElem?_concat_length

theorem onResponseTimeout_grows (correlationId : Int) :
    ∃ added, Grows exchange (exchange.onResponseTimeout correlationId) added ∧
      ∀ entry ∈ added, (exchange.onResponseTimeout correlationId).Suits entry := by
  rw [onResponseTimeout]
  dsimp only
  cases exchange.correlationMap.lookup correlationId with
  | none => exact ⟨[], .silent exchange rfl rfl rfl rfl, List.forall_mem_nil _⟩
  | some call => exact ⟨[(call, .rejected)],
      ⟨rfl, List.prefix_rfl, List.Subset.refl _, fun _ _ => Iff.rfl⟩, List.forall_mem_singleton.mpr (.inl rfl)⟩

/-- Every event but the open event of a socket settles each promise in a way that suits its call. -/
theorem Stepped.suits {event : ExchangeEvent} {next : Exchange} (stepped : Stepped exchange event next)
    (tidy : exchange.Tidy) (counted : exchange.Counted)
    (other : ∀ socket eager clock, event ≠ .client (.opened socket eager clock)) :
    ∃ added, Grows exchange next added ∧ ∀ entry ∈ added, next.Suits entry := by
  cases stepped with
  | quiet client timer intervals wanted same =>
      exact ⟨[], .silent exchange rfl rfl rfl rfl, List.forall_mem_nil _⟩
  | calls clock entries =>
      obtain ⟨added, grows, each⟩ := exchange.call_grows clock entries tidy counted
      exact ⟨added, grows, fun entry member => (each entry member).imp_right .inl⟩
  | opens socket eager clock => exact absurd rfl (other socket eager clock)
  | receives rawData => exact exchange.handleMessage_grows rawData tidy
  | expires correlationId => exact exchange.onResponseTimeout_grows correlationId
  | disconnects =>
      obtain ⟨timer, intervals, same⟩ := exchange.stopHeartbeat_frame
      rw [disconnect, same]
      exact ⟨[], .silent exchange rfl rfl rfl rfl, List.forall_mem_nil _⟩

/-- An open event settles every promise properly exactly if no message that it sends expects a response. -/
theorem onopen_own (socket : Nat) (eager : List (Int × List UInt8 × Bool))
    (connecting : exchange.client.readyState socket = some .connecting) (tidy : exchange.Tidy)
    (counted : exchange.Counted)
    (own : ∀ entry ∈ exchange.settled, entry.1 ∈ exchange.expecting → exchange.Proper entry.1 entry.2) :
    (∀ entry ∈ (exchange.onopen socket eager clock).settled,
      entry.1 ∈ (exchange.onopen socket eager clock).expecting →
        (exchange.onopen socket eager clock).Proper entry.1 entry.2) ↔
    exchange.Undemanding (.client (.opened socket eager clock)) := by
  obtain ⟨added, waiting, grows, each, pending⟩ := exchange.onopen_grows clock socket eager tidy counted
  have first : ∀ entry ∈ added, entry.1 ∈ (exchange.onopen socket eager clock).expecting →
      (exchange.onopen socket eager clock).Proper entry.1 entry.2 :=
    fun entry member => Suits.proper ((each entry member).imp_right .inl)
  have way := openedClient_delivery exchange.client socket connecting
  rw [own_iff grows counted own, List.forall_mem_append, and_iff_right first]
  have unsent : (openedClient exchange.client socket).delivery false ≠ .sent →
      exchange.Undemanding (.client (.opened socket eager clock)) := by
    intro other _ current held either
    exact absurd (way.mpr ⟨current, held, either⟩) other
  cases delivered : (openedClient exchange.client socket).delivery false with
  | waits => exact iff_of_true (List.forall_mem_nil _) (unsent (delivered ▸ nofun))
  | awaits => exact iff_of_true (List.forall_mem_nil _) (unsent (delivered ▸ nofun))
  | throws =>
      refine iff_of_true (fun entry member _ => ?_) (unsent (delivered ▸ nofun))
      obtain ⟨message, -, rfl⟩ := List.mem_map.mp member
      exact .inl rfl
  | sent =>
      obtain rfl := pending delivered
      have known : ∀ message ∈ exchange.client.pendingMessages, message.call < exchange.calls :=
        fun message member =>
          counted.known _ (List.mem_append_left _ (List.mem_append_left _ (List.mem_map_of_mem member)))
      constructor
      · intro proper _ current held either message member expects
        have listed : (message.call, Outcome.null) ∈ flushed .sent exchange.client.pendingMessages :=
          List.mem_map_of_mem member
        have wrong := proper _ listed ((grows.expecting _ (known message member)).mpr expects)
        rcases wrong with rejected | ⟨_, _, _, response, -⟩
        · exact nomatch rejected
        · exact nomatch response
      · intro undemanding entry listed expects
        obtain ⟨message, member, rfl⟩ := List.mem_map.mp listed
        obtain ⟨current, held, either⟩ := way.mp delivered
        exact absurd ((grows.expecting _ (known message member)).mp expects)
          (undemanding connecting current held either message member)

theorem step_own (event : ExchangeEvent) (tidy : exchange.Tidy) (counted : exchange.Counted)
    (own : ∀ entry ∈ exchange.settled, entry.1 ∈ exchange.expecting → exchange.Proper entry.1 entry.2) :
    (∀ entry ∈ (exchange.step event).settled, entry.1 ∈ (exchange.step event).expecting →
      (exchange.step event).Proper entry.1 entry.2) ↔ exchange.Undemanding event := by
  by_cases opens : ∃ socket eager clock, event = .client (.opened socket eager clock)
  · obtain ⟨socket, eager, clock, rfl⟩ := opens
    rw [step]
    split
    · rename_i connecting
      exact exchange.onopen_own clock socket eager connecting tidy counted own
    · rename_i other
      exact iff_of_true own fun connecting => absurd connecting other
  · have others : ∀ socket eager clock, event ≠ .client (.opened socket eager clock) :=
      fun socket eager clock same => opens ⟨socket, eager, clock, same⟩
    obtain ⟨added, grows, each⟩ := (exchange.step_stepped event).suits exchange tidy counted others
    refine iff_of_true ((own_iff grows counted own).mpr fun entry member => (each entry member).proper) ?_
    unfold Undemanding
    split
    · exact absurd rfl (others _ _ _)
    · trivial

/-- No promise is settled twice in any state, and no response settles two of them. -/
theorem correlated_iff (tidy : exchange.Tidy) (counted : exchange.Counted) : exchange.Correlated ↔
    ∀ entry ∈ exchange.settled, entry.1 ∈ exchange.expecting → exchange.Proper entry.1 entry.2 :=
  ⟨fun correlated => correlated.own, fun own =>
    ⟨own, counted.apart.sublist (List.sublist_append_right _ _), tidy.single⟩⟩

end Events

end Exchange

open Exchange

/-- Every call gets its own response in all states of a run exactly if no open event sends a message
that waits and expects a response. -/
theorem exchangeMachine_correlated_iff (reconnectAttempts : Nat) (events : List ExchangeEvent) :
    (∀ visited ∈ exchangeMachine.states (create reconnectAttempts) events, visited.Correlated) ↔
      exchangeMachine.Along Undemanding (create reconnectAttempts) events := by
  have start := create_tidy reconnectAttempts
  have counts := create_counted reconnectAttempts
  refine exchangeMachine.states_iff_along Undemanding (fun exchange => exchange.Tidy ∧ exchange.Counted) Correlated
    (fun exchange event valid => ⟨exchange.step_tidy event valid.1, exchange.step_counted event valid.1 valid.2⟩)
    (fun exchange event valid correlated => ?_) _ events ⟨start, counts⟩
    ((correlated_iff _ start counts).mpr (List.forall_mem_nil _))
  have next := correlated_iff _ (exchange.step_tidy event valid.1) (exchange.step_counted event valid.1 valid.2)
  exact next.trans (exchange.step_own event valid.1 valid.2 correlated.own)

/-- A login that waits for the open event gets no response but null. -/
theorem exchangeMachine_answers_null :
    ¬ ∀ visited ∈ exchangeMachine.states (create 5)
        [.client (.connect true), .client (.sendMessage 0x01000001 [0x61] true id), .client (.opened 0 [] id)],
      visited.Correlated := by
  intro correlated
  have last := (correlated _ (exchangeMachine.run_mem_states _ _)).own (0, .null) (by decide) (by decide)
  rcases last with rejected | ⟨_, _, _, response, -⟩
  · exact nomatch rejected
  · exact nomatch response

end SecureChat.Web
