import SecureChat.Proof.Web.Responses

namespace SecureChat.Web
open Library Library.JsNumber

namespace SecureChatWebSocket

/-- The socket is connecting or open. -/
def Active (client : SecureChatWebSocket) (socket : Nat) : Prop :=
  client.readyState socket = some .connecting ∨ client.readyState socket = some .open

/-- No socket is made, and none that was closed is active again. -/
structure Calmer (client next : SecureChatWebSocket) : Prop where
  active : ∀ socket, next.Active socket → client.Active socket
  length : next.sockets.length = client.sockets.length

theorem Calmer.of_sockets {client next : SecureChatWebSocket} (same : next.sockets = client.sockets) :
    Calmer client next := by
  refine ⟨fun socket active => ?_, congrArg List.length same⟩
  unfold Active readyState at active ⊢
  rwa [same] at active

theorem Calmer.trans {client middle next : SecureChatWebSocket} (first : Calmer client middle)
    (second : Calmer middle next) : Calmer client next :=
  ⟨fun socket active => first.active socket (second.active socket active), second.length.trans first.length⟩

section Operations

variable (client : SecureChatWebSocket)

theorem changeSocket_calmer (socket : Nat) (change : Socket → Socket)
    (closes : ∀ old, (change old).readyState = old.readyState ∨
      (change old).readyState ≠ .connecting ∧ (change old).readyState ≠ .open) :
    Calmer client (client.changeSocket socket change) := by
  refine ⟨fun other active => ?_, List.length_modify _ _ _⟩
  unfold Active at active ⊢
  rw [readyState_changeSocket] at active
  split at active
  · rename_i same
    cases found : client.sockets[other]? with
    | none =>
        rw [found] at active
        exact active.elim nofun nofun
    | some old =>
        rw [readyState, found, Option.map_some]
        rw [found, Option.map_some, Option.some_inj, Option.some_inj] at active
        rcases closes old with kept | ⟨first, second⟩
        · rw [kept] at active
          exact active.imp (congrArg some) (congrArg some)
        · exact active.elim (absurd · first) (absurd · second)
  · exact active

theorem retry_calmer : Calmer client client.retry := by
  unfold retry
  split <;> exact .of_sockets rfl

theorem reject_calmer (socket : Nat) : Calmer client (client.reject socket) := by
  have answered := client.changeSocket_calmer socket ({ · with settled := true }) fun _ => .inl rfl
  unfold reject
  split
  · exact .of_sockets rfl
  · dsimp only
    split
    · exact answered.trans (retry_calmer _)
    · exact answered

theorem closeSocket_calmer (socket : Nat) : Calmer client (client.closeSocket socket) := by
  refine client.changeSocket_calmer socket _ fun old => .inr ?_
  dsimp only
  split <;> exact ⟨nofun, nofun⟩

theorem onerror_calmer (socket : Nat) : Calmer client ((client.closeSocket socket).onerror socket) := by
  have marked : Calmer (client.closeSocket socket) ((client.closeSocket socket).setState .error) := .of_sockets rfl
  exact ((client.closeSocket_calmer socket).trans marked).trans (reject_calmer _ socket)

theorem onclose_calmer (socket code : Nat) : Calmer client (client.onclose socket code) := by
  have closed := client.changeSocket_calmer socket ({ · with readyState := .closed })
    fun _ => .inr ⟨nofun, nofun⟩
  unfold onclose
  dsimp only
  split
  · exact closed.trans (.of_sockets rfl)
  · split <;> exact closed.trans (.of_sockets rfl)

theorem onConnectTimeout_calmer (socket : Nat) : Calmer client (client.onConnectTimeout socket) := by
  have fired := client.changeSocket_calmer socket ({ · with timer := false }) fun _ => .inl rfl
  unfold onConnectTimeout
  dsimp only
  split
  · refine Calmer.trans ?_ (reject_calmer _ socket)
    split
    · exact fired.trans (closeSocket_calmer _ _)
    · exact fired
  · exact fired

theorem disconnect_calmer : Calmer client client.disconnect := by
  unfold disconnect
  split
  · exact (client.closeSocket_calmer _).trans (.of_sockets rfl)
  · exact .of_sockets rfl

theorem handleMessage_calmer (rawData : List UInt8) : Calmer client (client.handleMessage rawData) := by
  unfold handleMessage
  split
  · exact .of_sockets rfl
  · split
    · exact .of_sockets rfl
    · split
      · exact .of_sockets rfl
      · split <;> exact .of_sockets rfl

/-- A call of `connect` is refused, or its constructor throws, or there is a new socket. -/
theorem connect_cases (retries created : Bool) :
    ((client.state = .connected ∨ client.state = .connecting ∨ created = false) ∧
      Calmer client (client.connect retries created)) ∨
    (client.state ≠ .connected ∧ client.state ≠ .connecting ∧ created = true ∧
      (client.connect retries created).sockets = client.sockets ++ [⟨.connecting, retries, false, true⟩]) := by
  unfold connect
  split
  · rename_i refused
    refine .inl ⟨refused.imp_right .inl, ?_⟩
    split
    · exact client.retry_calmer
    · exact .of_sockets rfl
  · rename_i accepted
    obtain ⟨first, second⟩ := not_or.mp accepted
    dsimp only
    cases created with
    | true => exact .inr ⟨first, second, rfl, rfl⟩
    | false =>
        refine .inl ⟨.inr (.inr rfl), ?_⟩
        rw [if_neg Bool.false_ne_true]
        split
        · have failed : Calmer client ((client.setState .connecting).setState .error) := .of_sockets rfl
          exact failed.trans (retry_calmer _)
        · exact .of_sockets rfl

/-- A new socket is the only active one exactly if there was none before. -/
theorem connect_single_iff (next : SecureChatWebSocket) (socket : Socket)
    (connecting : socket.readyState = .connecting) (made : next.sockets = client.sockets ++ [socket]) :
    (∀ first second, next.Active first → next.Active second → first = second) ↔
      ∀ old, ¬ client.Active old := by
  have old : ∀ other, client.Active other → other < client.sockets.length ∧ next.Active other := by
    intro other active
    have bound : other < client.sockets.length := by
      rcases active with found | found <;>
        exact (List.getElem?_eq_some_iff.mp (Option.map_eq_some_iff.mp found).choose_spec.1).1
    refine ⟨bound, ?_⟩
    unfold Active readyState at active ⊢
    rwa [made, List.getElem?_append_left bound]
  have new : next.Active client.sockets.length := by
    refine .inl ?_
    rw [readyState, made, List.getElem?_concat_length, Option.map_some, connecting]
  constructor
  · intro single other active
    obtain ⟨bound, still⟩ := old other active
    exact absurd (single other _ still new) (Nat.ne_of_lt bound)
  · intro none
    have only : ∀ other, next.Active other → other = client.sockets.length := by
      intro other active
      by_contra apart
      have before : client.Active other := by
        unfold Active readyState at active ⊢
        rcases Nat.lt_or_gt_of_ne apart with below | above
        · rwa [made, List.getElem?_append_left below] at active
        · rw [made, List.getElem?_eq_none (by rw [List.length_append]; exact above)] at active
          rcases active with impossible | impossible <;> cases impossible
      exact none other before
    exact fun first second one two => (only first one).trans (only second two).symm

theorem retry_state : client.retry.state =
    if client.reconnectCount < client.reconnectAttempts then .reconnecting else client.state := by
  unfold retry
  split <;> rfl

/-- A failed socket leaves the client with an error, or the reconnect timer tries again at once. -/
theorem onerror_state (socket : Nat) : ((client.closeSocket socket).onerror socket).state =
    if client.sockets[socket]?.any (fun old => !old.settled && old.retries) ∧
        client.reconnectCount < client.reconnectAttempts then .reconnecting else .error := by
  have look : ((client.closeSocket socket).setState .error).sockets[socket]? = client.sockets[socket]?.map
      fun old => { old with readyState := if old.readyState = .closed then .closed else .closing } := by
    show (client.sockets.modify socket _)[socket]? = _
    rw [List.getElem?_modify]
    simp only [if_true]
    rfl
  unfold onerror reject
  rw [look]
  cases client.sockets[socket]? with
  | none => rfl
  | some old =>
      rw [Option.map_some, Option.any_some]
      dsimp only
      by_cases tries : ¬ old.settled ∧ old.retries
      · have again : (!old.settled && old.retries) = true := by simpa using tries
        rw [if_pos tries, again, retry_state]
        exact if_congr ⟨fun more => ⟨rfl, more⟩, And.right⟩ rfl rfl
      · have stays : ¬ ((!old.settled && old.retries) = true ∧ client.reconnectCount < client.reconnectAttempts) :=
          fun both => tries (by simpa using both.1)
        rw [if_neg tries, if_neg stays]
        rfl

theorem onclose_state (socket code : Nat) : (client.onclose socket code).state =
    if ¬ (code = 1000 ∨ code = 1001) ∧ client.reconnectCount < client.reconnectAttempts then .reconnecting
    else .disconnected := by
  unfold onclose
  dsimp only
  by_cases normal : code = 1000 ∨ code = 1001
  · rw [if_pos normal, if_neg fun both => both.1 normal]
    rfl
  · rw [if_neg normal]
    by_cases again : client.reconnectCount < client.reconnectAttempts
    · rw [if_pos again, if_pos ⟨normal, again⟩]
      rfl
    · rw [if_neg again, if_neg fun both => again both.2]
      rfl

/-- A message that reports a successful login. -/
def LoginResponse (rawData : List UInt8) : Prop :=
  ∃ header body, acceptMessage rawData = some (header, body) ∧ header.type = msgAuthLoginResponse ∧
    bitAnd header.flags flagResponse = 0 ∧ loginSucceeds body

theorem handleMessage_state (rawData : List UInt8) : (client.handleMessage rawData).state = client.state ↔
    ¬ LoginResponse rawData ∨ client.state = .authenticated := by
  unfold handleMessage LoginResponse
  cases acceptMessage rawData with
  | none => exact iff_of_true rfl (.inl fun ⟨_, _, accepted, _⟩ => nomatch accepted)
  | some message =>
      obtain ⟨header, body⟩ := message
      have same : ∀ {property : Prop}, (header.type = msgAuthLoginResponse → bitAnd header.flags flagResponse = 0 →
          loginSucceeds body = true → False) → ((∃ other data, some (header, body) = some (other, data) ∧
            other.type = msgAuthLoginResponse ∧ bitAnd other.flags flagResponse = 0 ∧ loginSucceeds data) →
              property) := by
        rintro property none ⟨other, data, equal, type, flags, succeeds⟩
        obtain ⟨rfl, rfl⟩ := Prod.mk.inj (Option.some.inj equal)
        exact (none type flags succeeds).elim
      dsimp only
      split
      · rename_i heartbeat
        exact iff_of_true rfl (.inl (same fun type _ _ => absurd (heartbeat.symm.trans type) (by decide)))
      · split
        · rename_i response
          exact iff_of_true rfl (.inl (same fun _ flags _ => response flags))
        · rename_i plain
          split
          · rename_i login
            have reports : ∃ other data, some (header, body) = some (other, data) ∧
                other.type = msgAuthLoginResponse ∧ bitAnd other.flags flagResponse = 0 ∧ loginSucceeds data :=
              ⟨header, body, rfl, login.1, not_not.mp plain, login.2⟩
            rw [or_iff_right (not_not_intro reports)]
            exact eq_comm
          · rename_i other
            exact iff_of_true rfl (.inl (same fun type _ succeeds => other ⟨type, succeeds⟩))

end Operations

end SecureChatWebSocket

/-- The socket that an event comes from. -/
def ExchangeEvent.socket : ExchangeEvent → Option Nat
  | .client (.opened socket _ _) => some socket
  | .client (.message socket _) => some socket
  | .client (.error socket) => some socket
  | .client (.closed socket _) => some socket
  | _ => none

/-- The event is the firing of a timer. -/
def ExchangeEvent.timed : ExchangeEvent → Bool
  | .client (.reconnectTimer _) => true
  | .client (.timeout _) => true
  | .heartbeat _ _ => true
  | .responseTimeout _ => true
  | _ => false

namespace Exchange
open SecureChatWebSocket

/-- At most one socket is connecting or open, and at most one interval is armed. -/
structure Single (exchange : Exchange) : Prop where
  sockets : ∀ first second, exchange.client.Active first → exchange.client.Active second → first = second
  intervals : exchange.intervals.length ≤ 1

/-- The event leaves one active socket and one interval at most, it does not change the state
if it comes from a socket that the client does not hold, and as a timer it makes no socket
after `disconnect`. -/
structure Safe (exchange : Exchange) (event : ExchangeEvent) : Prop where
  single : (exchange.step event).Single
  stale : ∀ socket ∈ event.socket, exchange.client.socket ≠ some socket →
    (exchange.step event).client.state = exchange.client.state
  unwanted : event.timed = true → exchange.wanted = false →
    (exchange.step event).client.sockets.length = exchange.client.sockets.length

/-- A socket is made when none is active, and by the reconnect timer when a connection is wanted.
No interval is armed at an open event. An event of a socket that the client does not hold
announces the state that the client is in. -/
def Orderly (exchange : Exchange) : ExchangeEvent → Prop
  | .client (.connect created) => exchange.client.state ≠ .connected → exchange.client.state ≠ .connecting →
      created = true → ∀ socket, ¬ exchange.client.Active socket
  | .client (.reconnectTimer created) => exchange.client.reconnectTimers ≠ 0 →
      exchange.client.state ≠ .connected → exchange.client.state ≠ .connecting → created = true →
        exchange.wanted = true ∧ ∀ socket, ¬ exchange.client.Active socket
  | .client (.opened socket _ _) => exchange.client.readyState socket = some .connecting →
      exchange.intervals = [] ∧ (exchange.client.socket = some socket ∨ exchange.client.state = .connected)
  | .client (.message socket rawData) => exchange.client.readyState socket = some .open →
      exchange.client.socket = some socket ∨ ¬ LoginResponse rawData ∨ exchange.client.state = .authenticated
  | .client (.error socket) => (exchange.client.readyState socket).any (· ≠ .closed) →
      exchange.client.socket = some socket ∨ exchange.client.state =
        if exchange.client.sockets[socket]?.any (fun old => !old.settled && old.retries) ∧
          exchange.client.reconnectCount < exchange.client.reconnectAttempts then .reconnecting else .error
  | .client (.closed socket code) => (exchange.client.readyState socket).any (· ≠ .closed) →
      exchange.client.socket = some socket ∨ exchange.client.state =
        if ¬ (code = 1000 ∨ code = 1001) ∧ exchange.client.reconnectCount < exchange.client.reconnectAttempts
        then .reconnecting else .disconnected
  | _ => True

variable (exchange : Exchange) (clock : Int → Int)

/-- An event without a new socket or a new interval. -/
theorem Single.calmer {exchange next : Exchange} (single : exchange.Single)
    (calmer : Calmer exchange.client next.client) (fewer : next.intervals.length ≤ exchange.intervals.length) :
    next.Single :=
  ⟨fun first second one two => single.sockets first second (calmer.active first one) (calmer.active second two),
    fewer.trans single.intervals⟩

theorem stopHeartbeat_fewer : exchange.stopHeartbeat.intervals.length ≤ exchange.intervals.length ∧
    exchange.stopHeartbeat.client = exchange.client := by
  unfold stopHeartbeat
  split
  · exact ⟨le_refl _, rfl⟩
  · exact ⟨List.length_filter_le _ _, rfl⟩

theorem sendAll_intervals (messages : List (Message × Bool)) :
    (exchange.sendAll clock messages).intervals = exchange.intervals := by
  induction messages generalizing exchange with
  | nil => rfl
  | cons entry rest ih =>
      have first : (exchange.sendMessage clock entry.2 entry.1).intervals = exchange.intervals := by
        have posted := exchange.sendMessage_posted clock entry.2 entry.1
        generalize exchange.sendMessage clock entry.2 entry.1 = next at posted ⊢
        cases posted <;> rfl
      exact (ih _).trans first

/-- New calls touch no socket and no interval. -/
theorem call_calmer (entries : List (Int × List UInt8 × Bool)) :
    Calmer exchange.client (exchange.call clock entries).client ∧
      (exchange.call clock entries).client.state = exchange.client.state ∧
      (exchange.call clock entries).intervals = exchange.intervals := by
  obtain ⟨-, state, sockets⟩ := client_sendAll_frame clock exchange.client (numbered exchange.calls entries)
  rw [← call_client] at state sockets
  exact ⟨.of_sockets sockets, state, sendAll_intervals _ clock _⟩

/-- A socket that opens was connecting before. -/
theorem openedClient_active (client : SecureChatWebSocket) (socket : Nat)
    (connecting : client.readyState socket = some .connecting) (other : Nat)
    (active : (openedClient client socket).Active other) : client.Active other := by
  by_cases same : socket = other
  · exact same ▸ .inl connecting
  · have kept := client.readyState_changeSocket socket ({ · with readyState := .open }) other
    rw [if_neg same] at kept
    exact active.imp kept.symm.trans kept.symm.trans

/-- The open event of a socket arms one interval more, and no other socket is active after it. -/
theorem onopen_effect (socket : Nat) (eager : List (Int × List UInt8 × Bool))
    (connecting : exchange.client.readyState socket = some .connecting) :
    (∀ other, (exchange.onopen socket eager clock).client.Active other → exchange.client.Active other) ∧
      (exchange.onopen socket eager clock).client.state = .connected ∧
      (exchange.onopen socket eager clock).intervals.length = exchange.intervals.length + 1 := by
  let opened : Exchange := { exchange with client := openedClient exchange.client socket }
  obtain ⟨called, state, intervals⟩ := opened.call_calmer clock eager
  let flushing : Exchange := { (opened.call clock eager).startHeartbeat with
    client := { (opened.call clock eager).client with pendingMessages := [] } }
  let waiting := (opened.call clock eager).client.pendingMessages.map (·, false)
  obtain ⟨-, last, sockets⟩ := client_sendAll_frame clock flushing.client waiting
  rw [← sendAll_client] at last sockets
  have settled : Calmer (flushing.sendAll clock waiting).client (exchange.onopen socket eager clock).client :=
    changeSocket_calmer _ socket _ fun _ => .inl rfl
  have flushed : Calmer (opened.call clock eager).client (flushing.sendAll clock waiting).client :=
    .of_sockets sockets
  refine ⟨fun other active => ?_, last.trans state, ?_⟩
  · have whole := (called.trans flushed).trans settled
    exact openedClient_active exchange.client socket connecting other (whole.active other active)
  · have armed : (exchange.onopen socket eager clock).intervals =
        (opened.call clock eager).intervals ++ [(opened.call clock eager).nextInterval] :=
      flushing.sendAll_intervals clock waiting
    rw [armed, intervals, List.length_append]
    rfl

section Steps

variable (event : ExchangeEvent)

/-- An event that makes no socket and no interval is safe exactly if a stale one announces nothing new. -/
theorem safe_iff_of_calmer (single : exchange.Single)
    (calmer : Calmer exchange.client (exchange.step event).client)
    (fewer : (exchange.step event).intervals.length ≤ exchange.intervals.length) :
    exchange.Safe event ↔ ∀ socket ∈ event.socket, exchange.client.socket ≠ some socket →
      (exchange.step event).client.state = exchange.client.state :=
  ⟨Safe.stale, fun stale => ⟨single.calmer calmer fewer, stale, fun _ _ => calmer.length⟩⟩

/-- A new socket is safe exactly if no other one is active, and if the application wants it. -/
theorem connect_safe_iff (retries created : Bool) (client : SecureChatWebSocket) (wanted : Bool)
    (single : exchange.Single) (sockets : client.sockets = exchange.client.sockets)
    (state : client.state = exchange.client.state) :
    (Single { exchange with client := client.connect retries created, wanted := wanted } ↔
      (exchange.client.state ≠ .connected → exchange.client.state ≠ .connecting → created = true →
        ∀ socket, ¬ exchange.client.Active socket)) ∧
    ((client.connect retries created).sockets.length = exchange.client.sockets.length ↔
      ¬ (exchange.client.state ≠ .connected ∧ exchange.client.state ≠ .connecting ∧ created = true)) := by
  have before : Calmer exchange.client client := .of_sockets sockets
  have same : ∀ socket, client.Active socket ↔ exchange.client.Active socket := by
    intro socket
    unfold Active readyState
    rw [sockets]
  rcases client.connect_cases retries created with ⟨refused, calmer⟩ | ⟨first, second, third, made⟩
  · rw [state] at refused
    have whole := before.trans calmer
    constructor
    · refine iff_of_true (single.calmer whole (le_refl _)) fun one two three => ?_
      rcases refused with other | other | other
      · exact absurd other one
      · exact absurd other two
      · exact absurd (other.symm.trans three) Bool.false_ne_true
    · refine iff_of_true whole.length ?_
      rintro ⟨one, two, three⟩
      rcases refused with other | other | other
      · exact one other
      · exact two other
      · exact absurd (other.symm.trans three) Bool.false_ne_true
  · rw [state] at first second
    have one := client.connect_single_iff _ _ rfl made
    constructor
    · constructor
      · rintro ⟨active, -⟩ _ _ _ socket
        exact fun there => one.mp active socket ((same socket).mpr there)
      · intro none
        refine ⟨one.mpr fun socket there => none first second third socket ((same socket).mp there), ?_⟩
        exact single.intervals
    · refine iff_of_false (fun equal => ?_) (not_not_intro ⟨first, second, third⟩)
      rw [made, List.length_append, sockets] at equal
      exact Nat.succ_ne_self _ equal

/-- An event of no socket that makes no socket and no interval is safe. -/
theorem safe_of_calmer (single : exchange.Single) (calmer : Calmer exchange.client (exchange.step event).client)
    (fewer : (exchange.step event).intervals.length ≤ exchange.intervals.length) (none : event.socket = none) :
    exchange.Safe event :=
  (exchange.safe_iff_of_calmer event single calmer fewer).mpr fun _ member => nomatch none ▸ member

/-- An event that does not happen is safe. -/
theorem safe_of_same (single : exchange.Single) (same : exchange.step event = exchange) : exchange.Safe event :=
  ⟨same.symm ▸ single, fun _ _ _ => by rw [same], fun _ _ => by rw [same]⟩

/-- An event that happens only under a condition has to be in order only under it. -/
theorem safe_iff_of_happens {happens orderly : Prop} (single : exchange.Single)
    (idle : ¬ happens → exchange.step event = exchange) (here : happens → (exchange.Safe event ↔ orderly)) :
    exchange.Safe event ↔ (happens → orderly) := by
  by_cases valid : happens
  · exact (here valid).trans ⟨fun holds _ => holds, fun holds => holds valid⟩
  · exact iff_of_true (exchange.safe_of_same event single (idle valid)) fun other => absurd other valid

/-- What a stale event announces is compared with the state of the client. -/
theorem stale_iff (socket : Nat) (source : event.socket = some socket) (state : ConnectionState) :
    (∀ other ∈ event.socket, exchange.client.socket ≠ some other → state = exchange.client.state) ↔
      exchange.client.socket = some socket ∨ exchange.client.state = state := by
  rw [source]
  constructor
  · intro stale
    by_cases held : exchange.client.socket = some socket
    · exact .inl held
    · exact .inr (stale socket rfl held).symm
  · rintro either other member apart
    obtain rfl := Option.some.inj member
    exact (either.resolve_left apart).symm

/-- An event of a socket that makes no socket and no interval is safe exactly if the client holds
the socket or is in the announced state. -/
theorem safe_iff_announces (next : Exchange) (stepped : exchange.step event = next) (single : exchange.Single)
    (calmer : Calmer exchange.client next.client) (fewer : next.intervals.length ≤ exchange.intervals.length)
    (socket : Nat) (source : event.socket = some socket) :
    exchange.Safe event ↔
      exchange.client.socket = some socket ∨ exchange.client.state = next.client.state := by
  subst stepped
  exact (exchange.safe_iff_of_calmer event single calmer fewer).trans (exchange.stale_iff event socket source _)

theorem connect_step (created : Bool) (single : exchange.Single) :
    exchange.Safe (.client (.connect created)) ↔ exchange.Orderly (.client (.connect created)) := by
  have one := (exchange.connect_safe_iff false created exchange.client true single rfl rfl).1
  exact ⟨fun safe => one.mp safe.single, fun orderly => ⟨one.mpr orderly, (fun _ member => nomatch member), nofun⟩⟩

theorem reconnectTimer_step (created : Bool) (single : exchange.Single) :
    exchange.Safe (.client (.reconnectTimer created)) ↔ exchange.Orderly (.client (.reconnectTimer created)) := by
  by_cases armed : exchange.client.reconnectTimers = 0
  · have same : exchange.step (.client (.reconnectTimer created)) = exchange := by
      rw [step, clientStep, if_pos armed]
    exact iff_of_true (exchange.safe_of_same _ single same) fun other => absurd armed other
  · obtain ⟨one, fresh⟩ := exchange.connect_safe_iff true created
      { exchange.client with reconnectTimers := exchange.client.reconnectTimers - 1 } exchange.wanted single rfl
      rfl
    have stepped : exchange.step (.client (.reconnectTimer created)) = { exchange with
        client := { exchange.client with
          reconnectTimers := exchange.client.reconnectTimers - 1 }.connect true created } := by
      rw [step, clientStep, if_neg armed]
    constructor
    · intro safe _ first second third
      refine ⟨?_, one.mp (stepped ▸ safe.single) first second third⟩
      by_contra unwanted
      have length := safe.unwanted rfl (Bool.eq_false_iff.mpr unwanted)
      rw [stepped] at length
      exact fresh.mp length ⟨first, second, third⟩
    · intro orderly
      refine ⟨?_, ?_, fun _ unwanted => ?_⟩
      · rw [stepped]
        exact one.mpr fun first second third => (orderly armed first second third).2
      · rintro _ ⟨⟩
      · rw [stepped]
        apply fresh.mpr
        rintro ⟨first, second, third⟩
        exact Bool.false_ne_true (unwanted.symm.trans (orderly armed first second third).1)

theorem opened_step (socket : Nat) (eager : List (Int × List UInt8 × Bool)) (single : exchange.Single) :
    exchange.Safe (.client (.opened socket eager clock)) ↔
      exchange.Orderly (.client (.opened socket eager clock)) := by
  refine exchange.safe_iff_of_happens _ single (fun other => if_neg other) fun connecting => ?_
  have stepped : exchange.step (.client (.opened socket eager clock)) = exchange.onopen socket eager clock :=
    if_pos connecting
  obtain ⟨active, state, intervals⟩ := exchange.onopen_effect clock socket eager connecting
  have stale := exchange.stale_iff (.client (.opened socket eager clock)) socket rfl .connected
  have armed : (exchange.step (.client (.opened socket eager clock))).Single ↔ exchange.intervals = [] := by
    rw [stepped]
    constructor
    · rintro ⟨-, bound⟩
      rw [intervals] at bound
      exact List.length_eq_zero_iff.mp (Nat.le_zero.mp (Nat.le_of_succ_le_succ bound))
    · intro none
      refine ⟨fun first second one two => single.sockets first second (active first one) (active second two), ?_⟩
      rw [intervals, none]
      exact le_refl _
  constructor
  · intro safe
    have kept := safe.stale
    rw [stepped, state] at kept
    exact ⟨armed.mp safe.single, stale.mp kept⟩
  · rintro ⟨none, either⟩
    refine ⟨armed.mpr none, ?_, nofun⟩
    rw [stepped, state]
    exact stale.mpr either

theorem message_step (socket : Nat) (rawData : List UInt8) (single : exchange.Single) :
    exchange.Safe (.client (.message socket rawData)) ↔ exchange.Orderly (.client (.message socket rawData)) := by
  refine exchange.safe_iff_of_happens _ single (fun other => if_neg other) fun opened => ?_
  obtain ⟨client, intervals⟩ := exchange.handleMessage_client rawData
  have calmer : Calmer exchange.client (exchange.handleMessage rawData).client :=
    client ▸ exchange.client.handleMessage_calmer rawData
  have announces := exchange.safe_iff_announces (.client (.message socket rawData)) _ (if_pos opened) single
    calmer (Nat.le_of_eq (congrArg _ intervals)) socket rfl
  rw [client] at announces
  exact announces.trans (or_congr_right (eq_comm.trans (exchange.client.handleMessage_state rawData)))

theorem error_step (socket : Nat) (single : exchange.Single) :
    exchange.Safe (.client (.error socket)) ↔ exchange.Orderly (.client (.error socket)) := by
  refine exchange.safe_iff_of_happens _ single (fun other => if_neg other) fun valid => ?_
  rw [← exchange.client.onerror_state]
  exact exchange.safe_iff_announces (.client (.error socket)) (exchange.onerror socket) (if_pos valid) single
    (exchange.client.onerror_calmer socket) (le_refl _) socket rfl

theorem closed_step (socket code : Nat) (single : exchange.Single) :
    exchange.Safe (.client (.closed socket code)) ↔ exchange.Orderly (.client (.closed socket code)) := by
  refine exchange.safe_iff_of_happens _ single (fun other => if_neg other) fun valid => ?_
  rw [← exchange.client.onclose_state]
  exact exchange.safe_iff_announces (.client (.closed socket code)) (exchange.onclose socket code) (if_pos valid)
    single (exchange.client.onclose_calmer socket code) exchange.stopHeartbeat_fewer.1 socket rfl

theorem onResponseTimeout_client (correlationId : Int) :
    (exchange.onResponseTimeout correlationId).client = exchange.client ∧
      (exchange.onResponseTimeout correlationId).intervals = exchange.intervals := by
  rw [onResponseTimeout]
  dsimp only
  split <;> exact ⟨rfl, rfl⟩

/-- Each event is safe exactly if it is in order. -/
theorem step_safe (single : exchange.Single) : exchange.Safe event ↔ exchange.Orderly event := by
  have same : exchange.step event = exchange → exchange.Safe event := exchange.safe_of_same event single
  cases event with
  | client event =>
      cases event with
      | connect created => exact exchange.connect_step created single
      | reconnectTimer created => exact exchange.reconnectTimer_step created single
      | opened socket eager clock => exact exchange.opened_step clock socket eager single
      | message socket rawData => exact exchange.message_step socket rawData single
      | error socket => exact exchange.error_step socket single
      | closed socket code => exact exchange.closed_step socket code single
      | timeout socket =>
          refine iff_of_true (exchange.safe_of_calmer _ single ?_ (le_refl _) rfl) trivial
          show Calmer exchange.client (clientStep exchange.client exchange.calls (.timeout socket)).1
          rw [clientStep]
          split
          · exact exchange.client.onConnectTimeout_calmer socket
          · exact .of_sockets rfl
      | sendMessage type data expectResponse clock =>
          obtain ⟨calmer, -, intervals⟩ := exchange.call_calmer clock [(type, data, expectResponse)]
          have fewer := Nat.le_of_eq (congrArg List.length intervals)
          exact iff_of_true (exchange.safe_of_calmer (.client (.sendMessage type data expectResponse clock)) single
            calmer fewer rfl) trivial
      | disconnect =>
          exact iff_of_true (exchange.safe_of_calmer _ single exchange.client.disconnect_calmer
            exchange.stopHeartbeat_fewer.1 rfl) trivial
  | heartbeat interval clock =>
      refine iff_of_true ?_ trivial
      by_cases armed : interval ∈ exchange.intervals
      · have stepped : exchange.step (.heartbeat interval clock) = exchange.onHeartbeat clock := if_pos armed
        rcases exchange.onHeartbeat_cases clock with still | sends
        · exact same (stepped.trans still)
        · obtain ⟨calmer, -, intervals⟩ := exchange.call_calmer clock [(msgSystemHeartbeat, [], false)]
          rw [← sends, ← stepped] at calmer intervals
          exact exchange.safe_of_calmer _ single calmer (Nat.le_of_eq (congrArg _ intervals)) rfl
      · exact same (if_neg armed)
  | responseTimeout correlationId =>
      refine iff_of_true ?_ trivial
      by_cases armed : correlationId ∈ exchange.responseTimers
      · have stepped : exchange.step (.responseTimeout correlationId) = exchange.onResponseTimeout correlationId :=
          if_pos armed
        obtain ⟨client, intervals⟩ := exchange.onResponseTimeout_client correlationId
        rw [← stepped] at client intervals
        exact exchange.safe_of_calmer _ single (.of_sockets (congrArg _ client))
          (Nat.le_of_eq (congrArg _ intervals)) rfl
      · exact same (if_neg armed)

end Steps

theorem create_single (reconnectAttempts : Nat) : (create reconnectAttempts).Single := by
  refine ⟨fun first second active => ?_, Nat.zero_le 1⟩
  exact active.elim nofun nofun

end Exchange

open Exchange

/-- Every step of a run is safe exactly if every event of it is in order. -/
theorem exchangeMachine_safe_iff (reconnectAttempts : Nat) (events : List ExchangeEvent) :
    exchangeMachine.Along Safe (create reconnectAttempts) events ↔
      exchangeMachine.Along Orderly (create reconnectAttempts) events :=
  exchangeMachine.along_iff_along Safe Orderly Single
    (fun exchange event single => exchange.step_safe event single)
    (fun exchange event single orderly => ((exchange.step_safe event single).mpr orderly).single) _ events
    (create_single reconnectAttempts)

/-- The timer of a lost connection makes a socket after `disconnect`. -/
theorem exchangeMachine_reopens :
    ¬ exchangeMachine.Along Safe (create 5) [.client (.connect true), .client (.closed 0 1006),
      .client .disconnect, .client (.reconnectTimer true)] := by
  rintro ⟨-, -, -, timer, -⟩
  exact absurd (timer.unwanted rfl rfl) (by decide)

end SecureChat.Web
