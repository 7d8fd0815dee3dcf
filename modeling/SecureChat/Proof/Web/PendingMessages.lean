import SecureChat.Proof.Web.Header

namespace SecureChat.Web
open Library

/-- The current socket has seen its open event and no close since. -/
def Live (client : SecureChatWebSocket) : Prop :=
  ∃ socket, client.socket = some socket ∧ client.readyState socket = some .open

/-- On a live connection no message waits, and messages reach a socket in the order of their calls. -/
structure Prompt (session : Session) : Prop where
  noneWaits : Live session.client → session.client.pendingMessages = []
  inOrder : (session.transmitted.map (·.call)).Pairwise (· < ·)

/-- A message is not sent on a live connection in another state than connected,
and the state callbacks send nothing while messages wait for the open event. -/
def Timely (session : Session) : ClientEvent → Prop
  | .sendMessage _ _ _ _ => Live session.client → session.client.state = .connected
  | .opened socket eager _ =>
      session.client.socket = some socket → session.client.readyState socket = some .connecting →
        eager = [] ∨ session.client.pendingMessages = []
  | _ => True

/-- The waiting messages come after all that have reached a socket. -/
structure Ordered (session : Session) : Prop where
  sorted : (session.transmitted.map (·.call) ++
    session.client.pendingMessages.map (·.call)).Pairwise (· < ·)
  past : ∀ call ∈ session.transmitted.map (·.call) ++ session.client.pendingMessages.map (·.call),
    call < session.calls

namespace SecureChatWebSocket

/-- The operation sends nothing, changes no waiting message and opens no connection. -/
structure Quiet (client next : SecureChatWebSocket) : Prop where
  pending : next.pendingMessages = client.pendingMessages
  live : Live next → Live client

theorem Quiet.refl (client : SecureChatWebSocket) : Quiet client client := ⟨rfl, id⟩

theorem Quiet.trans {client middle next : SecureChatWebSocket} (first : Quiet client middle)
    (second : Quiet middle next) : Quiet client next :=
  ⟨second.pending.trans first.pending, fun live => first.live (second.live live)⟩

section Operations

variable (client : SecureChatWebSocket)

theorem setState_quiet (state : ConnectionState) : Quiet client (client.setState state) := ⟨rfl, id⟩

theorem readyState_changeSocket (socket : Nat) (change : Socket → Socket) (other : Nat) :
    (client.changeSocket socket change).readyState other =
      if socket = other then client.sockets[other]?.map fun old => (change old).readyState
      else client.readyState other := by
  unfold readyState changeSocket
  rw [List.getElem?_modify]
  cases client.sockets[other]? <;> split <;> rfl

theorem changeSocket_quiet (socket : Nat) (change : Socket → Socket)
    (opens : ∀ old, (change old).readyState = .open → old.readyState = .open) :
    Quiet client (client.changeSocket socket change) := by
  refine ⟨rfl, ?_⟩
  rintro ⟨current, same, opened⟩
  refine ⟨current, same, ?_⟩
  rw [readyState_changeSocket] at opened
  split at opened
  · obtain ⟨old, found, state⟩ := Option.map_eq_some_iff.mp opened
    rw [readyState, found, Option.map_some, opens old state]
  · exact opened

theorem reconnect_quiet : Quiet client client.reconnect := ⟨rfl, id⟩

theorem retry_quiet : Quiet client client.retry := by
  unfold retry
  split
  · exact client.reconnect_quiet
  · exact .refl client

theorem reject_quiet (socket : Nat) : Quiet client (client.reject socket) := by
  have answered := client.changeSocket_quiet socket ({ · with settled := true }) fun _ opened => opened
  unfold reject
  split
  · exact .refl client
  · dsimp only
    split
    · exact answered.trans (retry_quiet _)
    · exact answered

theorem closeSocket_quiet (socket : Nat) : Quiet client (client.closeSocket socket) := by
  refine client.changeSocket_quiet socket _ fun old opened => ?_
  dsimp only at opened
  split at opened <;> cases opened

theorem connect_quiet (retries created : Bool) : Quiet client (client.connect retries created) := by
  unfold connect
  split
  · split
    · exact client.retry_quiet
    · exact .refl client
  · dsimp only
    split
    · refine ⟨rfl, ?_⟩
      rintro ⟨current, same, opened⟩
      obtain rfl := Option.some.inj same
      unfold readyState at opened
      rw [List.getElem?_concat_length] at opened
      cases opened
    · have failed : Quiet client ((client.setState .connecting).setState .error) :=
        (client.setState_quiet _).trans (setState_quiet _ _)
      split
      · exact failed.trans (retry_quiet _)
      · exact failed

theorem handleMessage_quiet (rawData : List UInt8) : Quiet client (client.handleMessage rawData) := by
  unfold handleMessage
  split
  · exact .refl client
  · split
    · exact .refl client
    · split
      · exact .refl client
      · split
        · exact client.setState_quiet _
        · exact .refl client

theorem onclose_quiet (socket code : Nat) : Quiet client (client.onclose socket code) := by
  have closed := client.changeSocket_quiet socket ({ · with readyState := .closed })
    fun _ opened => nomatch opened
  unfold onclose
  dsimp only
  split
  · exact closed.trans (setState_quiet _ _)
  · split
    · exact closed.trans (reconnect_quiet _)
    · exact closed.trans (setState_quiet _ _)

theorem onConnectTimeout_quiet (socket : Nat) : Quiet client (client.onConnectTimeout socket) := by
  have fired := client.changeSocket_quiet socket ({ · with timer := false }) fun _ opened => opened
  unfold onConnectTimeout
  dsimp only
  split
  · refine Quiet.trans ?_ (reject_quiet _ socket)
    split
    · exact fired.trans (closeSocket_quiet _ _)
    · exact fired
  · exact fired

theorem disconnect_empty : client.disconnect.pendingMessages = [] ∧ ¬ Live client.disconnect := by
  have emptied : client.disconnect.pendingMessages = [] ∧ client.disconnect.socket = none := by
    unfold disconnect
    split
    · exact ⟨rfl, rfl⟩
    · rename_i unset
      exact ⟨rfl, unset⟩
  refine ⟨emptied.1, ?_⟩
  rintro ⟨socket, same, -⟩
  cases emptied.2.symm.trans same

end Operations

section Sending

variable (clock : Int → Int)

/-- Only the counters of the messages differ. -/
structure Same (client next : SecureChatWebSocket) : Prop where
  socket : next.socket = client.socket
  state : next.state = client.state
  sockets : next.sockets = client.sockets
  pending : next.pendingMessages = client.pendingMessages

theorem sendMessage_waits (client : SecureChatWebSocket) (message : Message) (expectResponse : Bool)
    (waits : client.socket = none ∨ client.state ≠ .connected) :
    client.sendMessage clock expectResponse message =
      ({ client with pendingMessages := client.pendingMessages ++ [message] }, []) := by
  rw [sendMessage]
  cases current : client.socket with
  | none => rfl
  | some socket =>
      have other : client.state ≠ .connected := waits.resolve_left (current ▸ Option.some_ne_none socket)
      dsimp only
      rw [if_pos other]

theorem sendMessage_connected (client : SecureChatWebSocket) (socket : Nat) (message : Message)
    (expectResponse : Bool) (current : client.socket = some socket) (connected : client.state = .connected) :
    Same client (client.sendMessage clock expectResponse message).1 ∧
      (client.sendMessage clock expectResponse message).2.map (·.call) =
        if client.readyState socket = some .open then [message.call] else [] := by
  rw [sendMessage, current]
  dsimp only
  rw [if_neg (not_not_intro connected), messageFrame_eq]
  cases client.readyState socket with
  | none => exact ⟨⟨current.symm, rfl, rfl, rfl⟩, rfl⟩
  | some state => cases state <;> exact ⟨⟨current.symm, rfl, rfl, rfl⟩, rfl⟩

theorem sendAll_waits (client : SecureChatWebSocket) (messages : List (Message × Bool))
    (waits : client.socket = none ∨ client.state ≠ .connected) :
    client.sendAll clock messages =
      ({ client with pendingMessages := client.pendingMessages ++ messages.map Prod.fst }, []) := by
  induction messages generalizing client with
  | nil =>
      rw [List.map_nil, List.append_nil]
      rfl
  | cons entry rest ih =>
      obtain ⟨message, expectResponse⟩ := entry
      have later := ih { client with pendingMessages := client.pendingMessages ++ [message] } waits
      rw [sendAll, sendMessage_waits clock client message expectResponse waits]
      dsimp only at later ⊢
      rw [later, List.map_cons, List.append_assoc]
      rfl

theorem sendAll_connected (client : SecureChatWebSocket) (socket : Nat) (messages : List (Message × Bool))
    (current : client.socket = some socket) (connected : client.state = .connected) :
    Same client (client.sendAll clock messages).1 ∧
      (client.sendAll clock messages).2.map (·.call) =
        if client.readyState socket = some .open then messages.map (·.1.call) else [] := by
  induction messages generalizing client with
  | nil =>
      refine ⟨⟨rfl, rfl, rfl, rfl⟩, ?_⟩
      split <;> rfl
  | cons entry rest ih =>
      obtain ⟨message, expectResponse⟩ := entry
      obtain ⟨same, first⟩ := sendMessage_connected clock client socket message expectResponse current connected
      obtain ⟨last, later⟩ := ih (client.sendMessage clock expectResponse message).1
        (same.socket.trans current) (same.state.trans connected)
      have ready : (client.sendMessage clock expectResponse message).1.readyState socket =
          client.readyState socket := by
        unfold readyState
        rw [same.sockets]
      rw [ready] at later
      refine ⟨⟨last.socket.trans same.socket, last.state.trans same.state, last.sockets.trans same.sockets,
        last.pending.trans same.pending⟩, ?_⟩
      have joined : (client.sendAll clock ((message, expectResponse) :: rest)).2 =
          (client.sendMessage clock expectResponse message).2 ++
            ((client.sendMessage clock expectResponse message).1.sendAll clock rest).2 := rfl
      rw [joined, List.map_append, first, later]
      split <;> rfl

/-- Messages that are called for at first wait again when there is no socket. -/
theorem flush_waits (client : SecureChatWebSocket) (eager : List (Message × Bool)) (unset : client.socket = none) :
    (client.sendAll clock eager).2 = [] ∧
      ((client.sendAll clock eager).1.flushPendingMessages clock).2 = [] ∧
      ((client.sendAll clock eager).1.flushPendingMessages clock).1.pendingMessages =
        client.pendingMessages ++ eager.map Prod.fst ∧
      ((client.sendAll clock eager).1.flushPendingMessages clock).1.socket = none := by
  have again := sendAll_waits clock { client with pendingMessages := [] }
    ((client.pendingMessages ++ eager.map Prod.fst).map (·, false)) (.inl unset)
  rw [List.map_map, List.nil_append] at again
  rw [sendAll_waits clock client eager (.inl unset), flushPendingMessages]
  dsimp only at again ⊢
  rw [again]
  exact ⟨rfl, rfl, List.map_id _, unset⟩

/-- With a socket they are sent at once, and the waiting messages after them. -/
theorem flush_connected (client : SecureChatWebSocket) (socket : Nat) (eager : List (Message × Bool))
    (current : client.socket = some socket) (connected : client.state = .connected) :
    ((client.sendAll clock eager).1.flushPendingMessages clock).1.pendingMessages = [] ∧
      ((client.sendAll clock eager).2 ++ ((client.sendAll clock eager).1.flushPendingMessages clock).2).map
        (·.call) =
        if client.readyState socket = some .open then
          eager.map (·.1.call) ++ client.pendingMessages.map (·.call)
        else [] := by
  obtain ⟨first, called⟩ := sendAll_connected clock client socket eager current connected
  obtain ⟨second, flushed⟩ := sendAll_connected clock
    { (client.sendAll clock eager).1 with pendingMessages := [] } socket
    ((client.sendAll clock eager).1.pendingMessages.map (·, false))
    (first.socket.trans current) (first.state.trans connected)
  have ready : readyState { (client.sendAll clock eager).1 with pendingMessages := [] } socket =
      client.readyState socket := by
    unfold readyState
    dsimp only
    rw [first.sockets]
  rw [ready, List.map_map, first.pending] at flushed
  refine ⟨second.pending, ?_⟩
  rw [List.map_append, called, flushPendingMessages, first.pending, flushed]
  split <;> rfl

/-- What the open event of a socket does with the messages of the callbacks and the waiting ones. -/
theorem onopen_messages (client : SecureChatWebSocket) (socket : Nat) (eager : List (Message × Bool))
    (connecting : client.readyState socket = some .connecting) :
    (client.socket = none ∧ (client.onopen socket eager clock).2 = [] ∧
      (client.onopen socket eager clock).1.pendingMessages = client.pendingMessages ++ eager.map Prod.fst ∧
      (client.onopen socket eager clock).1.socket = none) ∨
    (∃ current, client.socket = some current ∧ (client.onopen socket eager clock).1.pendingMessages = [] ∧
      (client.onopen socket eager clock).2.map (·.call) =
        if current = socket ∨ client.readyState current = some .open then
          eager.map (·.1.call) ++ client.pendingMessages.map (·.call)
        else []) := by
  cases known : client.socket with
  | none =>
      obtain ⟨first, second, pending, unset⟩ := flush_waits clock
        ((client.changeSocket socket ({ · with readyState := .open })).setState .connected) eager known
      refine .inl ⟨rfl, ?_, pending, unset⟩
      rw [onopen]
      dsimp only
      rw [first, second]
      rfl
  | some current =>
      obtain ⟨old, found, -⟩ := Option.map_eq_some_iff.mp connecting
      have opened : (client.changeSocket socket ({ · with readyState := .open })).readyState current =
          some .open ↔ current = socket ∨ client.readyState current = some .open := by
        rw [readyState_changeSocket]
        by_cases same : socket = current
        · obtain rfl := same
          rw [if_pos rfl, found]
          exact iff_of_true rfl (.inl rfl)
        · rw [if_neg same]
          exact (or_iff_right fun equal => same equal.symm).symm
      obtain ⟨pending, sent⟩ := flush_connected clock
        ((client.changeSocket socket ({ · with readyState := .open })).setState .connected) current eager
        known rfl
      refine .inr ⟨current, rfl, pending, sent.trans ?_⟩
      exact if_congr opened rfl rfl

end Sending

end SecureChatWebSocket

section Steps

variable (session : Session)

theorem session_step (event : ClientEvent) : (sessionMachine.step session event).1 =
    ⟨(clientStep session.client session.calls event).1, session.calls + event.calls,
      session.transmitted ++ (clientStep session.client session.calls event).2⟩ := rfl

/-- An event that sends nothing keeps what has been reached. -/
theorem quiet_step (event : ClientEvent) (next : SecureChatWebSocket)
    (quiet : SecureChatWebSocket.Quiet session.client next)
    (same : clientStep session.client session.calls event = (next, [])) :
    (Prompt session → Prompt (sessionMachine.step session event).1) ∧
      (Ordered session → Ordered (sessionMachine.step session event).1) := by
  rw [session_step, same, List.append_nil]
  constructor
  · rintro ⟨noneWaits, inOrder⟩
    exact ⟨fun live => quiet.pending.trans (noneWaits (quiet.live live)), inOrder⟩
  · rintro ⟨sorted, past⟩
    constructor
    · show (_ ++ next.pendingMessages.map (·.call)).Pairwise _
      rw [quiet.pending]
      exact sorted
    · show ∀ call ∈ _ ++ next.pendingMessages.map (·.call), _
      rw [quiet.pending]
      exact fun call member => Nat.lt_of_lt_of_le (past call member) (Nat.le_add_right _ _)

/-- The calls of several messages are consecutive. -/
theorem numbered_calls (call : Nat) (entries : List (Int × List UInt8 × Bool)) :
    (numbered call entries).map (·.1.call) = List.range' call entries.length := by
  induction entries generalizing call with
  | nil => rfl
  | cons entry rest ih =>
      obtain ⟨type, data, expectResponse⟩ := entry
      rw [numbered, List.map_cons, ih, List.length_cons, List.range'_succ]

/-- New calls come after the earlier ones. -/
theorem later_calls {calls : List Nat} {next : Nat} (sorted : calls.Pairwise (· < ·))
    (past : ∀ call ∈ calls, call < next) (count : Nat) :
    (calls ++ List.range' next count).Pairwise (· < ·) ∧
      ∀ call ∈ calls ++ List.range' next count, call < next + count := by
  constructor
  · rw [List.pairwise_append]
    refine ⟨sorted, List.pairwise_lt_range', fun first old second new => ?_⟩
    have before := past first old
    have after := (List.mem_range'_1.mp new).1
    omega
  · intro call member
    rcases List.mem_append.mp member with old | new
    · have before := past call old
      omega
    · exact (List.mem_range'_1.mp new).2

/-- New calls stay in order before the waiting ones only when one of the two is empty. -/
theorem earlier_calls_iff {reached waiting : List Nat} {next : Nat}
    (sorted : (reached ++ waiting).Pairwise (· < ·)) (past : ∀ call ∈ reached ++ waiting, call < next)
    (count : Nat) :
    (reached ++ (List.range' next count ++ waiting)).Pairwise (· < ·) ↔ count = 0 ∨ waiting = [] := by
  constructor
  · intro ordered
    by_contra both
    obtain ⟨some, other⟩ := not_or.mp both
    obtain ⟨call, rest, rfl⟩ := List.exists_cons_of_ne_nil other
    have crossed := (List.pairwise_append.mp (List.pairwise_append.mp ordered).2.1).2.2
    have after := crossed next (List.mem_range'_1.mpr (by omega)) call List.mem_cons_self
    have before := past call (List.mem_append_right _ List.mem_cons_self)
    omega
  · rintro (rfl | rfl)
    · exact sorted
    · rw [List.append_nil] at sorted past ⊢
      exact (later_calls sorted past count).1

/-- A message that waits is out of time exactly on a live connection. -/
theorem sendMessage_waiting (type : Int) (data : List UInt8) (expectResponse : Bool) (clock : Int → Int)
    (ordered : Ordered session) (prompt : Prompt session)
    (waits : session.client.socket = none ∨ session.client.state ≠ .connected) :
    (Prompt (sessionMachine.step session (.sendMessage type data expectResponse clock)).1 ↔
      Timely session (.sendMessage type data expectResponse clock)) ∧
    Ordered (sessionMachine.step session (.sendMessage type data expectResponse clock)).1 := by
  obtain ⟨sorted, past⟩ := later_calls ordered.sorted ordered.past 1
  have stepped : (sessionMachine.step session (.sendMessage type data expectResponse clock)).1 =
      ⟨(session.client.sendMessage clock expectResponse ⟨session.calls, type, data⟩).1, session.calls + 1,
        session.transmitted ++
          (session.client.sendMessage clock expectResponse ⟨session.calls, type, data⟩).2⟩ := rfl
  rw [stepped, SecureChatWebSocket.sendMessage_waits clock session.client _ expectResponse waits,
    List.append_nil]
  constructor
  · constructor
    · intro next live
      have emptied := next.noneWaits live
      exact absurd emptied (List.append_ne_nil_of_right_ne_nil _ (List.cons_ne_nil _ _))
    · intro timely
      refine ⟨fun live => ?_, prompt.inOrder⟩
      obtain ⟨socket, current, -⟩ := id live
      rcases waits with unset | other
      · cases unset.symm.trans current
      · exact absurd (timely live) other
  · constructor
    · rw [List.map_append, ← List.append_assoc]
      exact sorted
    · rw [List.map_append, ← List.append_assoc]
      exact past

/-- A message that is sent at once finds no other one waiting on an open socket. -/
theorem sendMessage_sent (type : Int) (data : List UInt8) (expectResponse : Bool) (clock : Int → Int)
    (ordered : Ordered session) (prompt : Prompt session) (socket : Nat)
    (current : session.client.socket = some socket) (connected : session.client.state = .connected) :
    Prompt (sessionMachine.step session (.sendMessage type data expectResponse clock)).1 ∧
      Ordered (sessionMachine.step session (.sendMessage type data expectResponse clock)).1 := by
  obtain ⟨sorted, past⟩ := later_calls ordered.sorted ordered.past 1
  obtain ⟨kept, sent⟩ := SecureChatWebSocket.sendMessage_connected clock session.client socket
    ⟨session.calls, type, data⟩ expectResponse current connected
  have live : Live (session.client.sendMessage clock expectResponse ⟨session.calls, type, data⟩).1 →
      Live session.client := by
    rintro ⟨other, found, opened⟩
    refine ⟨other, kept.socket.symm.trans found, ?_⟩
    rw [SecureChatWebSocket.readyState, ← kept.sockets]
    exact opened
  have next : Ordered ⟨(session.client.sendMessage clock expectResponse ⟨session.calls, type, data⟩).1,
      session.calls + 1, session.transmitted ++
        (session.client.sendMessage clock expectResponse ⟨session.calls, type, data⟩).2⟩ := by
    constructor
    · rw [List.map_append, sent, kept.pending]
      split
      · rename_i opened
        have empty := prompt.noneWaits ⟨socket, current, opened⟩
        rw [empty, List.map_nil, List.append_nil] at sorted ⊢
        exact sorted
      · rw [List.append_nil]
        exact ordered.sorted
    · rw [List.map_append, sent, kept.pending]
      split
      · rename_i opened
        have empty := prompt.noneWaits ⟨socket, current, opened⟩
        rw [empty, List.map_nil, List.append_nil] at past ⊢
        exact past
      · rw [List.append_nil]
        exact fun call member => Nat.lt_succ_of_lt (ordered.past call member)
  refine ⟨⟨fun opened => ?_, ?_⟩, next⟩
  · exact kept.pending.trans (prompt.noneWaits (live opened))
  · exact (List.pairwise_append.mp next.sorted).1

/-- A message joins the waiting ones, or it is sent while none waits. -/
theorem sendMessage_step (type : Int) (data : List UInt8) (expectResponse : Bool) (clock : Int → Int)
    (ordered : Ordered session) (prompt : Prompt session) :
    (Prompt (sessionMachine.step session (.sendMessage type data expectResponse clock)).1 ↔
      Timely session (.sendMessage type data expectResponse clock)) ∧
    (Timely session (.sendMessage type data expectResponse clock) →
      Ordered (sessionMachine.step session (.sendMessage type data expectResponse clock)).1) := by
  by_cases waits : session.client.socket = none ∨ session.client.state ≠ .connected
  · obtain ⟨same, kept⟩ := sendMessage_waiting session type data expectResponse clock ordered prompt waits
    exact ⟨same, fun _ => kept⟩
  · obtain ⟨set, same⟩ := not_or.mp waits
    have connected := not_not.mp same
    obtain ⟨socket, current⟩ := Option.ne_none_iff_exists'.mp set
    obtain ⟨next, kept⟩ := sendMessage_sent session type data expectResponse clock ordered prompt socket
      current connected
    exact ⟨iff_of_true next fun _ => connected, fun _ => kept⟩

/-- An open event of a socket that the client has let go sends nothing. -/
theorem opened_unset (next : SecureChatWebSocket) (eager : List (Int × List UInt8 × Bool))
    (ordered : Ordered session) (prompt : Prompt session) (unset : next.socket = none)
    (pending : next.pendingMessages =
      session.client.pendingMessages ++ (numbered session.calls eager).map Prod.fst) :
    Prompt ⟨next, session.calls + eager.length, session.transmitted⟩ ∧
      Ordered ⟨next, session.calls + eager.length, session.transmitted⟩ := by
  obtain ⟨sorted, past⟩ := later_calls ordered.sorted ordered.past eager.length
  have called : ((numbered session.calls eager).map Prod.fst).map (·.call) =
      List.range' session.calls eager.length := by
    rw [List.map_map]
    exact numbered_calls session.calls eager
  refine ⟨⟨?_, prompt.inOrder⟩, ?_, ?_⟩
  · rintro ⟨other, found, -⟩
    cases unset.symm.trans found
  · rw [pending, List.map_append, ← List.append_assoc, called]
    exact sorted
  · rw [pending, List.map_append, ← List.append_assoc, called]
    exact past

/-- The messages of the callbacks reach the socket before those that wait. -/
theorem opened_set (socket current : Nat) (next : SecureChatWebSocket) (sent : List Transmission)
    (eager : List (Int × List UInt8 × Bool)) (clock : Int → Int)
    (ordered : Ordered session) (prompt : Prompt session)
    (connecting : session.client.readyState socket = some .connecting)
    (set : session.client.socket = some current) (pending : next.pendingMessages = [])
    (calls : sent.map (·.call) =
      if current = socket ∨ session.client.readyState current = some .open then
        List.range' session.calls eager.length ++ session.client.pendingMessages.map (·.call)
      else []) :
    (Prompt ⟨next, session.calls + eager.length, session.transmitted ++ sent⟩ ↔
      Timely session (.opened socket eager clock)) ∧
    (Prompt ⟨next, session.calls + eager.length, session.transmitted ++ sent⟩ →
      Ordered ⟨next, session.calls + eager.length, session.transmitted ++ sent⟩) := by
  obtain ⟨-, past⟩ := later_calls ordered.sorted ordered.past eager.length
  have between := earlier_calls_iff ordered.sorted ordered.past eager.length
  refine ⟨⟨?_, fun timely => ⟨fun _ => pending, ?_⟩⟩, fun prompt => ⟨?_, ?_⟩⟩
  · rintro ⟨-, inOrder⟩ same -
    obtain rfl := Option.some.inj (set.symm.trans same)
    rw [List.map_append, calls, if_pos (.inl rfl)] at inOrder
    exact (between.mp inOrder).imp List.eq_nil_of_length_eq_zero List.map_eq_nil_iff.mp
  · rw [List.map_append, calls]
    split
    · rename_i reached
      apply between.mpr
      rcases reached with rfl | opened
      · exact (timely set connecting).imp (congrArg List.length) (congrArg (List.map _))
      · exact .inr (congrArg (List.map _) (prompt.noneWaits ⟨current, set, opened⟩))
    · rw [List.append_nil]
      exact prompt.inOrder
  · rw [pending, List.map_nil, List.append_nil]
    exact prompt.inOrder
  · intro call member
    rw [pending, List.map_nil, List.append_nil, List.map_append, calls] at member
    apply past
    rcases List.mem_append.mp member with old | new
    · exact List.mem_append_left _ (List.mem_append_left _ old)
    · split at new
      · rcases List.mem_append.mp new with eager | waiting
        · exact List.mem_append_right _ eager
        · exact List.mem_append_left _ (List.mem_append_right _ waiting)
      · exact nomatch new

/-- The open event sends the messages of the callbacks before those that wait. -/
theorem opened_step (socket : Nat) (eager : List (Int × List UInt8 × Bool)) (clock : Int → Int)
    (ordered : Ordered session) (prompt : Prompt session) :
    (Prompt (sessionMachine.step session (.opened socket eager clock)).1 ↔
      Timely session (.opened socket eager clock)) ∧
    (Timely session (.opened socket eager clock) →
      Ordered (sessionMachine.step session (.opened socket eager clock)).1) := by
  by_cases connecting : session.client.readyState socket = some .connecting
  · have stepped : clientStep session.client session.calls (.opened socket eager clock) =
        session.client.onopen socket (numbered session.calls eager) clock := if_pos connecting
    rw [session_step, stepped]
    rcases SecureChatWebSocket.onopen_messages clock session.client socket (numbered session.calls eager)
      connecting with ⟨unset, silent, pending, next⟩ | ⟨current, set, pending, sent⟩
    · rw [silent, List.append_nil]
      obtain ⟨kept, still⟩ := opened_unset session _ eager ordered prompt next pending
      exact ⟨iff_of_true kept (fun same => by cases unset.symm.trans same), fun _ => still⟩
    · rw [numbered_calls] at sent
      obtain ⟨same, kept⟩ := opened_set session socket current _ _ eager clock ordered prompt connecting set
        pending sent
      exact ⟨same, fun timely => kept (same.mpr timely)⟩
  · have quiet := quiet_step session (.opened socket eager clock) session.client (.refl _)
      (if_neg connecting)
    exact ⟨iff_of_true (quiet.1 prompt) fun _ opening => absurd opening connecting, fun _ => quiet.2 ordered⟩

/-- One event keeps messages prompt exactly when it is timely, and then it keeps them ordered. -/
theorem event_step (event : ClientEvent) (ordered : Ordered session) (prompt : Prompt session) :
    (Prompt (sessionMachine.step session event).1 ↔ Timely session event) ∧
      (Timely session event → Ordered (sessionMachine.step session event).1) := by
  have silent : ∀ next, SecureChatWebSocket.Quiet session.client next →
      clientStep session.client session.calls event = (next, []) → Timely session event →
      (Prompt (sessionMachine.step session event).1 ↔ Timely session event) ∧
        (Timely session event → Ordered (sessionMachine.step session event).1) := by
    intro next quiet same timely
    have kept := quiet_step session event next quiet same
    exact ⟨iff_of_true (kept.1 prompt) timely, fun _ => kept.2 ordered⟩
  cases event with
  | connect created => exact silent _ (session.client.connect_quiet false created) rfl trivial
  | reconnectTimer created =>
      by_cases idle : session.client.reconnectTimers = 0
      · exact silent _ (.refl _) (if_pos idle) trivial
      · have fired : SecureChatWebSocket.Quiet session.client { session.client with
            reconnectTimers := session.client.reconnectTimers - 1 } := ⟨rfl, id⟩
        exact silent _ (fired.trans (SecureChatWebSocket.connect_quiet _ true created)) (if_neg idle) trivial
  | timeout socket =>
      by_cases runs : session.client.sockets[socket]?.any (·.timer) = true
      · exact silent _ (session.client.onConnectTimeout_quiet socket) (if_pos runs) trivial
      · exact silent _ (.refl _) (if_neg runs) trivial
  | opened socket eager clock => exact opened_step session socket eager clock ordered prompt
  | message socket rawData =>
      by_cases opened : session.client.readyState socket = some .open
      · exact silent _ (session.client.handleMessage_quiet rawData) (if_pos opened) trivial
      · exact silent _ (.refl _) (if_neg opened) trivial
  | error socket =>
      by_cases alive : (session.client.readyState socket).any (· ≠ .closed) = true
      · have failed := (session.client.setState_quiet .error).trans
          (SecureChatWebSocket.reject_quiet _ socket)
        exact silent _ failed (if_pos alive) trivial
      · exact silent _ (.refl _) (if_neg alive) trivial
  | closed socket code =>
      by_cases alive : (session.client.readyState socket).any (· ≠ .closed) = true
      · exact silent _ (session.client.onclose_quiet socket code) (if_pos alive) trivial
      · exact silent _ (.refl _) (if_neg alive) trivial
  | sendMessage type data expectResponse clock =>
      exact sendMessage_step session type data expectResponse clock ordered prompt
  | disconnect =>
      obtain ⟨emptied, off⟩ := session.client.disconnect_empty
      have stepped : (sessionMachine.step session .disconnect).1 =
          ⟨session.client.disconnect, session.calls, session.transmitted⟩ := by
        rw [session_step, clientStep, List.append_nil]
        rfl
      rw [stepped]
      refine ⟨iff_of_true ⟨fun live => absurd live off, prompt.inOrder⟩ trivial, fun _ => ⟨?_, ?_⟩⟩
      · rw [emptied, List.map_nil, List.append_nil]
        exact (List.pairwise_append.mp ordered.sorted).1
      · rw [emptied, List.map_nil, List.append_nil]
        exact fun call member => ordered.past call (List.mem_append_left _ member)

end Steps

/-- No message is held back on a live connection, and none overtakes another,
exactly in the runs in which every message is sent in a timely way. -/
theorem sessionMachine_prompt_iff (reconnectAttempts : Nat) (events : List ClientEvent) :
    (∀ session ∈ sessionMachine.states (newSession reconnectAttempts) events, Prompt session) ↔
      sessionMachine.Along Timely (newSession reconnectAttempts) events := by
  have initial : Ordered (newSession reconnectAttempts) := ⟨.nil, fun _ member => nomatch member⟩
  have prompt : Prompt (newSession reconnectAttempts) := ⟨fun _ => rfl, .nil⟩
  exact sessionMachine.states_iff_guarded Timely Ordered Prompt
    (fun session event ordered prompt => (event_step session event ordered prompt).1)
    (fun session event ordered prompt => (event_step session event ordered prompt).2) _ events initial prompt

/-- A login response of the server that reports success, for the user with the number 7. -/
def loginResponse : List UInt8 :=
  let body := uintBytes 4 200 ++ uintBytes 4 0 ++ uintBytes 8 0 ++ uintBytes 8 7 ++ uintBytes 4 0
  ProtocolCodec.headerBytes ⟨protocolMagic, protocolVersion, msgAuthLoginResponse, 0, 1700000000000, 1, 0,
    body.length, ProtocolCodec.calculateChecksum body⟩ ++ body

/-- A text message after the login. -/
def loginRun : List ClientEvent :=
  [.connect true, .opened 0 [] (fun _ => 1700000000000), .message 0 loginResponse,
    .sendMessage 0x03000001 [0x61] true (fun _ => 1700000001000)]

/-- After the login the first message waits on the open socket. -/
theorem sessionMachine_waits_after_login :
    ¬ ∀ session ∈ sessionMachine.states (newSession 5) loginRun, Prompt session := by
  intro always
  have final : (sessionMachine.run (newSession 5) loginRun).1 =
      ⟨{ SecureChatWebSocket.create 5 with
          socket := some 0
          state := .authenticated
          pendingMessages := [⟨0, 0x03000001, [0x61]⟩]
          sockets := [⟨.open, false, true, true⟩] }, 1, []⟩ := by decide +kernel
  have waiting := (always _ (sessionMachine.run_mem_states (newSession 5) loginRun)).noneWaits
  rw [final] at waiting
  exact nomatch waiting ⟨0, rfl, rfl⟩

end SecureChat.Web
