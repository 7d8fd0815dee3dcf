import SecureChat.Construction.Server.EdgeEvents

namespace SecureChat.Server
open Library Protocol

section Descriptor

theorem checkRateLimitReset_fd (host : Host) : (checkRateLimitReset host).conn.fd = host.conn.fd := by
  unfold checkRateLimitReset
  dsimp only
  split <;> rfl

theorem connectionCheckRateLimit_fd (host : Host) (messageSize : Nat) :
    (connectionCheckRateLimit host messageSize).2.conn.fd = host.conn.fd := by
  unfold connectionCheckRateLimit
  dsimp only
  split
  · exact checkRateLimitReset_fd host
  · split <;> exact checkRateLimitReset_fd host

theorem updateRateLimiter_fd (host : Host) (messageSize : Nat) :
    (updateRateLimiter host messageSize).conn.fd = host.conn.fd :=
  checkRateLimitReset_fd host

/-- Sending does not close the connection. -/
theorem connectionSend_fd (host : Host) (data : List UInt8) :
    (connectionSend host data).2.conn.fd = host.conn.fd := by
  have checked := connectionCheckRateLimit_fd host data.length
  unfold connectionSend
  split
  · rfl
  · dsimp only
    split
    · exact checked
    · split
      · exact checked
      · exact checked
      · rw [updateRateLimiter_fd]
        exact checked

variable (codec : HeaderCodec)

theorem connectionSendMessage_fd (host : Host) (messageType : UInt32) (data : List UInt8) :
    (connectionSendMessage codec host messageType data).2.conn.fd = host.conn.fd := by
  have first (world : World) (header : List UInt8) := connectionSend_fd
    ⟨{ host.conn with messagesSent := host.conn.messagesSent + 1 }, world⟩ header
  unfold connectionSendMessage
  split
  · rfl
  · dsimp only
    split
    · exact first _ _
    · split
      · split <;> exact (connectionSend_fd _ _).trans (first _ _)
      · exact first _ _

theorem processCompleteMessage_fd (host : Host) (header : MessageHeader) :
    (processCompleteMessage codec host header).2.conn.fd = host.conn.fd := by
  unfold processCompleteMessage
  split
  · split
    · exact connectionSendMessage_fd codec _ _ _
    · rfl
  · split <;> rfl

theorem processMessages_fd (fuel : Nat) (host : Host) :
    (processMessages codec fuel host).host.conn.fd = host.conn.fd := by
  induction fuel generalizing host with
  | zero => rfl
  | succ fuel ih =>
      unfold processMessages
      split
      · rfl
      · split
        · rfl
        · rename_i header parsed
          have answered := processCompleteMessage_fd codec host header
          split
          · rfl
          · dsimp only
            split
            · exact answered
            · exact (ih _).trans answered

theorem appendRecvBuffer_fd (conn next : ClientConnection) (data : List UInt8) (reallocOk : Bool)
    (appended : appendRecvBuffer conn data reallocOk = some next) : next.fd = conn.fd := by
  unfold appendRecvBuffer resizeRecvBuffer at appended
  obtain ⟨resized, grown, rfl⟩ := Option.map_eq_some_iff.mp appended
  revert grown
  split
  · split
    · rintro ⟨⟩
      rfl
    · split
      · rintro ⟨⟩
        rfl
      · intro grown
        cases grown
  · rintro ⟨⟩
    rfl

/-- Processing data does not close the connection. -/
theorem connectionProcessData_fd (host : Host) (data : List UInt8) (reallocOk : Bool) :
    (connectionProcessData codec host data reallocOk).2.1.conn.fd = host.conn.fd := by
  unfold connectionProcessData
  split
  · rfl
  · split
    · rfl
    · rename_i next appended
      exact (processMessages_fd codec _ _).trans (appendRecvBuffer_fd _ _ _ _ appended)

end Descriptor

section Handler

variable (codec : HeaderCodec)

/-- One of the flags that close the connection is set. -/
def EpollEvents.Broken (events : EpollEvents) : Prop := events.rdhup ∨ events.hup ∨ events.err

instance (events : EpollEvents) : Decidable events.Broken := by
  unfold EpollEvents.Broken
  infer_instance

theorem handleClientEvent_broken (host : Host) (opened : host.conn.fd ≠ -1) (events : EpollEvents)
    (reply : RecvReply) (reallocOk : Bool) (broken : events.Broken) :
    handleClientEvent codec host events reply reallocOk = (none, [.connectionClose]) := by
  unfold handleClientEvent
  rw [if_neg opened]
  split
  · rfl
  · rename_i alive
    have failed : events.err = true := by
      rcases broken with flag | flag | flag
      · exact absurd (.inl flag) alive
      · exact absurd (.inr flag) alive
      · exact flag
    rw [if_pos failed]

/-- A readable event passes on one buffer of the waiting bytes, or it closes the connection. -/
theorem handleClientEvent_readable (host : Host) (opened : host.conn.fd ≠ -1) (events : EpollEvents)
    (socket : Socket) (fails reallocOk : Bool) (whole : ¬ events.Broken) (readable : events.epollin) :
    if socket.received = [] ∨ fails then
      handleClientEvent codec host events (socket.recv fails) reallocOk = (none, [.connectionClose])
    else
      ∃ next outputs, handleClientEvent codec host events (socket.recv fails) reallocOk =
          (some next, outputs) ∧ deliveredBytes outputs = socket.received.take 8192 ∧
        next.conn.fd = host.conn.fd := by
  have handled : handleClientEvent codec host events (socket.recv fails) reallocOk =
      if 0 < (connectionReceive host (socket.recv fails) 8192).1 then
        (some (connectionProcessData codec (connectionReceive host (socket.recv fails) 8192).2.2
          (connectionReceive host (socket.recv fails) 8192).2.1 reallocOk).2.1,
          .delivered (connectionReceive host (socket.recv fails) 8192).2.1 ::
            (connectionProcessData codec (connectionReceive host (socket.recv fails) 8192).2.2
              (connectionReceive host (socket.recv fails) 8192).2.1 reallocOk).2.2.map .handed)
      else (none, [.connectionClose]) := by
    unfold handleClientEvent
    rw [if_neg opened, if_neg (fun flag => whole (flag.imp id .inl)),
      if_neg (fun flag => whole (.inr (.inr flag))), if_pos readable]
  have usable : ¬ (host.conn.fd = -1 ∨ (8192 : Nat) = 0) := by simp [opened]
  rw [handled]
  split
  · rename_i nothing
    rw [connectionReceive, if_neg usable, Socket.recv]
    rcases nothing with empty | failed
    · rw [empty]
      cases fails <;> cases socket.rdhup <;> rfl
    · rw [if_pos failed]
      rfl
  · rename_i something
    obtain ⟨present, succeeds⟩ := not_or.mp something
    have positive : (0 : Int) < ((socket.received.take 8192).length : Nat) := by
      have long := List.length_pos_of_ne_nil present
      rw [List.length_take]
      omega
    have reply : socket.recv fails = .data socket.received := by
      rw [Socket.recv, if_neg succeeds, if_pos present]
    have received : connectionReceive host (socket.recv fails) 8192 =
        (((socket.received.take 8192).length : Int), socket.received.take 8192,
          (connectionReceive host (socket.recv fails) 8192).2.2) ∧
        (connectionReceive host (socket.recv fails) 8192).2.2.conn.fd = host.conn.fd := by
      rw [reply, connectionReceive, if_neg usable]
      dsimp only [receiveReply]
      rw [if_pos positive]
      exact ⟨rfl, rfl⟩
    rw [received.1]
    dsimp only
    rw [if_pos positive]
    refine ⟨_, _, rfl, ?_, (connectionProcessData_fd codec _ _ _).trans received.2⟩
    simp [deliveredBytes]

end Handler

/-- Everything that the peer sent was passed on or waits in the buffer. -/
def Socket.Accounted (socket : Socket) : Prop := socket.sent = socket.passed ++ socket.received

namespace Socket

variable {socket : Socket}

theorem passed_eq_sent_iff (accounted : socket.Accounted) :
    socket.passed = socket.sent ↔ socket.received = [] := by
  rw [accounted, List.self_eq_append_right]

theorem Accounted.send (accounted : socket.Accounted) (bytes : List UInt8) :
    (socket.send bytes).Accounted := by
  unfold Socket.send
  split
  · exact accounted
  · show socket.sent ++ bytes = socket.passed ++ (socket.received ++ bytes)
    rw [accounted, List.append_assoc]

theorem Accounted.hangUp (accounted : socket.Accounted) (how : HangUp) : (socket.hangUp how).Accounted := by
  cases how <;> exact accounted

theorem Accounted.pass (accounted : socket.Accounted) (count : Nat) :
    (socket.pass (socket.received.take count)).Accounted := by
  show socket.sent = socket.passed ++ socket.received.take count ++
    socket.received.drop (socket.received.take count).length
  rw [accounted, List.length_take, List.append_assoc]
  rcases Nat.le_total count socket.received.length with short | long
  · rw [Nat.min_eq_left short, List.take_append_drop]
  · rw [Nat.min_eq_right long, List.drop_length, List.append_nil, List.take_of_length_le long]

/-- What stays in the buffer after one read. -/
theorem received_pass (count : Nat) :
    (socket.pass (socket.received.take count)).received = [] ↔ socket.received.length ≤ count := by
  show socket.received.drop (socket.received.take count).length = [] ↔ _
  rw [List.drop_eq_nil_iff, List.length_take]
  omega

theorem events_silent (silent : socket.events = newSocket.events) : socket.received = [] := by
  have readable := congrArg EpollEvents.epollin silent
  rw [← List.isEmpty_iff]
  simp only [events, newSocket, Bool.or_eq_false_iff, Bool.not_eq_false', List.isEmpty_nil,
    Bool.not_true, Bool.or_self] at readable
  exact readable.1

theorem events_reported (reported : socket.events ≠ newSocket.events) :
    socket.events.Broken ∨ socket.events.epollin := by
  unfold EpollEvents.Broken
  revert reported
  simp only [events, newSocket]
  cases socket.rdhup <;> cases socket.hup <;> cases socket.err <;> cases socket.received <;> simp

end Socket

/-- Nothing waits in the kernel for this descriptor. -/
def EventLoop.Drained (state : EventLoop) : Descriptor → Prop
  | .listening listener => state.waiting listener = []
  | .client fd => ∀ client, state.clients fd = some client → client.socket.received = []

/-- A descriptor without a pending event has nothing waiting. -/
def LeavesNothing (state : EventLoop) : Prop :=
  ∀ descriptor, descriptor ∉ state.pending → state.Drained descriptor

/-- A socket that is closed has passed on everything that its peer sent. -/
def PassedAll : LoopOutput → Prop
  | .handled _ _ => True
  | .closed socket => socket.passed = socket.sent

/-- What every state of the accept thread keeps. -/
structure Consistent (state : EventLoop) : Prop where
  ready : state.ready.Nodup
  batch : (state.batch.map Prod.fst).Nodup
  registered : ∀ fd, .client fd ∈ state.pending →
    ∃ socket conn, state.clients fd = some ⟨socket, some conn⟩
  reported : ∀ event ∈ state.batch, event.2.Broken ∨ event.2.epollin
  opened : ∀ fd socket conn, state.clients fd = some ⟨socket, some conn⟩ → conn.fd ≠ -1
  accounted : ∀ fd client, state.clients fd = some client → client.socket.Accounted
  queued : ∀ listener, ∀ socket ∈ state.waiting listener, socket.Accounted

theorem startLoop_consistent (world : World) : Consistent (startLoop world) where
  ready := List.nodup_nil
  batch := List.nodup_nil
  registered := by
    intro fd member
    cases member
  reported := by
    intro event member
    cases member
  opened := by
    intro fd socket conn found
    cases found
  accounted := by
    intro fd client found
    cases found
  queued := by
    intro listener socket member
    cases member

theorem startLoop_leavesNothing (world : World) : LeavesNothing (startLoop world) := by
  intro descriptor _
  cases descriptor with
  | listening listener => rfl
  | client fd =>
      intro client found
      cases found

namespace Consistent

variable {state : EventLoop}

theorem setWaiting (valid : Consistent state) (listener : Listener) (sockets : List Socket)
    (accounted : ∀ socket ∈ sockets, socket.Accounted) :
    Consistent { state with waiting := Function.update state.waiting listener sockets } where
  ready := valid.ready
  batch := valid.batch
  registered := valid.registered
  reported := valid.reported
  opened := valid.opened
  accounted := valid.accounted
  queued := by
    intro other socket member
    dsimp only at member
    by_cases same : other = listener
    · subst same
      rw [Function.update_self] at member
      exact accounted socket member
    · rw [Function.update_of_ne same] at member
      exact valid.queued other socket member

theorem setWorld (valid : Consistent state) (world : World) : Consistent { state with world := world } where
  ready := valid.ready
  batch := valid.batch
  registered := valid.registered
  reported := valid.reported
  opened := valid.opened
  accounted := valid.accounted
  queued := valid.queued

/-- A reported descriptor is a listening socket or has a connection. -/
theorem notify (valid : Consistent state) (descriptor : Descriptor)
    (registered : ∀ fd, descriptor = .client fd →
      ∃ socket conn, state.clients fd = some ⟨socket, some conn⟩) :
    Consistent { state with ready := Library.notify state.ready descriptor } where
  ready := notify_nodup state.ready descriptor valid.ready
  batch := valid.batch
  registered := by
    intro fd member
    rw [EventLoop.pending, List.mem_append, mem_notify, or_assoc] at member
    rcases member with same | before
    · exact registered fd same.symm
    · exact valid.registered fd (List.mem_append.mpr before)
  reported := valid.reported
  opened := valid.opened
  accounted := valid.accounted
  queued := valid.queued

/-- A socket without a connection has no pending event. -/
theorem setClient (valid : Consistent state) (fd : Nat) (client : Client)
    (registered : .client fd ∈ state.pending → client.conn.isSome)
    (opened : ∀ conn, client.conn = some conn → conn.fd ≠ -1) (accounted : client.socket.Accounted) :
    Consistent { state with clients := Function.update state.clients fd (some client) } where
  ready := valid.ready
  batch := valid.batch
  registered := by
    intro other member
    dsimp only
    by_cases same : other = fd
    · subst same
      obtain ⟨conn, found⟩ := Option.isSome_iff_exists.mp (registered member)
      rw [Function.update_self]
      exact ⟨client.socket, conn, by rw [← found]⟩
    · rw [Function.update_of_ne same]
      exact valid.registered other member
  reported := valid.reported
  opened := by
    intro other socket conn found
    dsimp only at found
    by_cases same : other = fd
    · subst same
      rw [Function.update_self] at found
      exact opened conn (congrArg Client.conn (Option.some.inj found))
    · rw [Function.update_of_ne same] at found
      exact valid.opened other socket conn found
  accounted := by
    intro other next found
    dsimp only at found
    by_cases same : other = fd
    · subst same
      rw [Function.update_self] at found
      exact Option.some.inj found ▸ accounted
    · rw [Function.update_of_ne same] at found
      exact valid.accounted other next found
  queued := valid.queued

/-- The batch goes on to its next event. -/
theorem nextEvent (valid : Consistent state) (event : Descriptor × EpollEvents)
    (rest : List (Descriptor × EpollEvents)) (first : state.batch = event :: rest) :
    Consistent { state with batch := rest } where
  ready := valid.ready
  batch := by
    have distinct := valid.batch
    rw [first] at distinct
    exact distinct.of_cons
  registered := by
    intro fd member
    refine valid.registered fd ?_
    rw [EventLoop.pending, first]
    exact (List.mem_append.mp member).elim (fun before => List.mem_append_left _ before)
      (fun later => List.mem_append_right _ (List.mem_cons_of_mem _ later))
  reported := by
    intro other member
    exact valid.reported other (first ▸ List.mem_cons_of_mem _ member)
  opened := valid.opened
  accounted := valid.accounted
  queued := valid.queued

/-- A closed socket has no event left, if the batch has none for it. -/
theorem close (valid : Consistent state) (fd : Nat) (last : .client fd ∉ state.batch.map Prod.fst) :
    Consistent (state.close fd) where
  ready := valid.ready.filter _
  batch := valid.batch
  registered := by
    intro other member
    have different : other ≠ fd := by
      rintro rfl
      rcases List.mem_append.mp member with before | later
      · exact of_decide_eq_true (List.mem_filter.mp before).2 rfl
      · exact last later
    dsimp only [EventLoop.close]
    rw [Function.update_of_ne different]
    refine valid.registered other (List.mem_append.mpr ?_)
    exact (List.mem_append.mp member).imp (fun before => (List.mem_filter.mp before).1) id
  reported := valid.reported
  opened := by
    intro other socket conn found
    dsimp only [EventLoop.close] at found
    by_cases same : other = fd
    · subst same
      rw [Function.update_self] at found
      cases found
    · rw [Function.update_of_ne same] at found
      exact valid.opened other socket conn found
  accounted := by
    intro other client found
    dsimp only [EventLoop.close] at found
    by_cases same : other = fd
    · subst same
      rw [Function.update_self] at found
      cases found
    · rw [Function.update_of_ne same] at found
      exact valid.accounted other client found
  queued := valid.queued

theorem reach (valid : Consistent state) (change : Socket → Socket)
    (keeps : ∀ socket : Socket, socket.Accounted → (change socket).Accounted) (peer : Peer) :
    Consistent (state.reach change peer) := by
  cases peer with
  | queued listener index =>
      refine valid.setWaiting listener _ ?_
      intro socket member
      obtain ⟨place, found⟩ := List.getElem?_of_mem member
      rw [List.getElem?_modify] at found
      obtain ⟨before, there, rfl⟩ := Option.map_eq_some_iff.mp found
      have accounted := valid.queued listener before (List.mem_of_getElem? there)
      split
      · exact keeps before accounted
      · exact accounted
  | accepted fd =>
      unfold EventLoop.reach
      dsimp only
      split
      · exact valid
      · rename_i client found
        have changed := valid.setClient fd { client with socket := change client.socket }
          (by
            intro member
            obtain ⟨socket, conn, registered⟩ := valid.registered fd member
            rw [found] at registered
            rw [Option.some.inj registered]
            rfl)
          (by
            intro conn registered
            exact valid.opened fd client.socket conn (by rw [found, ← registered]))
          (keeps client.socket (valid.accounted fd client found))
        split
        · rename_i reported
          refine changed.notify (.client fd) ?_
          intro other same
          obtain rfl := Descriptor.client.inj same
          obtain ⟨conn, registered⟩ := Option.isSome_iff_exists.mp reported.1
          exact ⟨change client.socket, conn, by dsimp only; rw [Function.update_self, registered]⟩
        · exact changed

theorem epollWait (valid : Consistent state) (reallocOk : Bool) : Consistent (state.epollWait reallocOk) := by
  unfold EventLoop.epollWait
  split
  · exact valid
  · dsimp only
    generalize (if state.nfds = state.maxEvents ∧ reallocOk = true then state.maxEvents * 2
      else state.maxEvents) = count
    have parts := fetch_sublist state.poll count state.ready
    have distinct := parts.nodup valid.ready
    exact {
      ready := distinct.of_append_right
      batch := distinct.of_append_left
      registered := by
        intro fd member
        refine valid.registered fd (List.mem_append_left _ (parts.subset ?_))
        exact List.mem_append.mpr (List.mem_append.mp member).symm
      reported := by
        intro event member
        have seen := fetch_polled state.poll count state.ready event member
        obtain ⟨descriptor, events⟩ := event
        cases descriptor with
        | listening listener =>
            rw [EventLoop.poll] at seen
            split at seen
            · cases seen
            · obtain rfl := Option.some.inj seen
              exact .inr rfl
        | client fd =>
            obtain ⟨client, -, shown⟩ := Option.bind_eq_some_iff.mp seen
            split at shown
            · cases shown
            · rename_i reported
              obtain rfl := Option.some.inj shown
              exact Socket.events_reported reported
      opened := valid.opened
      accounted := valid.accounted
      queued := valid.queued }

/-- Only sockets with a connection have pending events. -/
theorem not_pending (valid : Consistent state) (fd : Nat)
    (unknown : ∀ client, state.clients fd = some client → client.conn = none) :
    .client fd ∉ state.pending := by
  intro member
  obtain ⟨socket, conn, found⟩ := valid.registered fd member
  cases unknown _ found

theorem register (valid : Consistent state) (fd : Nat) (socket : Socket) (accounted : socket.Accounted) :
    Consistent (state.register fd socket) := by
  have added := (valid.setClient fd ⟨socket, some (connectionCreate fd false
    (getCurrentTimestampMs state.world).1)⟩ (fun _ => rfl)
    (by
      intro conn created
      obtain rfl := Option.some.inj created
      exact Int.ne_of_gt (Int.lt_of_lt_of_le (by decide) (Int.natCast_nonneg fd))) accounted).setWorld
    (getCurrentTimestampMs state.world).2
  unfold EventLoop.register
  dsimp only
  split
  · exact added
  · refine added.notify (.client fd) ?_
    intro other same
    obtain rfl := Descriptor.client.inj same
    exact ⟨socket, _, Function.update_self ..⟩

end Consistent

/-- The kernel answers with a descriptor that is not in use. -/
theorem accept_fresh {state : EventLoop} {answer : Option Nat} {fd : Nat}
    (accepted : (answer.filter fun fd => (state.clients fd).isNone) = some fd) :
    state.clients fd = none := by
  obtain ⟨-, unused⟩ := Option.filter_eq_some_iff.mp accepted
  exact Option.isNone_iff_eq_none.mp unused

section Events

variable (codec : HeaderCodec) (maxClients : Nat) {state : EventLoop}

/-- Accepting takes the first waiting socket, if there is one and the call succeeds. -/
theorem acceptConnection_cases (state : EventLoop) (listener : Listener) (answers : LoopAnswers)
    (socket : Socket) (rest : List Socket) (fd : Nat) (waiting : state.waiting listener = socket :: rest)
    (accepted : (answers.accept.filter fun fd => (state.clients fd).isNone) = some fd) :
    acceptConnection maxClients state listener answers =
      let state := { state with waiting := Function.update state.waiting listener rest }
      if listener = .ws then (handleWebsocketConnection state fd socket, [])
      else if tcpConnectionResult maxClients answers ≠ 0 then (state, [.closed socket])
      else (state.register fd socket, []) := by
  unfold acceptConnection
  rw [waiting, accepted]
  cases listener <;> rfl

theorem acceptConnection_idle (state : EventLoop) (listener : Listener) (answers : LoopAnswers)
    (idle : state.waiting listener = [] ∨
      (answers.accept.filter fun fd => (state.clients fd).isNone) = none) :
    acceptConnection maxClients state listener answers = (state, []) := by
  unfold acceptConnection
  rcases idle with empty | failed
  · rw [empty]
  · rw [failed]
    split
    · rename_i accepted
      cases accepted
    · rfl

theorem acceptConnection_consistent (valid : Consistent state) (listener : Listener)
    (answers : LoopAnswers) : Consistent (acceptConnection maxClients state listener answers).1 := by
  cases waiting : state.waiting listener with
  | nil => rwa [acceptConnection_idle maxClients state listener answers (.inl waiting)]
  | cons socket rest =>
      cases accepted : answers.accept.filter fun fd => (state.clients fd).isNone with
      | none => rwa [acceptConnection_idle maxClients state listener answers (.inr accepted)]
      | some fd =>
          have accounted : ∀ other ∈ socket :: rest, other.Accounted := by
            rw [← waiting]
            exact valid.queued listener
          have taken := valid.setWaiting listener rest
            fun other member => accounted other (List.mem_cons_of_mem _ member)
          have first := accounted socket (List.mem_cons_self ..)
          rw [acceptConnection_cases maxClients state listener answers socket rest fd waiting accepted]
          dsimp only
          split
          · refine taken.setClient fd ⟨socket, none⟩ ?_ (fun conn missing => nomatch missing) first
            refine fun member => absurd member (valid.not_pending fd ?_)
            rw [accept_fresh accepted]
            exact fun client missing => nomatch missing
          · split
            · exact taken
            · exact taken.register fd socket first

/-- The handler closes the socket or passes on one buffer of the waiting bytes. -/
theorem clientEvent_cases (valid : Consistent state) (fd : Nat) (events : EpollEvents)
    (answers : LoopAnswers) (socket : Socket) (conn : ClientConnection)
    (found : state.clients fd = some ⟨socket, some conn⟩)
    (reported : events.Broken ∨ events.epollin) :
    if events.Broken ∨ socket.received = [] ∨ answers.recvFails then
      clientEvent codec state fd events answers =
        (state.close fd, [.handled fd .connectionClose, .closed socket])
    else
      ∃ (next : Host) (outputs : List ServerOutput),
        clientEvent codec state fd events answers =
          ({ state with
            clients := Function.update state.clients fd
              (some ⟨socket.pass (socket.received.take 8192), some next.conn⟩)
            world := next.world }, outputs.map (.handled fd)) ∧ next.conn.fd ≠ -1 := by
  have opened : (Host.mk conn state.world).conn.fd ≠ -1 := valid.opened fd socket conn found
  unfold clientEvent
  rw [found]
  dsimp only
  by_cases broken : events.Broken
  · rw [if_pos (.inl broken), handleClientEvent_broken codec _ opened events _ _ broken]
    rfl
  · have readable := handleClientEvent_readable codec ⟨conn, state.world⟩ opened events socket
      answers.recvFails answers.reallocOk broken (reported.resolve_left broken)
    simp only [broken, false_or]
    split at readable
    · rename_i closes
      rw [if_pos closes, readable]
      rfl
    · rename_i passes
      obtain ⟨next, outputs, handled, delivered, descriptor⟩ := readable
      rw [if_neg passes, handled]
      refine ⟨next, outputs, ?_, fun closed => opened (descriptor.symm.trans closed)⟩
      rw [← delivered]

theorem clientEvent_consistent (valid : Consistent state) (fd : Nat) (events : EpollEvents)
    (answers : LoopAnswers) (socket : Socket) (conn : ClientConnection)
    (found : state.clients fd = some ⟨socket, some conn⟩) (reported : events.Broken ∨ events.epollin)
    (last : .client fd ∉ state.batch.map Prod.fst) :
    Consistent (clientEvent codec state fd events answers).1 := by
  have outcome := clientEvent_cases codec valid fd events answers socket conn found reported
  split at outcome
  · rw [outcome]
    exact valid.close fd last
  · obtain ⟨next, outputs, handled, opened⟩ := outcome
    rw [handled]
    exact (valid.setClient fd ⟨socket.pass (socket.received.take 8192), some next.conn⟩ (fun _ => rfl)
      (fun conn same => Option.some.inj same ▸ opened)
      ((valid.accounted fd _ found).pass 8192)).setWorld next.world

/-- The first event of a batch is the last one for its descriptor, and its client has a connection. -/
theorem firstEvent_client (valid : Consistent state) (fd : Nat) (events : EpollEvents)
    (rest : List (Descriptor × EpollEvents)) (first : state.batch = (.client fd, events) :: rest) :
    (∃ socket conn, state.clients fd = some ⟨socket, some conn⟩) ∧ (events.Broken ∨ events.epollin) ∧
      .client fd ∉ rest.map Prod.fst := by
  have distinct := valid.batch
  rw [first, List.map_cons, List.nodup_cons] at distinct
  refine ⟨valid.registered fd ?_, valid.reported (.client fd, events) ?_, distinct.1⟩
  · rw [EventLoop.pending, first]
    exact List.mem_append_right _ (List.mem_cons_self ..)
  · rw [first]
    exact List.mem_cons_self ..

/-- No step breaks the invariant. -/
theorem acceptThread_consistent (state : EventLoop) (input : LoopInput) (valid : Consistent state) :
    Consistent ((acceptThread codec maxClients).step state input).1 := by
  cases input with
  | connects listener =>
      refine (valid.setWaiting listener _ ?_).notify (.listening listener) (fun fd other => nomatch other)
      intro socket member
      rcases List.mem_append.mp member with before | new
      · exact valid.queued listener socket before
      · rw [List.mem_singleton.mp new]
        rfl
  | sends peer bytes => exact valid.reach _ (fun socket accounted => accounted.send bytes) peer
  | hangsUp peer how => exact valid.reach _ (fun socket accounted => accounted.hangUp how) peer
  | epollWait reallocOk => exact valid.epollWait reallocOk
  | handles answers =>
      show Consistent (handleEvent codec maxClients state answers).1
      unfold handleEvent
      split
      · exact valid
      · rename_i listener events rest first
        exact acceptConnection_consistent maxClients (valid.nextEvent _ rest first) listener answers
      · rename_i fd events rest first
        obtain ⟨⟨socket, conn, found⟩, reported, last⟩ := firstEvent_client valid fd events rest first
        exact clientEvent_consistent codec (valid.nextEvent _ rest first) fd events answers socket conn
          found reported last

end Events

end SecureChat.Server
