import SecureChat.Proof.Server.EdgeInvariant

namespace SecureChat.Server
open Library Protocol

/-- One accept takes all waiting connections, or a further event for them is on its way.
A connection that is not registered has sent nothing. -/
def AcceptDrains (maxClients : Nat) (state : EventLoop) (listener : Listener) (answers : LoopAnswers) :
    Prop :=
  match state.waiting listener, answers.accept.filter fun fd => (state.clients fd).isNone with
  | [], _ => True
  | _ :: _, none => .listening listener ∈ state.ready
  | socket :: rest, some _ =>
      (rest = [] ∨ .listening listener ∈ state.ready) ∧
        (listener = .ws ∨ tcpConnectionResult maxClients answers ≠ 0 → socket.received = [])

/-- A closing event finds an empty buffer. Any other event finds at most 8192 bytes that can be read,
or a further event for the rest is on its way. -/
def EventDrains (state : EventLoop) (fd : Nat) (events : EpollEvents) (answers : LoopAnswers) : Prop :=
  ∀ socket conn, state.clients fd = some ⟨socket, some conn⟩ →
    if events.Broken ∨ answers.recvFails then socket.received = []
    else socket.received.length ≤ 8192 ∨ .client fd ∈ state.ready

/-- What one step must find in order to leave nothing behind. -/
def Drains (maxClients : Nat) (state : EventLoop) : LoopInput → Prop
  | .sends (.accepted fd) bytes =>
      ∀ socket, state.clients fd = some ⟨socket, none⟩ → socket.rdhup ∨ bytes = []
  | .handles answers =>
      match state.batch with
      | [] => True
      | (.listening listener, _) :: _ => AcceptDrains maxClients state listener answers
      | (.client fd, events) :: _ => EventDrains state fd events answers
  | _ => True

section Exactness

variable (codec : HeaderCodec) (maxClients : Nat) {state : EventLoop}

/-- Only the changed descriptors matter. -/
theorem leavesNothing_iff (leaves : LeavesNothing state) (next : EventLoop) (changed : Descriptor → Prop)
    (pending : ∀ descriptor, ¬ changed descriptor → descriptor ∈ state.pending →
      descriptor ∈ next.pending)
    (same : ∀ descriptor, ¬ changed descriptor → state.Drained descriptor → next.Drained descriptor) :
    LeavesNothing next ↔
      ∀ descriptor, changed descriptor → descriptor ∉ next.pending → next.Drained descriptor := by
  constructor
  · intro drained descriptor _ idle
    exact drained descriptor idle
  · intro drained descriptor idle
    by_cases touched : changed descriptor
    · exact drained descriptor touched idle
    · exact same descriptor touched (leaves descriptor fun before => idle (pending descriptor touched before))

theorem connects_leavesNothing (leaves : LeavesNothing state) (listener : Listener) :
    LeavesNothing (state.connects listener) := by
  refine (leavesNothing_iff leaves _ (· = .listening listener) ?_ ?_).mpr ?_
  · intro descriptor _ member
    exact (List.mem_append.mp member).elim
      (fun before => List.mem_append_left _ ((mem_notify ..).mpr (.inr before)))
      (fun later => List.mem_append_right _ later)
  · intro descriptor other drained
    cases descriptor with
    | listening another =>
        show Function.update _ _ _ _ = _
        rw [Function.update_of_ne (fun same => other (congrArg _ same))]
        exact drained
    | client fd => exact drained
  · rintro descriptor rfl idle
    exact absurd (List.mem_append_left _ ((mem_notify ..).mpr (.inl rfl))) idle

theorem epollWait_leavesNothing (leaves : LeavesNothing state) (reallocOk : Bool) :
    LeavesNothing (state.epollWait reallocOk) := by
  unfold EventLoop.epollWait
  split
  · exact leaves
  · rename_i handled
    dsimp only
    generalize (if state.nfds = state.maxEvents ∧ reallocOk = true then state.maxEvents * 2
      else state.maxEvents) = count
    intro descriptor idle
    rw [EventLoop.pending, List.mem_append, not_or] at idle
    by_cases queued : descriptor ∈ state.ready
    · have silent : state.poll descriptor = none := by
        rcases mem_fetch state.poll count state.ready descriptor queued with seen | stays | silent
        · exact absurd seen idle.2
        · exact absurd stays idle.1
        · exact silent
      cases descriptor with
      | listening listener =>
          rw [EventLoop.poll] at silent
          split at silent
          · rename_i empty
            exact List.isEmpty_iff.mp empty
          · cases silent
      | client fd =>
          intro client found
          rw [EventLoop.poll, show state.clients fd = some client from found, Option.bind_some] at silent
          split at silent
          · rename_i quiet
            exact Socket.events_silent quiet
          · cases silent
    · have empty : state.batch = [] := by_contra handled
      have drained := leaves descriptor
        (by
          rw [EventLoop.pending, empty, List.map_nil, List.append_nil]
          exact queued)
      cases descriptor <;> exact drained

theorem queued_leavesNothing (leaves : LeavesNothing state) (change : Socket → Socket)
    (listener : Listener) (index : Nat) : LeavesNothing (state.reach change (.queued listener index)) := by
  refine (leavesNothing_iff leaves (state.reach change (.queued listener index)) (fun _ => False)
    (fun _ _ member => member) ?_).mpr (fun _ changed => changed.elim)
  intro descriptor _ drained
  cases descriptor with
  | listening other =>
      show Function.update _ _ _ _ = _
      by_cases same : other = listener
      · subst same
        have empty : state.waiting other = [] := drained
        rw [Function.update_self, empty, List.modify_nil]
      · rw [Function.update_of_ne same]
        exact drained
  | client fd => exact drained

/-- A change goes unnoticed exactly at a socket without a connection. -/
theorem accepted_leavesNothing_iff (valid : Consistent state) (leaves : LeavesNothing state)
    (change : Socket → Socket) (fd : Nat) :
    LeavesNothing (state.reach change (.accepted fd)) ↔
      ∀ socket, state.clients fd = some ⟨socket, none⟩ → (change socket).received = [] := by
  cases found : state.clients fd with
  | none =>
      have idle : state.reach change (.accepted fd) = state := by
        rw [EventLoop.reach, found]
      rw [idle]
      exact iff_of_true leaves fun socket missing => nomatch missing
  | some client =>
      have reached : state.reach change (.accepted fd) =
          { state with
            clients := Function.update state.clients fd (some { client with socket := change client.socket })
            ready := if client.conn.isSome ∧ change client.socket ≠ client.socket then
              notify state.ready (.client fd) else state.ready } := by
        rw [EventLoop.reach, found]
      rw [leavesNothing_iff leaves _ (· = .client fd) ?_ ?_, reached]
      · rw [forall_eq]
        show (_ → ∀ next, Function.update _ _ _ _ = _ → _) ↔ _
        rw [Function.update_self]
        cases client with
        | mk socket conn =>
            cases conn with
            | none =>
                have idle := valid.not_pending fd fun client same =>
                  congrArg Client.conn (Option.some.inj (same.symm.trans found))
                constructor
                · rintro drained other ⟨⟩
                  exact drained idle _ rfl
                · rintro drained - next ⟨⟩
                  exact drained socket rfl
            | some conn =>
                refine iff_of_true ?_ (fun other missing => nomatch missing)
                rintro unnoticed next ⟨⟩
                by_cases changed : change socket = socket
                · dsimp only at unnoticed ⊢
                  rw [if_neg (fun reported => reported.2 changed)] at unnoticed
                  rw [changed]
                  exact leaves (.client fd) unnoticed _ found
                · dsimp only at unnoticed
                  rw [if_pos ⟨rfl, changed⟩] at unnoticed
                  exact absurd (List.mem_append_left _ ((mem_notify ..).mpr (.inl rfl))) unnoticed
      · intro descriptor _ member
        rw [reached, EventLoop.pending, List.mem_append]
        refine (List.mem_append.mp member).imp (fun before => ?_) id
        dsimp only
        split
        · exact (mem_notify ..).mpr (.inr before)
        · exact before
      · intro descriptor other drained
        rw [reached]
        cases descriptor with
        | listening listener => exact drained
        | client another =>
            show ∀ next, Function.update _ _ _ _ = _ → _
            rw [Function.update_of_ne (fun same => other (congrArg _ same))]
            exact drained

theorem unregistered_empty (valid : Consistent state) (leaves : LeavesNothing state) (fd : Nat)
    (socket : Socket) (found : state.clients fd = some ⟨socket, none⟩) : socket.received = [] := by
  have idle := valid.not_pending fd fun client same =>
    congrArg Client.conn (Option.some.inj (same.symm.trans found))
  exact leaves (.client fd) idle _ found

/-- Bytes go unnoticed exactly at an open socket without a connection. -/
theorem sends_leavesNothing_iff (valid : Consistent state) (leaves : LeavesNothing state)
    (bytes : List UInt8) (peer : Peer) :
    LeavesNothing (state.reach (·.send bytes) peer) ↔ Drains maxClients state (.sends peer bytes) := by
  cases peer with
  | queued listener index =>
      exact iff_of_true (queued_leavesNothing leaves _ listener index) trivial
  | accepted fd =>
      rw [accepted_leavesNothing_iff valid leaves]
      refine forall_congr' fun socket => forall_congr' fun found => ?_
      have empty : socket.received = [] := unregistered_empty valid leaves fd socket found
      cases closed : socket.rdhup <;> simp [Socket.send, closed, empty]

theorem hangsUp_leavesNothing (valid : Consistent state) (leaves : LeavesNothing state) (how : HangUp)
    (peer : Peer) : LeavesNothing (state.reach (·.hangUp how) peer) := by
  cases peer with
  | queued listener index => exact queued_leavesNothing leaves _ listener index
  | accepted fd =>
      rw [accepted_leavesNothing_iff valid leaves]
      intro socket found
      have empty : socket.received = [] := unregistered_empty valid leaves fd socket found
      cases how <;> exact empty

/-- Handling the first event of a batch touches its own descriptor and at most one new client. -/
theorem firstEvent_leavesNothing_iff (leaves : LeavesNothing state) (first : Descriptor)
    (events : EpollEvents) (rest : List (Descriptor × EpollEvents))
    (batch : state.batch = (first, events) :: rest) (next : EventLoop) (changed : Descriptor → Prop)
    (itself : changed first)
    (pending : ∀ descriptor, ¬ changed descriptor → descriptor ∈ state.ready ∨
      descriptor ∈ rest.map Prod.fst → descriptor ∈ next.pending)
    (same : ∀ descriptor, ¬ changed descriptor → state.Drained descriptor → next.Drained descriptor) :
    LeavesNothing next ↔
      ∀ descriptor, changed descriptor → descriptor ∉ next.pending → next.Drained descriptor := by
  refine leavesNothing_iff leaves next changed ?_ same
  intro descriptor untouched member
  refine pending descriptor untouched ?_
  rw [EventLoop.pending, batch, List.mem_append, List.map_cons, List.mem_cons] at member
  rcases member with before | same | later
  · exact .inl before
  · exact absurd (same ▸ itself) untouched
  · exact .inr later

/-- The event is the only one of its descriptor in the batch. -/
theorem firstEvent_last (valid : Consistent state) (first : Descriptor) (events : EpollEvents)
    (rest : List (Descriptor × EpollEvents)) (batch : state.batch = (first, events) :: rest) :
    first ∈ state.ready ++ rest.map Prod.fst ↔ first ∈ state.ready := by
  have distinct := valid.batch
  rw [batch, List.map_cons, List.nodup_cons] at distinct
  rw [List.mem_append, or_iff_left distinct.1]

/-- The condition on an event speaks about the socket of its client. -/
theorem eventDrains_iff {fd : Nat} {socket : Socket} {conn : ClientConnection}
    (found : state.clients fd = some ⟨socket, some conn⟩) (events : EpollEvents) (answers : LoopAnswers) :
    EventDrains state fd events answers ↔
      if events.Broken ∨ answers.recvFails then socket.received = []
      else socket.received.length ≤ 8192 ∨ .client fd ∈ state.ready := by
  constructor
  · intro every
    exact every socket conn found
  · intro this other another same
    rw [found] at same
    cases same
    exact this

/-- What happens to one client keeps all other descriptors drained. -/
theorem drained_otherClient (state : EventLoop) {fd : Nat} (next : EventLoop)
    (waiting : next.waiting = state.waiting)
    (clients : ∀ other, other ≠ fd → next.clients other = state.clients other) (descriptor : Descriptor)
    (other : ¬ descriptor = .client fd) (drained : state.Drained descriptor) : next.Drained descriptor := by
  cases descriptor with
  | listening listener => exact (congrFun waiting listener).trans drained
  | client another =>
      intro client present
      rw [clients another fun same => other (congrArg _ same)] at present
      exact drained client present

/-- Nothing is left behind by a client that was closed. -/
theorem close_leavesNothing (leaves : LeavesNothing state) (fd : Nat) (events : EpollEvents)
    (rest : List (Descriptor × EpollEvents)) (batch : state.batch = (.client fd, events) :: rest) :
    LeavesNothing (EventLoop.close { state with batch := rest } fd) := by
  have same := drained_otherClient state (EventLoop.close { state with batch := rest } fd) rfl
    fun other different => Function.update_of_ne different ..
  refine (firstEvent_leavesNothing_iff leaves (.client fd) events rest batch _ (· = .client fd) rfl
    ?_ same).mpr ?_
  · intro descriptor other member
    refine List.mem_append.mpr (member.imp (fun before => ?_) id)
    exact List.mem_filter.mpr ⟨before, decide_eq_true other⟩
  · rintro descriptor rfl - client found
    dsimp only [EventLoop.close] at found
    rw [Function.update_self] at found
    cases found

/-- An event of a client leaves nothing behind exactly when it finds what one read can take. -/
theorem clientEvent_iff (valid : Consistent state) (leaves : LeavesNothing state) (fd : Nat)
    (events : EpollEvents) (rest : List (Descriptor × EpollEvents)) (answers : LoopAnswers)
    (batch : state.batch = (.client fd, events) :: rest) :
    (LeavesNothing (clientEvent codec { state with batch := rest } fd events answers).1 ∧
        ∀ output ∈ (clientEvent codec { state with batch := rest } fd events answers).2,
          PassedAll output) ↔ EventDrains state fd events answers := by
  obtain ⟨⟨socket, conn, found⟩, reported, -⟩ := firstEvent_client valid fd events rest batch
  have accounted : socket.Accounted := valid.accounted fd _ found
  have outcome := clientEvent_cases codec (valid.nextEvent _ rest batch) fd events answers socket conn
    found reported
  rw [eventDrains_iff found]
  split at outcome
  · rename_i closes
    rw [outcome, and_iff_right (close_leavesNothing leaves fd events rest batch)]
    simp only [List.forall_mem_cons, PassedAll, true_and, List.not_mem_nil, false_imp_iff, forall_true_iff,
      and_true, Socket.passed_eq_sent_iff accounted]
    split
    · rfl
    · rename_i reads
      have empty : socket.received = [] := by
        rcases closes with broken | empty | fails
        · exact absurd (.inl broken) reads
        · exact empty
        · exact absurd (.inr fails) reads
      rw [empty]
      exact iff_of_true rfl (.inl (Nat.zero_le _))
  · rename_i reads
    obtain ⟨next, outputs, handled, -⟩ := outcome
    rw [handled, if_neg (fun closes => reads (closes.imp id .inr))]
    have silent : ∀ output ∈ outputs.map (LoopOutput.handled fd), PassedAll output := by
      intro output member
      obtain ⟨shown, -, rfl⟩ := List.mem_map.mp member
      trivial
    have same := drained_otherClient state { state with
      batch := rest
      clients := Function.update state.clients fd
        (some ⟨socket.pass (socket.received.take 8192), some next.conn⟩)
      world := next.world } rfl fun other different => Function.update_of_ne different ..
    rw [and_iff_left silent, firstEvent_leavesNothing_iff leaves (.client fd) events rest batch _
      (· = .client fd) rfl (fun descriptor _ member => List.mem_append.mpr member) same, forall_eq]
    show (¬ .client fd ∈ state.ready ++ rest.map Prod.fst → ∀ client, Function.update _ _ _ _ = _ → _) ↔ _
    rw [firstEvent_last valid _ events rest batch, Function.update_self]
    simp only [Option.some.injEq, forall_eq', Socket.received_pass]
    exact ⟨fun drained => or_iff_not_imp_right.mpr drained, fun drained => or_iff_not_imp_right.mp drained⟩

/-- After an accept only the rest of the queue and the new client matter. -/
theorem acceptance_leavesNothing_iff (valid : Consistent state) (leaves : LeavesNothing state)
    (listener : Listener) (events : EpollEvents) (rest : List (Descriptor × EpollEvents))
    (batch : state.batch = (.listening listener, events) :: rest) (fd : Nat) (sockets : List Socket)
    (next : EventLoop) (waiting : next.waiting = Function.update state.waiting listener sockets)
    (clients : ∀ other, other ≠ fd → next.clients other = state.clients other)
    (pending : ∀ descriptor, descriptor ≠ .client fd →
      (descriptor ∈ next.pending ↔ descriptor ∈ state.ready ++ rest.map Prod.fst)) :
    LeavesNothing next ↔ (sockets = [] ∨ .listening listener ∈ state.ready) ∧
      (.client fd ∉ next.pending → next.Drained (.client fd)) := by
  rw [firstEvent_leavesNothing_iff leaves (.listening listener) events rest batch next
    (fun descriptor => descriptor = .listening listener ∨ descriptor = .client fd) (.inl rfl)]
  · simp only [or_imp, forall_and, forall_eq]
    refine and_congr ?_ Iff.rfl
    show (_ → next.waiting listener = []) ↔ _
    rw [waiting, Function.update_self, pending (.listening listener) (fun other => nomatch other),
      firstEvent_last valid _ events rest batch]
    exact or_iff_not_imp_right.symm
  · intro descriptor untouched member
    rw [pending descriptor fun same => untouched (.inr same)]
    exact List.mem_append.mpr member
  · intro descriptor untouched drained
    cases descriptor with
    | listening other =>
        show next.waiting other = []
        rw [waiting, Function.update_of_ne fun same => untouched (.inl (congrArg _ same))]
        exact drained
    | client other =>
        intro client found
        rw [clients other fun same => untouched (.inr (congrArg _ same))] at found
        exact drained client found

/-- Registration reports no other descriptor. -/
theorem register_pending (state : EventLoop) (fd : Nat) (socket : Socket) (descriptor : Descriptor)
    (other : descriptor ≠ .client fd) :
    descriptor ∈ (state.register fd socket).pending ↔ descriptor ∈ state.pending := by
  unfold EventLoop.register EventLoop.pending
  dsimp only
  split
  · rfl
  · rw [List.mem_append, List.mem_append, mem_notify, or_iff_right other]

/-- A socket that is readable when it is registered has an event pending. -/
theorem register_drained (state : EventLoop) (fd : Nat) (socket : Socket)
    (idle : .client fd ∉ (state.register fd socket).pending) :
    (state.register fd socket).Drained (.client fd) := by
  unfold EventLoop.register EventLoop.pending at idle
  dsimp only at idle
  split at idle
  · rename_i silent
    intro client found
    dsimp only [EventLoop.register] at found
    rw [Function.update_self] at found
    obtain rfl := Option.some.inj found
    exact Socket.events_silent silent
  · exact absurd (List.mem_append_left _ ((mem_notify ..).mpr (.inl rfl))) idle

/-- An event of a listening socket leaves nothing behind exactly when one accept takes everybody. -/
theorem acceptConnection_iff (valid : Consistent state) (leaves : LeavesNothing state)
    (listener : Listener) (events : EpollEvents) (rest : List (Descriptor × EpollEvents))
    (answers : LoopAnswers) (batch : state.batch = (.listening listener, events) :: rest) :
    (LeavesNothing (acceptConnection maxClients { state with batch := rest } listener answers).1 ∧
        ∀ output ∈ (acceptConnection maxClients { state with batch := rest } listener answers).2,
          PassedAll output) ↔ AcceptDrains maxClients state listener answers := by
  have idle : LeavesNothing { state with batch := rest } ↔
      (.listening listener ∉ state.ready → state.waiting listener = []) := by
    rw [firstEvent_leavesNothing_iff leaves (.listening listener) events rest batch _
      (· = .listening listener) rfl (fun descriptor _ member => List.mem_append.mpr member)
      (fun descriptor _ drained => by cases descriptor <;> exact drained), forall_eq]
    show (¬ .listening listener ∈ state.ready ++ rest.map Prod.fst → _) ↔ _
    rw [firstEvent_last valid _ events rest batch]
    rfl
  unfold AcceptDrains
  cases waiting : state.waiting listener with
  | nil =>
      rw [acceptConnection_idle maxClients { state with batch := rest } listener answers (.inl waiting)]
      exact iff_of_true ⟨idle.mpr fun _ => waiting, fun output member => nomatch member⟩ trivial
  | cons socket sockets =>
      cases accepted : answers.accept.filter fun fd => (state.clients fd).isNone with
      | none =>
          rw [acceptConnection_idle maxClients { state with batch := rest } listener answers (.inr accepted),
            idle, waiting]
          simp
      | some fd =>
          have fresh := accept_fresh accepted
          have unused : .client fd ∉ state.ready ++ rest.map Prod.fst := by
            refine (valid.nextEvent _ rest batch).not_pending fd ?_
            dsimp only
            rw [fresh]
            exact fun client missing => nomatch missing
          have accounted : socket.Accounted :=
            valid.queued listener socket (waiting ▸ List.mem_cons_self ..)
          have after := acceptance_leavesNothing_iff valid leaves listener events rest batch fd sockets
          rw [acceptConnection_cases maxClients { state with batch := rest } listener answers socket sockets fd
            waiting accepted]
          dsimp only
          split
          · rename_i websocket
            rw [after _ rfl (fun other different => Function.update_of_ne different ..) fun _ _ => Iff.rfl]
            show ((_ ∧ (¬ .client fd ∈ state.ready ++ rest.map Prod.fst →
              ∀ client, Function.update _ _ _ _ = _ → _)) ∧ _) ↔ _
            rw [Function.update_self]
            simp [unused, websocket]
          · rename_i tcp
            split
            · rename_i refused
              rw [after { state with
                batch := rest
                waiting := Function.update state.waiting listener sockets } rfl (fun _ _ => rfl)
                fun _ _ => Iff.rfl]
              have closed : ∀ client, state.clients fd = some client → client.socket.received = [] := by
                rw [fresh]
                exact fun client missing => nomatch missing
              simp only [List.forall_mem_singleton, PassedAll, Socket.passed_eq_sent_iff accounted]
              exact ⟨fun ⟨⟨taken, _⟩, empty⟩ => ⟨taken, fun _ => empty⟩,
                fun ⟨taken, empty⟩ => ⟨⟨taken, fun _ => closed⟩, empty (.inr refused)⟩⟩
            · rename_i established
              rw [after _ rfl (fun other different => Function.update_of_ne different ..)
                (fun descriptor other => register_pending _ fd socket descriptor other)]
              have registered : ¬ (listener = .ws ∨ tcpConnectionResult maxClients answers ≠ 0) :=
                not_or.mpr ⟨tcp, established⟩
              exact ⟨fun ⟨⟨taken, _⟩, _⟩ => ⟨taken, fun closed => absurd closed registered⟩,
                fun ⟨taken, _⟩ => ⟨⟨taken, register_drained _ fd socket⟩, fun output member => nomatch member⟩⟩

/-- A step leaves nothing behind exactly when it finds what it can take. -/
theorem acceptThread_step_iff (state : EventLoop) (input : LoopInput) (valid : Consistent state)
    (leaves : LeavesNothing state) :
    (LeavesNothing ((acceptThread codec maxClients).step state input).1 ∧
        ∀ output ∈ ((acceptThread codec maxClients).step state input).2, PassedAll output) ↔
      Drains maxClients state input := by
  have silent : ∀ output ∈ ([] : List LoopOutput), PassedAll output := fun output member => nomatch member
  cases input with
  | connects listener =>
      exact iff_of_true ⟨connects_leavesNothing leaves listener, silent⟩ trivial
  | sends peer bytes =>
      rw [← sends_leavesNothing_iff maxClients valid leaves]
      exact and_iff_left silent
  | hangsUp peer how =>
      exact iff_of_true ⟨hangsUp_leavesNothing valid leaves how peer, silent⟩ trivial
  | epollWait reallocOk =>
      exact iff_of_true ⟨epollWait_leavesNothing leaves reallocOk, silent⟩ trivial
  | handles answers =>
      show (LeavesNothing (handleEvent codec maxClients state answers).1 ∧
        ∀ output ∈ (handleEvent codec maxClients state answers).2, PassedAll output) ↔ _
      unfold handleEvent Drains
      cases batch : state.batch with
      | nil => exact iff_of_true ⟨leaves, silent⟩ trivial
      | cons event rest =>
          obtain ⟨descriptor, events⟩ := event
          cases descriptor with
          | listening listener =>
              exact acceptConnection_iff maxClients valid leaves listener events rest answers batch
          | client fd => exact clientEvent_iff codec valid leaves fd events rest answers batch

/-- A run leaves nothing behind exactly as long as each handled event finds what one accept or one read
of 8192 bytes can take. -/
theorem acceptThread_leavesNothing_iff (world : World) (inputs : List LoopInput) :
    ((∀ visited ∈ (acceptThread codec maxClients).states (startLoop world) inputs, LeavesNothing visited) ∧
      ∀ output ∈ ((acceptThread codec maxClients).run (startLoop world) inputs).2, PassedAll output) ↔
      (acceptThread codec maxClients).Along (Drains maxClients) (startLoop world) inputs :=
  (acceptThread codec maxClients).kept_iff_along (Drains maxClients) Consistent LeavesNothing PassedAll
    (acceptThread_consistent codec maxClients) (acceptThread_step_iff codec maxClients) (startLoop world)
    inputs (startLoop_consistent world) (startLoop_leavesNothing world)

end Exactness

/-- A world whose clock stands still and whose sockets take one byte at a time. -/
def stillWorld : World := ⟨fun _ => 0, fun _ => .takes 0, 0, 0, [], []⟩

/-- Every call succeeds, and the next client gets descriptor 7. -/
def willingAnswers : LoopAnswers := ⟨some 7, 0, true, true, true, true, false, true⟩

/-- Of two connections that arrive together the second one stays in the queue. -/
theorem acceptThread_second_connection_waits :
    ¬ ∀ (codec : HeaderCodec) (maxClients : Nat) (world : World) (inputs : List LoopInput),
      ((∀ visited ∈ (acceptThread codec maxClients).states (startLoop world) inputs,
          LeavesNothing visited) ∧
        ∀ output ∈ ((acceptThread codec maxClients).run (startLoop world) inputs).2, PassedAll output) := by
  intro always
  obtain ⟨drained, -⟩ := always networkCodec 1000 stillWorld
    [.connects .tcp, .connects .tcp, .epollWait true, .handles willingAnswers]
  have last := drained _ (List.mem_of_getElem? (i := 4) rfl) (.listening .tcp) (by decide)
  cases last

end SecureChat.Server
