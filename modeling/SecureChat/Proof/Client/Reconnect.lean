import SecureChat.Proof.Client.Framing

namespace SecureChat.Client
open Library Protocol

section Readings

/-- The bytes that were read on one connection. -/
def bytesOf (connection : Nat) (readings : List Reading) : List UInt8 :=
  (readings.filter fun reading => reading.connection = connection).flatMap Reading.bytes

/-- The messages that were handled on one connection. -/
def handedOf (connection : Nat) (readings : List Reading) : List HandedMessage :=
  (readings.filter fun reading => reading.connection = connection).flatMap Reading.handed

theorem bytesOf_append (connection : Nat) (readings : List Reading) (reading : Reading) :
    bytesOf connection (readings ++ [reading]) = bytesOf connection readings ++
      if reading.connection = connection then reading.bytes else [] := by
  by_cases same : reading.connection = connection <;> simp [bytesOf, List.filter_append, same]

theorem handedOf_append (connection : Nat) (readings : List Reading) (reading : Reading) :
    handedOf connection (readings ++ [reading]) = handedOf connection readings ++
      if reading.connection = connection then reading.handed else [] := by
  by_cases same : reading.connection = connection <;> simp [handedOf, List.filter_append, same]

/-- Nothing was read on a connection that is newer than all readings. -/
theorem bytesOf_new (connection : Nat) (readings : List Reading)
    (past : ∀ reading ∈ readings, reading.connection < connection) : bytesOf connection readings = [] := by
  have none : (readings.filter fun reading => reading.connection = connection) = [] := by
    rw [List.filter_eq_nil_iff]
    intro reading member
    rw [decide_eq_true_eq]
    exact Nat.ne_of_lt (past reading member)
  rw [bytesOf, none, List.flatMap_nil]

end Readings

/-- The event makes a new connection. -/
def Establishes (session : Session) (event : ClientEvent) : Prop :=
  match event with
  | .connect (.connected _ _ _) => session.state = .disconnected ∨ session.state = .error
  | .reconnect (.connected _ _ _) =>
      session.reconnectThread = true ∧ session.host.client.threadsRunning = true ∧
        session.reconnectCount < session.reconnectAttempts.toUInt32
  | _ => False

/-- A new connection finds an empty receive buffer. -/
def StartsEmpty (session : Session) (event : ClientEvent) : Prop :=
  Establishes session event → session.host.client.recvBufferUsed = 0

/-- What an event without a reading does to the receive buffer and the connection. -/
inductive Quiet (session : Session) (event : ClientEvent) (next : Session) : Prop where
  | kept (valid : RecvBuffer next.host.client) (same : content next.host.client = content session.host.client)
      (connections : next.connections = session.connections)
      (thread : next.receiveThread = true → session.receiveThread = true)
  | cleaned (valid : RecvBuffer next.host.client) (unused : next.host.client.recvBufferUsed = 0)
      (connections : session.connections ≤ next.connections) (thread : next.receiveThread = false)
  | established (valid : RecvBuffer next.host.client)
      (same : next.host.client.recvBufferUsed = session.host.client.recvBufferUsed)
      (connections : next.connections = session.connections + 1)
      (establishes : Establishes session event)

section Events

variable (session : Session) (valid : RecvBuffer session.host.client)

include valid

theorem clientConnect_quiet (outcome : ConnectOutcome) :
    Quiet session (.connect outcome) (clientConnect session outcome) := by
  have unchanged : RecvBuffer session.host.client := valid
  obtain ⟨capacity, within⟩ := valid
  rw [clientConnect]
  split
  · exact .kept unchanged rfl rfl id
  · rename_i allowed
    have idle : session.state = .disconnected ∨ session.state = .error := by
      by_contra busy
      exact allowed (not_or.mp busy)
    split
    · exact .kept ⟨capacity, within⟩ rfl rfl id
    · exact .established ⟨capacity, within⟩ rfl rfl idle
    · exact .cleaned ⟨capacity, Nat.zero_le _⟩ rfl (Nat.le_succ _) rfl

theorem reconnectThreadRound_quiet (outcome : ConnectOutcome) :
    Quiet session (.reconnect outcome) (reconnectThreadRound session outcome) := by
  have unchanged : RecvBuffer session.host.client := valid
  obtain ⟨capacity, within⟩ := valid
  rw [reconnectThreadRound]
  split
  · exact .kept unchanged rfl rfl id
  · rename_i started
    rw [Bool.not_eq_true', Bool.not_eq_false] at started
    split
    · rename_i going
      cases outcome with
      | failed => exact .kept ⟨capacity, within⟩ rfl rfl id
      | connected sockfd stream threads =>
          cases threads with
          | true => exact .established ⟨capacity, within⟩ rfl rfl ⟨started, going.2, going.1⟩
          | false => exact .established ⟨capacity, within⟩ rfl rfl ⟨started, going.2, going.1⟩
    · split
      · exact .kept ⟨capacity, within⟩ rfl rfl id
      · exact .kept ⟨capacity, within⟩ rfl rfl id

theorem clientDisconnect_quiet : Quiet session .disconnect (clientDisconnect session) := by
  obtain ⟨capacity, within⟩ := id valid
  rw [clientDisconnect]
  split
  · exact .kept valid rfl rfl id
  · exact .cleaned ⟨capacity, Nat.zero_le _⟩ rfl (Nat.le_refl _) rfl

end Events

section Runs

variable (codec : HeaderCodec) (verifyMessageChecksum : MessageHeader → List UInt8 → Bool)

/-- What the client has read and handled so far, and what is left in its receive buffer. -/
structure Tracked (session : Session) (readings : List Reading) : Prop where
  ready : Ready codec verifyMessageChecksum session.host
  past : ∀ reading ∈ readings, reading.connection ≤ session.connections
  unmixed : ∀ connection, handedOf connection readings =
    streamMessages codec verifyMessageChecksum (bytesOf connection readings)
  current : session.receiveThread = true → content session.host.client =
    ((packetStream codec verifyMessageChecksum).drain (bytesOf session.connections readings)).2

theorem Tracked.quiet {session next : Session} {event : ClientEvent} {readings : List Reading}
    (tracked : Tracked codec verifyMessageChecksum session readings) (empty : StartsEmpty session event)
    (quiet : Quiet session event next) : Tracked codec verifyMessageChecksum next readings := by
  obtain ⟨ready, past, unmixed, current⟩ := tracked
  cases quiet with
  | kept valid same connections thread =>
      constructor
      · refine ⟨valid, (processRound_none codec verifyMessageChecksum _ valid).mpr ?_⟩
        rw [same]
        exact (processRound_none codec verifyMessageChecksum _ ready.valid).mp ready.settled
      · rw [connections]
        exact past
      · exact unmixed
      · intro alive
        rw [same, connections]
        exact current (thread alive)
  | cleaned valid unused connections thread =>
      constructor
      · exact Ready.empty codec verifyMessageChecksum _ valid unused
      · exact fun reading member => Nat.le_trans (past reading member) connections
      · exact unmixed
      · intro alive
        rw [thread] at alive
        cases alive
  | established valid same connections establishes =>
      have unused := same.trans (empty establishes)
      constructor
      · exact Ready.empty codec verifyMessageChecksum _ valid unused
      · exact fun reading member => Nat.le_trans (past reading member) (by omega)
      · exact unmixed
      · intro _
        have fresh := bytesOf_new next.connections readings
          fun reading member => Nat.lt_of_le_of_lt (past reading member) (by omega)
        rw [fresh, content, unused, List.take_zero]
        rfl

/-- A call of the receive thread continues the stream of the current connection. -/
theorem Tracked.reads {session : Session} {readings : List Reading}
    (tracked : Tracked codec verifyMessageChecksum session readings) (alive : session.receiveThread = true)
    {next : ClientHost} {bytes : List UInt8} {handed : List HandedMessage}
    (reads : Reads codec verifyMessageChecksum session.host next bytes handed)
    (after : Session) (connections : after.connections = session.connections)
    (valid : RecvBuffer after.host.client) (same : content after.host.client = content next.client) :
    Tracked codec verifyMessageChecksum after (readings ++ [⟨session.connections, bytes, handed⟩]) := by
  obtain ⟨ready, past, unmixed, current⟩ := tracked
  have before := current alive
  have continued := (packetStream codec verifyMessageChecksum).drain_append
    (bytesOf session.connections readings) bytes
  rw [← before] at continued
  constructor
  · refine ⟨valid, (processRound_none codec verifyMessageChecksum _ valid).mpr ?_⟩
    rw [same]
    exact (processRound_none codec verifyMessageChecksum _ reads.ready.valid).mp reads.ready.settled
  · rw [connections, List.forall_mem_append, List.forall_mem_singleton]
    exact ⟨past, Nat.le_refl _⟩
  · intro connection
    rw [handedOf_append, bytesOf_append]
    by_cases now : session.connections = connection
    · subst now
      rw [if_pos rfl, if_pos rfl, unmixed, reads.handed, streamMessages, streamMessages, streamMessages,
        continued, List.reduceOption_append]
    · rw [if_neg now, if_neg now, List.append_nil, List.append_nil, unmixed]
  · intro _
    rw [same, reads.content, connections, bytesOf_append, if_pos rfl, continued]

/-- One round of the receive thread. -/
theorem Tracked.receive {session : Session} {readings : List Reading}
    (tracked : Tracked codec verifyMessageChecksum session readings) (call : RecvCall) :
    Tracked codec verifyMessageChecksum (receiveThreadRound codec verifyMessageChecksum session call).1
      (readings ++ (receiveThreadRound codec verifyMessageChecksum session call).2) := by
  have ready := tracked.ready
  have reads := receiveMessageInternal_reads codec verifyMessageChecksum session.host ready call
  obtain ⟨capacity, within⟩ := reads.ready.valid
  rw [receiveThreadRound]
  split
  · rw [List.append_nil]
    exact tracked
  · rename_i alive
    rw [Bool.not_eq_true', Bool.not_eq_false] at alive
    split
    · rw [List.append_nil]
      have ended : Quiet session (.receive call) { session with receiveThread := false } :=
        .kept ready.valid rfl rfl (fun _ => alive)
      have silent : StartsEmpty session (.receive call) := fun establishes => False.elim establishes
      exact tracked.quiet codec verifyMessageChecksum silent ended
    · dsimp only
      split
      · split
        · exact tracked.reads codec verifyMessageChecksum alive reads _ rfl ⟨capacity, within⟩ rfl
        · exact tracked.reads codec verifyMessageChecksum alive reads _ rfl ⟨capacity, within⟩ rfl
      · exact tracked.reads codec verifyMessageChecksum alive reads _ rfl reads.ready.valid rfl

/-- Every event keeps the account, if a new connection starts with an empty buffer. -/
theorem Tracked.step (session : Session) (event : ClientEvent) (readings : List Reading)
    (tracked : Tracked codec verifyMessageChecksum session readings) (empty : StartsEmpty session event) :
    Tracked codec verifyMessageChecksum
      ((sessionMachine codec verifyMessageChecksum).step session event).1
      (readings ++ ((sessionMachine codec verifyMessageChecksum).step session event).2) := by
  have valid := tracked.ready.valid
  cases event with
  | receive call => exact tracked.receive codec verifyMessageChecksum call
  | connect outcome =>
      rw [sessionMachine, List.append_nil]
      exact tracked.quiet codec verifyMessageChecksum empty (clientConnect_quiet session valid outcome)
  | reconnect outcome =>
      rw [sessionMachine, List.append_nil]
      exact tracked.quiet codec verifyMessageChecksum empty (reconnectThreadRound_quiet session valid outcome)
  | disconnect =>
      rw [sessionMachine, List.append_nil]
      exact tracked.quiet codec verifyMessageChecksum empty (clientDisconnect_quiet session valid)
  | heartbeatLost =>
      rw [sessionMachine, List.append_nil]
      exact tracked.quiet codec verifyMessageChecksum empty
        (.kept ⟨valid.capacity, valid.within⟩ rfl rfl id)

/-- The messages that the loop hands over from a receive buffer with just these bytes. -/
def decodedAlone (host : ClientHost) (bytes : List UInt8) : List HandedMessage :=
  (processReceivedData codec verifyMessageChecksum (fillRecvBuffer
    { host with client.recvBufferUsed := 0, incoming := bytes })).2

theorem decodedAlone_eq (host : ClientHost) (bytes : List UInt8) :
    decodedAlone codec verifyMessageChecksum host bytes = streamMessages codec verifyMessageChecksum bytes := by
  have filled : content (fillRecvBuffer { host with client.recvBufferUsed := 0, incoming := bytes }).client =
      bytes := by
    show (_ ++ bytes).take _ = bytes
    rw [content, List.take_zero]
    exact List.take_length
  rw [decodedAlone, processReceivedData,
    (processRounds_drain codec verifyMessageChecksum _ _ ⟨rfl, Nat.le_refl _⟩ (Nat.le_refl _)).1, filled]

/-- On every connection exactly the messages of its own bytes are handled. -/
def Unmixed (session : Session) (readings : List Reading) : Prop :=
  ∀ connection, handedOf connection readings =
    decodedAlone codec verifyMessageChecksum session.host (bytesOf connection readings)

/-- In every run of a new client in which each new connection finds an empty receive buffer,
the streams of different connections do not mix. -/
theorem sessionMachine_unmixed (heartbeatInterval : UInt64) (reconnectAttempts : Int32)
    (answers : Nat → HandlerAnswers) (events : List ClientEvent)
    (empty : (sessionMachine codec verifyMessageChecksum).Along StartsEmpty
      (clientCreate heartbeatInterval reconnectAttempts answers) events) :
    Unmixed codec verifyMessageChecksum (clientCreate heartbeatInterval reconnectAttempts answers)
      ((sessionMachine codec verifyMessageChecksum).run
        (clientCreate heartbeatInterval reconnectAttempts answers) events).2 := by
  have initial : Tracked codec verifyMessageChecksum
      (clientCreate heartbeatInterval reconnectAttempts answers) [] := by
    constructor
    · exact Ready.empty codec verifyMessageChecksum _
        (clientCreate_valid heartbeatInterval reconnectAttempts answers) rfl
    · exact fun reading member => absurd member List.not_mem_nil
    · exact fun connection => rfl
    · exact fun alive => absurd alive Bool.false_ne_true
  have tracked := (sessionMachine codec verifyMessageChecksum).run_history StartsEmpty
    (Tracked codec verifyMessageChecksum)
    (fun session event readings tracked allowed =>
      Tracked.step codec verifyMessageChecksum session event readings tracked allowed)
    _ events [] initial empty
  intro connection
  rw [decodedAlone_eq]
  exact tracked.unmixed connection

end Runs

section Sample

/-- The bytes of an empty notification. -/
def notice : List UInt8 := writeNetworkHeader noticeHeader

/-- A client that does not wait for any answer. -/
def sampleSession : Session := clientCreate 30000 5 fun _ => ⟨0, 0, 64, 0⟩

/-- The connection is lost at the end of a message, and the next one brings another message. -/
theorem sessionMachine_unmixed_boundary :
    Unmixed networkCodec verifyNetworkChecksum sampleSession
      ((sessionMachine networkCodec verifyNetworkChecksum).run sampleSession
        [.connect (.connected 3 notice true), .receive ⟨true, .bytes 63⟩, .receive ⟨true, .failed⟩,
          .reconnect (.connected 4 notice true), .receive ⟨true, .bytes 63⟩]).2 :=
  sessionMachine_unmixed networkCodec verifyNetworkChecksum 30000 5 _ _
    ⟨fun _ => rfl, fun never => False.elim never, fun never => False.elim never, fun _ => by decide +kernel,
      fun never => False.elim never, trivial⟩

/-- The connection is lost inside a header, and the next message is taken for the rest of it. -/
theorem sessionMachine_mixes :
    ¬ Unmixed networkCodec verifyNetworkChecksum sampleSession
      ((sessionMachine networkCodec verifyNetworkChecksum).run sampleSession
        [.connect (.connected 3 notice true), .receive ⟨true, .bytes 9⟩, .receive ⟨true, .failed⟩,
          .reconnect (.connected 4 notice true), .receive ⟨true, .bytes 63⟩]).2 := by
  intro unmixed
  have second := unmixed 2
  revert second
  decide +kernel

end Sample

end SecureChat.Client
