import SecureChat.Construction.WebSocket.Session

namespace SecureChat.WebSocket
open Library

/-- What a decoded frame means for the message of its client. -/
inductive FrameRole where
  | tooLarge | single | first | further | close | control
  deriving DecidableEq, Repr

def frameRole (limit : Nat) (frame : Frame) : FrameRole :=
  if limit < frame.payload.length then .tooLarge
  else if frame.opcode = wsOpcodeText ∨ frame.opcode = wsOpcodeBinary then
    if frame.fin then .single else .first
  else if frame.opcode = wsOpcodeContinuation then .further
  else if frame.opcode = wsOpcodeClose then .close
  else .control

/-- The message of a client lies inside its buffer, and the buffer has the recorded capacity. -/
structure MessageBuffer (client : WebsocketClient) : Prop where
  capacity : client.messageBuffer.length = client.messageCapacity
  within : client.messageLength ≤ client.messageCapacity

theorem openClient_buffer (clientId now : Nat) : MessageBuffer (openClient clientId now) :=
  ⟨List.length_replicate, Nat.zero_le _⟩

/-- Two clients hold the same message when they agree on its opcode, buffer, and length. -/
structure SameMessage (client other : WebsocketClient) : Prop where
  state : other.state = client.state
  opcode : other.opcode = client.opcode
  buffer : other.messageBuffer = client.messageBuffer
  length : other.messageLength = client.messageLength
  capacity : other.messageCapacity = client.messageCapacity

theorem SameMessage.messageBuffer {client other : WebsocketClient} (same : SameMessage client other)
    (valid : MessageBuffer client) : MessageBuffer other where
  capacity := by rw [same.buffer, same.capacity]; exact valid.capacity
  within := by rw [same.length, same.capacity]; exact valid.within

/-- A server with a message callback and the given limit. -/
def sampleServer (limit : UInt32) : WebsocketServer where
  config := ⟨limit, 8192⟩
  onMessage := true
  onBinary := false
  stats := ⟨0, 0, 0⟩

/-- The message callback sees a complete message once, if it is set. -/
theorem deliver_delivery (server : WebsocketServer) (client : WebsocketClient) (opcode : UInt8)
    (data : List UInt8) (now : Nat) :
    (deliver server client opcode data now).filterMap delivery =
      if server.onMessage then [(opcode, data)] else [] := by
  unfold deliver
  split <;> split <;> simp [delivery]

/-- A frame of the control role is a ping, a pong or a frame that nobody knows. -/
theorem processFrame_control_cases (server : WebsocketServer) (client : WebsocketClient) (frame : Frame)
    (tick : Tick) (role : frameRole server.config.maxMessageSize.toNat frame = .control) :
    processFrame server client frame tick = ⟨0, server, some client, [.send [0x8A, 0x00]]⟩ ∨
      processFrame server client frame tick =
        ⟨0, { server with stats := { server.stats with pongCount := server.stats.pongCount + 1 } },
          some { client with lastPongReceived := tick.now }, []⟩ ∨
      processFrame server client frame tick = ⟨0, server, some client, []⟩ := by
  unfold frameRole at role
  unfold processFrame dispatchFrame
  split at role
  · cases role
  · rename_i fits
    rw [if_neg fits]
    split at role
    · split at role <;> cases role
    · rename_i notData
      rw [if_neg notData]
      split at role
      · cases role
      · rename_i notContinuation
        rw [if_neg notContinuation]
        split at role
        · cases role
        · rename_i notClose
          rw [if_neg notClose]
          split
          · exact .inl rfl
          · split
            · exact .inr (.inl rfl)
            · exact .inr (.inr rfl)

/-- A frame of the control role changes neither the message nor the callbacks. -/
theorem processFrame_control (server : WebsocketServer) (client : WebsocketClient) (frame : Frame)
    (tick : Tick) (role : frameRole server.config.maxMessageSize.toNat frame = .control) :
    (processFrame server client frame tick).server.config = server.config ∧
      (processFrame server client frame tick).server.onMessage = server.onMessage ∧
      (processFrame server client frame tick).events.filterMap delivery = [] ∧
      ∃ next, (processFrame server client frame tick).client = some next ∧ SameMessage client next := by
  rcases processFrame_control_cases server client frame tick role with ping | pong | other
  · rw [ping]
    exact ⟨rfl, rfl, rfl, client, rfl, rfl, rfl, rfl, rfl, rfl⟩
  · rw [pong]
    exact ⟨rfl, rfl, rfl, _, rfl, rfl, rfl, rfl, rfl, rfl⟩
  · rw [other]
    exact ⟨rfl, rfl, rfl, client, rfl, rfl, rfl, rfl, rfl, rfl⟩

/-- A frame of another role takes the branch of that role. -/
theorem processFrame_role (server : WebsocketServer) (client : WebsocketClient) (frame : Frame)
    (tick : Tick) :
    match frameRole server.config.maxMessageSize.toNat frame with
    | .tooLarge => processFrame server client frame tick =
        removed server (-1) wsStatusMessageTooBig (asciiBytes "Message too large")
    | .single => processFrame server client frame tick = completeMessage server client frame tick
    | .first => processFrame server client frame tick = startFragments server client frame tick
    | .further => processFrame server client frame tick = continueFragments server client frame tick
    | .close => processFrame server client frame tick =
        removed server 0 (closeReason frame.payload).1 (closeReason frame.payload).2
    | .control => True := by
  unfold frameRole processFrame dispatchFrame
  by_cases large : server.config.maxMessageSize.toNat < frame.payload.length
  · simp only [if_pos large]
  · by_cases data : frame.opcode = wsOpcodeText ∨ frame.opcode = wsOpcodeBinary
    · cases final : frame.fin <;> simp only [if_neg large, if_pos data] <;> rfl
    · by_cases continuation : frame.opcode = wsOpcodeContinuation
      · simp only [if_neg large, if_neg data, if_pos continuation]
      · by_cases close : frame.opcode = wsOpcodeClose
        · have notPing : frame.opcode ≠ wsOpcodePing := by rw [close]; decide
          have notPong : frame.opcode ≠ wsOpcodePong := by rw [close]; decide
          simp only [if_neg large, if_neg data, if_neg continuation, if_neg notPing, if_neg notPong,
            if_pos close]
        · simp only [if_neg large, if_neg data, if_neg continuation, if_neg close]

/-- A successful reservation has room for the size and keeps the message. -/
theorem reserve_some (client ready : WebsocketClient) (size : Nat) (tick : Tick)
    (valid : MessageBuffer client) (reserved : reserve client size tick = some ready) :
    ready.messageBuffer.length = ready.messageCapacity ∧ size ≤ ready.messageCapacity ∧
      client.messageCapacity ≤ ready.messageCapacity ∧
      ready.messageBuffer.take client.messageLength =
        client.messageBuffer.take client.messageLength ∧
      ready.messageLength = client.messageLength ∧ ready.opcode = client.opcode := by
  have capacity := valid.capacity
  have within := valid.within
  unfold reserve at reserved
  split at reserved
  · rename_i small
    split at reserved
    · obtain rfl := Option.some.inj reserved
      refine ⟨realloc_length 0 _ size, Nat.le_refl _, Nat.le_of_lt small, ?_, rfl, rfl⟩
      exact realloc_take 0 _ _ _ (by omega) (by omega)
    · cases reserved
  · rename_i roomy
    obtain rfl := Option.some.inj reserved
    exact ⟨capacity, by omega, Nat.le_refl _, rfl, rfl, rfl⟩

/-- The buffer can hold the size, if necessary after a successful `realloc`. -/
def HasRoom (client : WebsocketClient) (size : Nat) (tick : Tick) : Prop :=
  client.messageCapacity < size → tick.reallocOk = true

/-- A reservation fails exactly when there is no room. -/
theorem reserve_none_iff (client : WebsocketClient) (size : Nat) (tick : Tick) :
    reserve client size tick = none ↔ ¬ HasRoom client size tick := by
  unfold reserve HasRoom
  by_cases small : client.messageCapacity < size
  · cases memory : tick.reallocOk <;> simp [small]
  · simp [small]

/-- The text that a client has assembled so far. -/
def assembled (client : WebsocketClient) : List UInt8 :=
  client.messageBuffer.take client.messageLength

theorem assembled_length (client : WebsocketClient) (valid : MessageBuffer client) :
    (assembled client).length = client.messageLength := by
  have capacity := valid.capacity
  have within := valid.within
  simp only [assembled, List.length_take]
  omega

/-- A first fragment replaces the message, or fails after it has changed the opcode. -/
theorem startFragments_cases (server : WebsocketServer) (client : WebsocketClient) (frame : Frame)
    (tick : Tick) (valid : MessageBuffer client) :
    (¬ HasRoom client frame.payload.length tick ∧
      ∃ next, startFragments server client frame tick = ⟨-1, server, some next, []⟩ ∧
        MessageBuffer next ∧ next.opcode = frame.opcode ∧ next.messageLength = client.messageLength) ∨
    (∃ next, startFragments server client frame tick = ⟨0, server, some next, []⟩ ∧
      MessageBuffer next ∧ next.opcode = frame.opcode ∧ assembled next = frame.payload) := by
  let started := { client with opcode := frame.opcode, messageComplete := false, fragmentSize := 0 }
  have startedValid : MessageBuffer started := ⟨valid.capacity, valid.within⟩
  cases reserved : reserve started frame.payload.length tick with
  | none =>
      refine .inl ⟨(reserve_none_iff started _ tick).mp reserved, started, ?_, startedValid, rfl, rfl⟩
      simp only [startFragments]
      rw [reserved]
  | some ready =>
      obtain ⟨block, room, -, -, -, opcode⟩ := reserve_some started ready _ tick startedValid reserved
      refine .inr ⟨{ ready with
        messageBuffer := memcpy ready.messageBuffer 0 frame.payload
        messageLength := frame.payload.length
        fragmentSize := frame.payload.length }, ?_, ⟨?_, room⟩, opcode, ?_⟩
      · simp only [startFragments]
        rw [reserved]
      · exact (memcpy_length _ _ _ (by omega)).trans block
      · simpa [assembled] using memcpy_take ready.messageBuffer 0 frame.payload (by omega)

/-- A continuation frame is appended to the message, or fails without an effect. -/
theorem continueFragments_cases (server : WebsocketServer) (client : WebsocketClient)
    (frame : Frame) (tick : Tick) (valid : MessageBuffer client) :
    (¬ HasRoom client (client.messageLength + frame.payload.length) tick ∧
      continueFragments server client frame tick = ⟨-1, server, some client, []⟩) ∨
    (HasRoom client (client.messageLength + frame.payload.length) tick ∧
      ∃ next, continueFragments server client frame tick =
        (if frame.fin then finishFragments server next tick else ⟨0, server, some next, []⟩) ∧
      MessageBuffer next ∧ next.opcode = client.opcode ∧
      assembled next = assembled client ++ frame.payload) := by
  cases reserved : reserve client (client.messageLength + frame.payload.length) tick with
  | none =>
      refine .inl ⟨(reserve_none_iff client _ tick).mp reserved, ?_⟩
      rw [continueFragments, reserved]
  | some ready =>
      obtain ⟨block, room, -, kept, length, opcode⟩ := reserve_some client ready _ tick valid reserved
      have fits : ready.messageLength + frame.payload.length ≤ ready.messageBuffer.length := by omega
      have room : HasRoom client (client.messageLength + frame.payload.length) tick := by
        by_contra full
        rw [(reserve_none_iff client _ tick).mpr full] at reserved
        cases reserved
      refine .inr ⟨room, { ready with
        messageBuffer := memcpy ready.messageBuffer ready.messageLength frame.payload
        messageLength := ready.messageLength + frame.payload.length
        fragmentSize := ready.fragmentSize + frame.payload.length }, ?_, ⟨?_, ?_⟩, opcode, ?_⟩
      · rw [continueFragments, reserved]
      · exact (memcpy_length _ _ _ fits).trans block
      · simp only
        omega
      · have appended := memcpy_take ready.messageBuffer ready.messageLength frame.payload fits
        have same : ready.messageBuffer.take ready.messageLength = assembled client := by
          rw [length]
          exact kept
        exact appended.trans (congrArg (· ++ frame.payload) same)

/-- The last fragment hands the assembled text to the callback. -/
theorem finishFragments_delivery (server : WebsocketServer) (client : WebsocketClient) (tick : Tick)
    (registered : server.onMessage = true) :
    (finishFragments server client tick).events.filterMap delivery =
      [(client.opcode, assembled client)] :=
  (deliver_delivery _ _ _ _ _).trans (if_pos registered)

/-- The limit and the callback stay as configured, and every client has a valid message buffer. -/
structure ServesMessages (limit : Nat) (session : Session) : Prop where
  limited : session.server.config.maxMessageSize.toNat = limit
  registered : session.server.onMessage = true
  buffer : ∀ client, session.client = some client → MessageBuffer client

theorem servesMessages_open (server : WebsocketServer) (clientId now : Nat)
    (registered : server.onMessage = true) :
    ServesMessages server.config.maxMessageSize.toNat ⟨server, some (openClient clientId now)⟩ where
  limited := rfl
  registered := registered
  buffer := by
    intro client present
    obtain rfl := Option.some.inj present
    exact openClient_buffer clientId now

/-- A session serves on after any step that keeps the server and leaves a valid buffer. -/
theorem ServesMessages.next {limit : Nat} {session : Session} (serves : ServesMessages limit session)
    (server : WebsocketServer) (next : WebsocketClient) (config : server.config = session.server.config)
    (callback : server.onMessage = session.server.onMessage) (valid : MessageBuffer next) :
    ServesMessages limit ⟨server, some next⟩ where
  limited := by rw [config]; exact serves.limited
  registered := callback.trans serves.registered
  buffer := by
    intro client present
    obtain rfl := Option.some.inj present
    exact valid

theorem ServesMessages.gone {limit : Nat} {session : Session} (serves : ServesMessages limit session) :
    ServesMessages limit ⟨session.server, none⟩ where
  limited := serves.limited
  registered := serves.registered
  buffer := by intro client absent; cases absent

end SecureChat.WebSocket
