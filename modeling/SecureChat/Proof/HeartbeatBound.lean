import Mathlib.Data.List.Perm.Basic
import SecureChat.Construction.HeartbeatProtocol
import SecureChat.Proof.Server.RoundTrip

namespace SecureChat.HeartbeatProtocol
open Library Protocol Client Server

/-- The number of heartbeats among the messages. -/
def heartbeats (messages : List HandedMessage) : Nat :=
  messages.countP fun message => message.header.type = msgSystemHeartbeat

/-- The messages that the client has sent. -/
def clientMessages (events : List ProtocolEvent) : List HandedMessage :=
  events.filterMap fun
    | .clientSent message => some message
    | _ => none

/-- The messages that the server has sent. -/
def serverMessages (events : List ProtocolEvent) : List HandedMessage :=
  events.filterMap fun
    | .serverSent message => some message
    | _ => none

/-- The number of heartbeats that either side has sent. -/
def heartbeatsSent (events : List ProtocolEvent) : Nat :=
  heartbeats (clientMessages events) + heartbeats (serverMessages events)

def timerTicks (events : List ProtocolEvent) : Nat := events.count .timerTick

section Counting

@[simp] theorem heartbeats_nil : heartbeats [] = 0 := rfl

@[simp] theorem heartbeats_append (first second : List HandedMessage) :
    heartbeats (first ++ second) = heartbeats first + heartbeats second :=
  List.countP_append

theorem heartbeats_single (message : HandedMessage) : heartbeats [message] ≤ 1 :=
  List.countP_le_length

theorem heartbeats_heartbeat (message : HandedMessage)
    (heartbeat : message.header.type = msgSystemHeartbeat) : heartbeats [message] = 1 := by
  simp [heartbeats, heartbeat]

theorem heartbeats_other (message : HandedMessage)
    (other : message.header.type ≠ msgSystemHeartbeat) : heartbeats [message] = 0 := by
  simp [heartbeats, other]

/-- A delivered message is one of the messages on their way. -/
theorem heartbeats_eraseIdx (messages : List HandedMessage) (position : Nat) (message : HandedMessage)
    (found : messages[position]? = some message) :
    heartbeats messages = heartbeats [message] + heartbeats (messages.eraseIdx position) := by
  obtain ⟨within, same⟩ := List.getElem?_eq_some_iff.mp found
  have moved := List.getElem_cons_eraseIdx_perm within
  rw [same] at moved
  rw [← heartbeats_append]
  exact (moved.countP_eq _).symm

@[simp] theorem clientMessages_append (first second : List ProtocolEvent) :
    clientMessages (first ++ second) = clientMessages first ++ clientMessages second :=
  List.filterMap_append

@[simp] theorem serverMessages_append (first second : List ProtocolEvent) :
    serverMessages (first ++ second) = serverMessages first ++ serverMessages second :=
  List.filterMap_append

@[simp] theorem timerTicks_append (first second : List ProtocolEvent) :
    timerTicks (first ++ second) = timerTicks first + timerTicks second :=
  List.count_append

@[simp] theorem clientMessages_clientSent (sent : List HandedMessage) :
    clientMessages (sent.map .clientSent) = sent := by
  simp [clientMessages]

@[simp] theorem serverMessages_serverSent (sent : List HandedMessage) :
    serverMessages (sent.map .serverSent) = sent := by
  simp [serverMessages]

@[simp] theorem serverMessages_clientSent (sent : List HandedMessage) :
    serverMessages (sent.map .clientSent) = [] := by
  simp [serverMessages]

@[simp] theorem clientMessages_serverSent (sent : List HandedMessage) :
    clientMessages (sent.map .serverSent) = [] := by
  simp [clientMessages]

@[simp] theorem timerTicks_clientSent (sent : List HandedMessage) :
    timerTicks (sent.map .clientSent) = 0 := by
  simp [timerTicks, List.count_eq_zero]

@[simp] theorem timerTicks_serverSent (sent : List HandedMessage) :
    timerTicks (sent.map .serverSent) = 0 := by
  simp [timerTicks, List.count_eq_zero]

@[simp] theorem clientMessages_timerTick (events : List ProtocolEvent) :
    clientMessages (.timerTick :: events) = clientMessages events := rfl

@[simp] theorem serverMessages_timerTick (events : List ProtocolEvent) :
    serverMessages (.timerTick :: events) = serverMessages events := rfl

@[simp] theorem timerTicks_timerTick (events : List ProtocolEvent) :
    timerTicks (.timerTick :: events) = timerTicks events + 1 :=
  List.count_cons_self

end Counting

section Sending

variable (codec : HeaderCodec)

theorem sendLoop_sent (fuel : Nat) (data : List UInt8) (world : World) :
    (sendLoop fuel data world).2.sent = world.sent := by
  induction fuel generalizing data world with
  | zero => rfl
  | succ fuel ih =>
      rw [sendLoop]
      split
      · rfl
      · dsimp only
        split
        · exact ih _ _
        · rfl
        · rfl

/-- Bytes alone are no message. -/
theorem connectionSend_sent (host : Host) (data : List UInt8) :
    (connectionSend host data).2.world.sent = host.world.sent := by
  obtain ⟨-, checked⟩ := connectionCheckRateLimit_traffic host data.length
  have written := sendLoop_sent data.length data (connectionCheckRateLimit host data.length).2.world
  rw [checked] at written
  unfold connectionSend
  split
  · rfl
  · dsimp only
    split
    · exact checked
    · rw [sendLoop_either]
      split
      · exact written
      · exact written
      · exact (checkRateLimitReset_traffic _).2.trans written

/-- A call sends one message of its type, or none. -/
theorem connectionSendMessage_sent (host : Host) (messageType : UInt32) (data : List UInt8) :
    (connectionSendMessage codec host messageType data).2.world.sent = host.world.sent ∨
      ∃ message, message.header.type = messageType ∧
        (connectionSendMessage codec host messageType data).2.world.sent = host.world.sent ++ [message] := by
  have recorded (next : Host) (header : MessageHeader) :
      (recordSent next header data).world.sent = next.world.sent ++ [⟨header, data⟩] := rfl
  unfold connectionSendMessage
  split
  · exact .inl rfl
  · dsimp only
    split
    · exact .inl (connectionSend_sent _ _)
    · split
      · split
        · left
          rw [connectionSend_sent, connectionSend_sent]
          rfl
        · right
          refine ⟨_, ?_, by rw [recorded, connectionSend_sent, connectionSend_sent]; rfl⟩
          rfl
      · right
        refine ⟨_, ?_, by rw [recorded, connectionSend_sent]; rfl⟩
        rfl

/-- The server answers a heartbeat with at most one heartbeat, and nothing else. -/
theorem serverRound_sent (host : Host) (message : HandedMessage) :
    ∃ sent, (serverRound codec host message).world.sent = host.world.sent ++ sent ∧
      heartbeats sent ≤ heartbeats [message] := by
  have silent : ∃ sent, host.world.sent = host.world.sent ++ sent ∧
      heartbeats sent ≤ heartbeats [message] :=
    ⟨[], (List.append_nil _).symm, Nat.zero_le _⟩
  unfold serverRound processCompleteMessage
  split_ifs with heartbeat eight
  · rw [heartbeats_heartbeat message heartbeat]
    rcases connectionSendMessage_sent codec ⟨{ (atFront codec host message).conn with
      lastHeartbeat := (getCurrentTimestampMs host.world).1 }, (getCurrentTimestampMs host.world).2⟩
      msgSystemHeartbeat (((atFront codec host message).conn.recvBuffer.drop headerSize).take 8)
      with same | ⟨answer, -, grown⟩
    · exact ⟨[], same.trans (List.append_nil _).symm, Nat.zero_le _⟩
    · exact ⟨[answer], grown, heartbeats_single answer⟩
  · exact silent
  · exact silent
  · exact silent

/-- A call of the client sends one message of its type, or none. -/
theorem sendMessageInternal_sent (client : SecureChatClient) (messageType : UInt32) (data : List UInt8)
    (results : SendResults) :
    (sendMessageInternal codec client messageType data results).sent = [] ∨
      ∃ message, message.header.type = messageType ∧
        (sendMessageInternal codec client messageType data results).sent = [message] := by
  unfold sendMessageInternal
  split_ifs
  · exact .inl rfl
  · exact .inl rfl
  · exact .inl rfl
  · exact .inr ⟨_, rfl, rfl⟩

/-- One round of the heartbeat thread sends at most one heartbeat. -/
theorem heartbeatRound_sent (client : SecureChatClient) (now : UInt64) (results : SendResults) :
    heartbeats (heartbeatRound codec client now results).2 ≤ 1 := by
  have bounded : heartbeats (sendMessageInternal codec client msgSystemHeartbeat
      (littleEndian 8 now.toNat) results).sent ≤ 1 := by
    rcases sendMessageInternal_sent codec client msgSystemHeartbeat (littleEndian 8 now.toNat) results with
      nothing | ⟨message, -, single⟩
    · simp [nothing]
    · rw [single]
      exact heartbeats_single message
  unfold heartbeatRound
  dsimp only
  split_ifs
  · exact Nat.zero_le _
  · exact bounded
  · exact bounded
  · exact Nat.zero_le _

end Sending

section Bound

variable (codec : HeaderCodec) (verifyMessageChecksum : MessageHeader → List UInt8 → Bool)

/-- The client cannot send this data. Its connection is gone, or one of its writes fails. -/
def SendFails (client : SecureChatClient) (data : List UInt8) (results : SendResults) : Prop :=
  client.connectionActive = false ∨ client.sockfd = -1 ∨ results.header ≠ headerSize ∨
    (0 < data.length ∧ results.body ≠ data.length)

instance (client : SecureChatClient) (data : List UInt8) (results : SendResults) :
    Decidable (SendFails client data results) :=
  inferInstanceAs (Decidable (_ ∨ _ ∨ _ ∨ _ ∧ _))

/-- The client cannot send back a heartbeat that the step delivers to it. -/
def NoEcho (parties : Parties) (step : ProtocolStep) : Prop :=
  match step with
  | .deliverToClient position _ results =>
      ∀ message ∈ parties.toClient[position]?, handsOver verifyMessageChecksum message = true →
        message.header.type = msgSystemHeartbeat → SendFails parties.client message.body results
  | _ => True

/-- Both sides together send at most two heartbeats for each timer tick. -/
def HeartbeatsBounded (parties : Parties) (steps : List ProtocolStep) : Prop :=
  heartbeatsSent ((protocolMachine codec verifyMessageChecksum).run parties steps).2 ≤
    2 * timerTicks ((protocolMachine codec verifyMessageChecksum).run parties steps).2

/-- Each heartbeat of the server answers one of the client that is no longer on its way.
Each heartbeat of the client belongs to a timer tick. -/
structure Answered (parties : Parties) (events : List ProtocolEvent) : Prop where
  answers : heartbeats (serverMessages events) + heartbeats parties.toServer ≤
    heartbeats (clientMessages events)
  ticked : heartbeats (clientMessages events) ≤ timerTicks events

variable {codec verifyMessageChecksum} {parties : Parties} {events : List ProtocolEvent}

/-- The heartbeats of the client need timer ticks. -/
theorem Answered.clientTicks (answered : Answered parties events) (client : SecureChatClient)
    (sent : List HandedMessage) (single : heartbeats sent ≤ 1) :
    Answered (clientSends parties client sent).1
      (events ++ .timerTick :: (clientSends parties client sent).2) := by
  obtain ⟨answers, ticked⟩ := answered
  constructor
  · simp [clientSends]
    omega
  · simp [clientSends]
    omega

/-- Other messages of the client change nothing. -/
theorem Answered.clientSends (answered : Answered parties events) (client : SecureChatClient)
    (sent : List HandedMessage) (none : heartbeats sent = 0) :
    Answered (clientSends parties client sent).1 (events ++ (clientSends parties client sent).2) := by
  obtain ⟨answers, ticked⟩ := answered
  constructor
  · simp [HeartbeatProtocol.clientSends, none]
    omega
  · simp [HeartbeatProtocol.clientSends, none]
    omega

/-- The server sends no more heartbeats than have been taken from the ones on their way. -/
theorem Answered.serverSends (answered : Answered parties events) (waiting : Parties) (server : Host)
    (sent : List HandedMessage) (grown : server.world.sent = waiting.server.world.sent ++ sent)
    (covered : heartbeats sent + heartbeats waiting.toServer ≤ heartbeats parties.toServer) :
    Answered (serverSends waiting server).1 (events ++ (serverSends waiting server).2) := by
  obtain ⟨answers, ticked⟩ := answered
  have new : server.world.sent.drop waiting.server.world.sent.length = sent := by
    rw [grown, List.drop_left]
  simp only [HeartbeatProtocol.serverSends, new]
  constructor
  · simp
    omega
  · simp
    omega

theorem sendMessageInternal_fails (client : SecureChatClient) (messageType : UInt32) (data : List UInt8)
    (results : SendResults) (fails : SendFails client data results) :
    (sendMessageInternal codec client messageType data results).sent = [] := by
  unfold sendMessageInternal
  dsimp only
  split_ifs with gone short partly
  · rfl
  · rfl
  · rfl
  · rcases fails with inactive | closed | header | body
    · simp [inactive] at gone
    · exact absurd (.inr closed) gone
    · exact absurd header short
    · exact absurd body partly

/-- Without an echo the client sends no heartbeat when it handles a message. -/
theorem handleMessage_sent (client : SecureChatClient) (message : HandedMessage) (now : UInt64)
    (results : SendResults)
    (fails : message.header.type = msgSystemHeartbeat → SendFails client message.body results) :
    (handleMessage codec client message now results).sent = [] := by
  unfold handleMessage
  split_ifs with heartbeat
  · exact sendMessageInternal_fails _ _ _ _ (fails heartbeat)
  · rfl
  · rfl
  · rfl
  · rfl

/-- A step without an echo keeps the balance. -/
theorem protocolMachine_answered (parties : Parties) (step : ProtocolStep) (events : List ProtocolEvent)
    (answered : Answered parties events) (silent : NoEcho verifyMessageChecksum parties step) :
    Answered ((protocolMachine codec verifyMessageChecksum).step parties step).1
      (events ++ ((protocolMachine codec verifyMessageChecksum).step parties step).2) := by
  have unchanged : Answered parties (events ++ []) := by
    rwa [List.append_nil]
  cases step with
  | timerTick now results =>
      dsimp only [protocolMachine, protocolStep]
      split
      · exact answered.clientTicks _ _ (heartbeatRound_sent codec parties.client now results)
      · exact unchanged
  | deliverToServer position =>
      dsimp only [protocolMachine, protocolStep]
      cases found : parties.toServer[position]? with
      | none => exact unchanged
      | some message =>
          obtain ⟨sent, grown, single⟩ := serverRound_sent codec parties.server message
          have taken := heartbeats_eraseIdx _ _ _ found
          apply answered.serverSends { parties with toServer := parties.toServer.eraseIdx position } _
            sent grown
          dsimp only
          omega
  | deliverToClient position now results =>
      dsimp only [protocolMachine, protocolStep]
      cases found : parties.toClient[position]? with
      | none => exact unchanged
      | some message =>
          dsimp only
          have delivered : Answered { parties with toClient := parties.toClient.eraseIdx position } events :=
            ⟨answered.answers, answered.ticked⟩
          split
          · rename_i handed
            apply delivered.clientSends
            rw [handleMessage_sent _ _ _ _ (silent message found handed), heartbeats_nil]
          · rw [List.append_nil]
            exact delivered
  | clientSend message results =>
      dsimp only [protocolMachine, protocolStep]
      apply answered.clientSends
      rcases sendMessageInternal_sent codec parties.client message.messageType message.data results with
        nothing | ⟨sent, same, single⟩
      · rw [nothing, heartbeats_nil]
      · rw [single]
        exact heartbeats_other sent (by rw [same]; exact message.other)
  | serverSend message =>
      dsimp only [protocolMachine, protocolStep]
      rcases connectionSendMessage_sent codec parties.server message.messageType message.data with
        nothing | ⟨sent, same, grown⟩
      · exact answered.serverSends parties _ [] (by rw [nothing, List.append_nil]) (by simp)
      · apply answered.serverSends parties _ [sent] grown
        rw [heartbeats_other sent (by rw [same]; exact message.other)]
        omega
  | connectionLost =>
      dsimp only [protocolMachine, protocolStep]
      rw [List.append_nil]
      exact ⟨answered.answers, answered.ticked⟩
  | clientDisconnect =>
      dsimp only [protocolMachine, protocolStep]
      rw [List.append_nil]
      exact ⟨answered.answers, answered.ticked⟩

/-- As long as the client sends back no heartbeat, the heartbeats do not multiply. -/
theorem heartbeatsBounded_of_noEcho (client : SecureChatClient) (server : Host) (steps : List ProtocolStep)
    (silent : (protocolMachine codec verifyMessageChecksum).Along (NoEcho verifyMessageChecksum)
      ⟨client, server, [], []⟩ steps) :
    HeartbeatsBounded codec verifyMessageChecksum ⟨client, server, [], []⟩ steps := by
  have initial : Answered ⟨client, server, [], []⟩ [] := ⟨Nat.le_refl _, Nat.le_refl _⟩
  have balance := (protocolMachine codec verifyMessageChecksum).run_history (NoEcho verifyMessageChecksum)
    Answered (fun parties step events => protocolMachine_answered parties step events) _ steps [] initial silent
  rw [List.nil_append] at balance
  obtain ⟨answers, ticked⟩ := balance
  unfold HeartbeatsBounded heartbeatsSent
  omega

end Bound

/-- A connected client that has sent nothing. -/
def sampleClient : SecureChatClient where
  sockfd := 3
  connectionActive := true
  threadsRunning := true
  heartbeatThread := true
  heartbeatInterval := 30000
  messageHandlers := []
  errorCallback := false
  lastHeartbeatSent := 0
  lastHeartbeatReceived := 0
  heartbeatMissed := 0
  messagesSent := 0
  bytesSent := 0

/-- Both writes of a heartbeat succeed. -/
def sampleResults : SendResults := ⟨30000, 64, 8⟩

/-- The checksum of the codec is compared. -/
def sampleVerify (header : MessageHeader) (body : List UInt8) : Bool :=
  networkCodec.calculateMessageChecksum body == header.checksum

/-- The heartbeat is answered, but the client has lost its connection before the answer arrives. -/
theorem heartbeatsBounded_lost :
    HeartbeatsBounded networkCodec sampleVerify ⟨sampleClient, sampleHost, [], []⟩
      [.timerTick 30000 sampleResults, .deliverToServer 0, .connectionLost,
        .deliverToClient 0 30001 sampleResults] :=
  heartbeatsBounded_of_noEcho sampleClient sampleHost _
    ⟨trivial, trivial, trivial, fun _ _ _ _ => .inl (by decide +kernel), trivial⟩

/-- The client sends back the answer to its only heartbeat. -/
theorem heartbeatsBounded_echo_fails :
    ¬ HeartbeatsBounded networkCodec sampleVerify ⟨sampleClient, sampleHost, [], []⟩
      [.timerTick 30000 sampleResults, .deliverToServer 0, .deliverToClient 0 30001 sampleResults] := by
  unfold HeartbeatsBounded
  decide +kernel

end SecureChat.HeartbeatProtocol
