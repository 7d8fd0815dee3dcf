import SecureChat.Construction.Server.Events
import SecureChat.Proof.Server.RoundTrip

namespace SecureChat.Server
open Library Protocol

/-- The messages that the upper layer has got. -/
def returnedMessages (outputs : List ServerOutput) : List ReceivedMessage :=
  outputs.filterMap fun
    | .returned message => some message
    | _ => none

section Delivery

variable (codec : HeaderCodec)

/-- The complete and well-formed messages of a stream whose types are not system types. -/
def applicationMessages (stream : List UInt8) : List HandedMessage :=
  ((messageStream codec).drain stream).1.filter fun message =>
    decide (WellFormed codec message) && !systemTypes.contains message.header.type

/-- Some number of later calls returns each application message of the run exactly once.
No code of the server hands a message to an application handler. -/
def AllDelivered (host : Host) (operations : List ServerOperation) : Prop :=
  ∃ calls, (returnedMessages ((serverMachine codec).run (some host)
      (operations ++ List.replicate calls (.receiveMessage true))).2).Perm
    ((applicationMessages codec (deliveredBytes
      ((serverMachine codec).run (some host) operations).2)).map receivedMessage)

/-- No complete message is left in the buffer. -/
def Settled (state : Option Host) : Prop :=
  ∀ host, state = some host →
    RecvBuffer host.conn ∧ nextMessage codec (content host.conn) = none

theorem settled_new (fd : Int) (ssl : Bool) (now : UInt64) (world : World) :
    Settled codec (some ⟨connectionCreate fd ssl now, world⟩) := by
  intro host same
  obtain rfl := Option.some.inj same
  exact ⟨connectionCreate_valid fd ssl now, rfl⟩

/-- Processing leaves no complete message behind. -/
theorem connectionProcessData_settled (host : Host) (valid : RecvBuffer host.conn)
    (settled : nextMessage codec (content host.conn) = none) (data : List UInt8) (reallocOk : Bool) :
    RecvBuffer (connectionProcessData codec host data reallocOk).2.1.conn ∧
      nextMessage codec (content (connectionProcessData codec host data reallocOk).2.1.conn) = none := by
  rcases connectionProcessData_drain codec host valid data reallocOk with ⟨idle, -⟩ | ⟨kept, step⟩
  · rw [idle]
    exact ⟨valid, settled⟩
  · obtain ⟨rest, -⟩ := Prod.mk.inj step
    refine ⟨kept, ?_⟩
    rw [rest]
    exact (messageStream codec).next_drain _

theorem connectionReceive_buffer (host : Host) (reply : RecvReply) (bufferLen : Nat) :
    SameBuffer host.conn (connectionReceive host reply bufferLen).2.2.conn := by
  unfold connectionReceive
  split
  · exact .refl _
  · dsimp only
    split <;> exact ⟨rfl, rfl, rfl⟩

theorem settled_none : Settled codec none := fun _ missing => nomatch missing

theorem settled_some {host : Host} (valid : RecvBuffer host.conn)
    (settled : nextMessage codec (content host.conn) = none) : Settled codec (some host) := by
  intro other same
  obtain rfl := Option.some.inj same
  exact ⟨valid, settled⟩

/-- Messages that go to `process_complete_message` are not returned to anybody. -/
theorem returnedMessages_handed (bytes : List UInt8) (messages : List HandedMessage) :
    returnedMessages (.delivered bytes :: messages.map .handed) = [] := by
  simp [returnedMessages]

theorem handleClientEvent_settled (host : Host) (events : EpollEvents) (reply : RecvReply)
    (reallocOk : Bool) (valid : RecvBuffer host.conn)
    (settled : nextMessage codec (content host.conn) = none) :
    Settled codec (handleClientEvent codec host events reply reallocOk).1 ∧
      returnedMessages (handleClientEvent codec host events reply reallocOk).2 = [] := by
  have same := connectionReceive_buffer host reply 8192
  unfold handleClientEvent
  split
  · exact ⟨settled_some codec valid settled, rfl⟩
  · split
    · exact ⟨settled_none codec, rfl⟩
    · split
      · exact ⟨settled_none codec, rfl⟩
      · split
        · dsimp only
          split
          · obtain ⟨kept, rest⟩ := connectionProcessData_settled codec
              (connectionReceive host reply 8192).2.2 (same.valid valid)
              (by rw [same.content]; exact settled) (connectionReceive host reply 8192).2.1 reallocOk
            exact ⟨settled_some codec kept rest, returnedMessages_handed _ _⟩
          · exact ⟨settled_none codec, rfl⟩
        · exact ⟨settled_some codec valid settled, rfl⟩

theorem receiveStep_settled (host : Host) (mallocOk : Bool) (valid : RecvBuffer host.conn)
    (settled : nextMessage codec (content host.conn) = none) :
    Settled codec (receiveStep codec host mallocOk).1 ∧
      returnedMessages (receiveStep codec host mallocOk).2 = [] := by
  unfold receiveStep
  rcases connectionReceiveMessage_taken codec host.conn valid mallocOk ⟨0, [], 0⟩ with
    ⟨result, failed, same⟩ | ⟨message, size, next, read, -⟩
  · rw [same]
    dsimp only
    rw [if_neg (by omega)]
    exact ⟨settled_some codec valid settled, rfl⟩
  · rw [settled] at read
    cases read

/-- No operation leaves a complete message behind, and none returns a message. -/
theorem serverMachine_settled (state : Option Host) (operation : ServerOperation)
    (settled : Settled codec state) :
    Settled codec ((serverMachine codec).step state operation).1 ∧
      returnedMessages ((serverMachine codec).step state operation).2 = [] := by
  cases state with
  | none => exact ⟨settled_none codec, rfl⟩
  | some host =>
      obtain ⟨valid, rest⟩ := settled host rfl
      cases operation with
      | event events reply reallocOk =>
          exact handleClientEvent_settled codec host events reply reallocOk valid rest
      | receiveMessage mallocOk => exact receiveStep_settled codec host mallocOk valid rest

/-- No run returns a message to the upper layer. -/
theorem serverMachine_returns_nothing (host : Host) (settled : Settled codec (some host))
    (operations : List ServerOperation) :
    returnedMessages ((serverMachine codec).run (some host) operations).2 = [] := by
  have history := (serverMachine codec).history_always
    (fun state outputs => Settled codec state ∧ returnedMessages outputs = [])
    (by
      intro state operation outputs related
      obtain ⟨kept, silent⟩ := serverMachine_settled codec state operation related.1
      refine ⟨kept, ?_⟩
      have joined : returnedMessages (outputs ++ ((serverMachine codec).step state operation).2) =
          returnedMessages outputs ++ returnedMessages ((serverMachine codec).step state operation).2 :=
        List.filterMap_append
      rw [joined, related.2, silent]
      rfl)
    (some host) operations [] ⟨settled, rfl⟩
  exact history.2

/-- The server loses every application message: all are delivered only if there is none. -/
theorem allDelivered_iff (fd : Int) (ssl : Bool) (now : UInt64) (world : World)
    (operations : List ServerOperation) :
    AllDelivered codec ⟨connectionCreate fd ssl now, world⟩ operations ↔
      applicationMessages codec (deliveredBytes ((serverMachine codec).run
        (some ⟨connectionCreate fd ssl now, world⟩) operations).2) = [] := by
  have nothing := serverMachine_returns_nothing codec _ (settled_new codec fd ssl now world)
  unfold AllDelivered
  constructor
  · rintro ⟨calls, same⟩
    rw [nothing] at same
    exact List.map_eq_nil_iff.mp same.nil_eq.symm
  · intro empty
    refine ⟨0, ?_⟩
    rw [nothing, empty]
    exact List.Perm.nil

end Delivery

/-- A chat text that arrives in one chunk is neither returned nor kept. -/
theorem allDelivered_chat_text_fails :
    ¬ AllDelivered networkCodec sampleHost
      [.event epollIn (.data (sampleMessage msgChatTextSend [0x68, 0x69])) true] := by
  rintro ⟨calls, same⟩
  rw [serverMachine_returns_nothing networkCodec sampleHost (settled_new networkCodec 4 false 0 _)] at same
  have arrived := List.map_eq_nil_iff.mp same.nil_eq.symm
  exact absurd arrived (by decide +kernel)

/-- The replies of the event handler stand for the results of the two receive functions. -/
theorem plainReceive_reply (outcome : RecvOutcome) (bufferLen : Nat) :
    plainReceive outcome bufferLen = receiveReply outcome.reply bufferLen := by
  cases outcome <;> rfl

theorem sslReceive_reply (outcome : SslReadOutcome) (bufferLen : Nat) :
    sslReceive outcome bufferLen = receiveReply outcome.reply bufferLen := by
  cases outcome <;> rfl

/-- No application data is there yet. -/
def ReadOutcome.empty (outcome : ReadOutcome) (conn : ClientConnection) : Prop :=
  if conn.ssl then outcome.sslRead = .wantRead ∨ outcome.sslRead = .wantWrite else outcome.recv = .wouldBlock

/-- The handler goes on to read from the connection. -/
structure Reads (host : Host) (events : EpollEvents) : Prop where
  present : host.conn.fd ≠ -1
  connected : ¬ (events.rdhup ∨ events.hup)
  sound : events.err = false
  readable : events.epollin = true

variable (codec : HeaderCodec)

end SecureChat.Server
