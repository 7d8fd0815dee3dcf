import SecureChat.Proof.WebSocket.MessageBuffer

namespace SecureChat.WebSocket
open Library

/-- The client has assembled at most the configured number of bytes. -/
def WithinLimit (limit : Nat) (session : Session) : Prop :=
  ∀ client, session.client = some client → client.messageLength ≤ limit

/-- A continuation frame that the buffer can take leaves the message within the limit. -/
def ContinuationFits (session : Session) (input : Frame × Tick) : Prop :=
  ∀ client, session.client = some client →
    frameRole session.server.config.maxMessageSize.toNat input.1 = .further →
    HasRoom client (client.messageLength + input.1.payload.length) input.2 →
    client.messageLength + input.1.payload.length ≤ session.server.config.maxMessageSize.toNat

theorem withinLimit_gone (limit : Nat) (server : WebsocketServer) :
    WithinLimit limit ⟨server, none⟩ := by
  intro client absent
  cases absent

theorem withinLimit_some (limit : Nat) (server : WebsocketServer) (client : WebsocketClient) :
    WithinLimit limit ⟨server, some client⟩ ↔ client.messageLength ≤ limit := by
  constructor
  · intro within
    exact within client rfl
  · intro within other present
    obtain rfl := Option.some.inj present
    exact within

/-- A frame that is not too large fits the limit by itself. -/
theorem frameRole_fits (limit : Nat) (frame : Frame) (role : frameRole limit frame ≠ .tooLarge) :
    frame.payload.length ≤ limit := by
  unfold frameRole at role
  split at role
  · exact absurd rfl role
  · omega

/-- A continuation frame keeps the buffer valid. It keeps the limit if its message fits. -/
theorem continueFragments_serves {limit : Nat} {session : Session} {client : WebsocketClient}
    (serves : ServesMessages limit session) (frame : Frame) (tick : Tick)
    (present : session.client = some client) (role : frameRole limit frame = .further) :
    let outcome := continueFragments session.server client frame tick
    ServesMessages limit ⟨outcome.server, outcome.client⟩ ∧
      (WithinLimit limit session → ContinuationFits session (frame, tick) →
        WithinLimit limit ⟨outcome.server, outcome.client⟩ ∧
          ∀ message ∈ outcome.events.filterMap delivery, message.2.length ≤ limit) := by
  rcases continueFragments_cases session.server client frame tick (serves.buffer client present)
    with ⟨-, refused⟩ | ⟨room, next, continued, valid, -, text⟩
  · dsimp only
    rw [refused]
    refine ⟨serves.next _ _ rfl rfl (serves.buffer client present), fun within _ => ⟨?_, by simp⟩⟩
    exact (withinLimit_some _ _ _).mpr (within client present)
  · dsimp only
    rw [continued]
    have length : next.messageLength = client.messageLength + frame.payload.length := by
      rw [← assembled_length next valid, text, List.length_append,
        assembled_length client (serves.buffer client present)]
    have fits (guarded : ContinuationFits session (frame, tick)) : next.messageLength ≤ limit := by
      have bound := guarded client present (by rw [serves.limited]; exact role) room
      rw [serves.limited] at bound
      rw [length]
      exact bound
    cases final : frame.fin with
    | false =>
        refine ⟨serves.next _ _ rfl rfl valid, fun _ guarded => ⟨?_, by simp⟩⟩
        exact (withinLimit_some _ _ _).mpr (fits guarded)
    | true =>
        refine ⟨serves.next _ _ rfl rfl ⟨valid.capacity, Nat.zero_le _⟩, fun _ guarded => ⟨?_, ?_⟩⟩
        · exact (withinLimit_some _ _ _).mpr (Nat.zero_le _)
        · intro message member
          rw [if_pos rfl, finishFragments_delivery _ _ _ serves.registered,
            List.mem_singleton] at member
          rw [member, assembled_length next valid]
          exact fits guarded

/-- Every frame keeps the buffer valid. It keeps the limit if its message fits. -/
theorem receiveFrame_serves {limit : Nat} {session : Session} (serves : ServesMessages limit session)
    (input : Frame × Tick) :
    ServesMessages limit (receiveFrame session input).1 ∧
      (WithinLimit limit session → ContinuationFits session input →
        WithinLimit limit (receiveFrame session input).1 ∧
          ∀ message ∈ (receiveFrame session input).2.filterMap delivery, message.2.length ≤ limit) := by
  obtain ⟨frame, tick⟩ := input
  cases present : session.client with
  | none =>
      simp only [receiveFrame, present]
      exact ⟨serves, fun within _ => ⟨within, by simp⟩⟩
  | some client =>
      have valid := serves.buffer client present
      have branch := processFrame_role session.server client frame tick
      rw [serves.limited] at branch
      simp only [receiveFrame, present]
      cases role : frameRole limit frame with
      | further =>
          simp only [role] at branch
          rw [branch]
          exact continueFragments_serves serves frame tick present role
      | tooLarge =>
          simp only [role] at branch
          rw [branch]
          exact ⟨serves.gone, fun _ _ => ⟨withinLimit_gone _ _, by simp [removed, delivery]⟩⟩
      | close =>
          simp only [role] at branch
          rw [branch]
          exact ⟨serves.gone, fun _ _ => ⟨withinLimit_gone _ _, by simp [removed, delivery]⟩⟩
      | single =>
          simp only [role] at branch
          rw [branch]
          have fits := frameRole_fits limit frame (by rw [role]; decide)
          refine ⟨serves.next _ _ rfl rfl ⟨valid.capacity, valid.within⟩, fun within _ => ⟨?_, ?_⟩⟩
          · exact (withinLimit_some _ _ _).mpr (within client present)
          · intro message member
            have delivered : (completeMessage session.server client frame tick).events.filterMap
                delivery = [(frame.opcode, frame.payload)] :=
              (deliver_delivery _ _ _ _ _).trans (if_pos serves.registered)
            rw [delivered, List.mem_singleton] at member
            rw [member]
            exact fits
      | first =>
          simp only [role] at branch
          rw [branch]
          have fits := frameRole_fits limit frame (by rw [role]; decide)
          rcases startFragments_cases session.server client frame tick valid
            with ⟨-, next, refused, nextValid, -, length⟩ | ⟨next, started, nextValid, -, text⟩
          · rw [refused]
            refine ⟨serves.next _ _ rfl rfl nextValid, fun within _ => ⟨?_, by simp⟩⟩
            exact (withinLimit_some _ _ _).mpr (length ▸ within client present)
          · rw [started]
            refine ⟨serves.next _ _ rfl rfl nextValid, fun _ _ => ⟨?_, by simp⟩⟩
            rw [withinLimit_some, ← assembled_length next nextValid, text]
            exact fits
      | control =>
          obtain ⟨config, callback, events, next, kept, same⟩ := processFrame_control session.server
            client frame tick (by rw [serves.limited]; exact role)
          rw [kept, events]
          refine ⟨serves.next _ _ config callback (same.messageBuffer valid), fun within _ => ⟨?_, by simp⟩⟩
          exact (withinLimit_some _ _ _).mpr (same.length ▸ within client present)

/-- A continuation frame that does not fit shows up in the client or in a delivery at once. -/
theorem receiveFrame_exceeds {limit : Nat} {session : Session} (serves : ServesMessages limit session)
    (input : Frame × Tick) (unfit : ¬ ContinuationFits session input) :
    ¬ WithinLimit limit (receiveFrame session input).1 ∨
      ∃ message ∈ (receiveFrame session input).2.filterMap delivery, limit < message.2.length := by
  obtain ⟨frame, tick⟩ := input
  simp only [ContinuationFits, serves.limited, not_forall] at unfit
  obtain ⟨client, present, role, room, large⟩ := unfit
  have branch := processFrame_role session.server client frame tick
  rw [serves.limited] at branch
  simp only [role] at branch
  simp only [receiveFrame, present, branch]
  rcases continueFragments_cases session.server client frame tick (serves.buffer client present)
    with ⟨full, -⟩ | ⟨-, next, continued, valid, -, text⟩
  · exact absurd room full
  · have length : (assembled next).length = client.messageLength + frame.payload.length := by
      rw [text, List.length_append, assembled_length client (serves.buffer client present)]
    rw [continued]
    cases final : frame.fin with
    | false =>
        left
        rw [if_neg Bool.false_ne_true, withinLimit_some, ← assembled_length next valid, length]
        exact large
    | true =>
        right
        rw [if_pos rfl, finishFragments_delivery _ _ _ serves.registered]
        refine ⟨_, List.mem_singleton_self _, ?_⟩
        dsimp only
        omega

/-- No client and no delivery of the run exceeds the limit, and every message fits its buffer. -/
def SizeBounded (limit : Nat) (session : Session) (inputs : List (Frame × Tick)) : Prop :=
  (∀ visited ∈ frameMachine.states session inputs, ∀ client, visited.client = some client →
    client.messageLength ≤ limit ∧ client.messageLength ≤ client.messageCapacity) ∧
  ∀ message ∈ (frameMachine.run session inputs).2.filterMap delivery, message.2.length ≤ limit

/-- A bounded run sees only continuation frames that fit. -/
theorem SizeBounded.fits {limit : Nat} {session : Session} {inputs : List (Frame × Tick)}
    (serves : ServesMessages limit session) (bounded : SizeBounded limit session inputs) :
    frameMachine.Along ContinuationFits session inputs := by
  induction inputs generalizing session with
  | nil => trivial
  | cons input rest ih =>
      obtain ⟨visited, delivered⟩ := bounded
      rw [Machine.states_cons] at visited
      rw [Machine.run_cons, List.filterMap_append] at delivered
      refine ⟨?_, ih (receiveFrame_serves serves input).1 ⟨?_, ?_⟩⟩
      · by_contra unfit
        rcases receiveFrame_exceeds serves input unfit with outside | ⟨message, member, large⟩
        · apply outside
          intro client present
          apply (visited (receiveFrame session input).1 _ client present).1
          cases rest <;> simp [Machine.states, frameMachine]
        · exact absurd (delivered message (List.mem_append_left _ member)) (by omega)
      · exact fun state member => visited state (List.mem_cons_of_mem _ member)
      · exact fun message member => delivered message (List.mem_append_right _ member)

/-- A run from an open client stays within the limit exactly when each continuation frame does. -/
theorem sizeBounded_iff (server : WebsocketServer) (clientId now : Nat)
    (inputs : List (Frame × Tick)) (registered : server.onMessage = true) :
    SizeBounded server.config.maxMessageSize.toNat ⟨server, some (openClient clientId now)⟩ inputs ↔
      frameMachine.Along ContinuationFits ⟨server, some (openClient clientId now)⟩ inputs := by
  have serves := servesMessages_open server clientId now registered
  have within : WithinLimit server.config.maxMessageSize.toNat
      ⟨server, some (openClient clientId now)⟩ := (withinLimit_some _ _ _).mpr (Nat.zero_le _)
  constructor
  · exact SizeBounded.fits serves
  · intro fits
    have step (session : Session) (input : Frame × Tick)
        (good : ServesMessages server.config.maxMessageSize.toNat session ∧
          WithinLimit server.config.maxMessageSize.toNat session)
        (fit : ContinuationFits session input) :=
      (receiveFrame_serves good.1 input).2 good.2 fit
    have keeps (session : Session) (input : Frame × Tick)
        (good : ServesMessages server.config.maxMessageSize.toNat session ∧
          WithinLimit server.config.maxMessageSize.toNat session)
        (fit : ContinuationFits session input) :=
      And.intro (receiveFrame_serves good.1 input).1 (step session input good fit).1
    constructor
    · intro visited member client present
      obtain ⟨good, bounded⟩ := frameMachine.states_invariant ContinuationFits _ keeps _ inputs
        ⟨serves, within⟩ fits visited member
      exact ⟨bounded client present, (good.buffer client present).within⟩
    · intro message member
      obtain ⟨event, listed, shown⟩ := List.mem_filterMap.mp member
      apply frameMachine.run_outputs ContinuationFits _
        (fun event => ∀ message, delivery event = some message →
          message.2.length ≤ server.config.maxMessageSize.toNat) keeps ?_ _ inputs
        ⟨serves, within⟩ fits event listed message shown
      intro session input good fit output emitted other same
      exact (step session input good fit).2 other (List.mem_filterMap.mpr ⟨output, emitted, same⟩)

/-- A first fragment of two bytes and a final one of one byte. -/
def twoFragments : List (Frame × Tick) :=
  [(⟨false, wsOpcodeText, [0x61, 0x62]⟩, ⟨0, true⟩), (⟨true, wsOpcodeContinuation, [0x63]⟩, ⟨0, true⟩)]

/-- Two fragments of at most two bytes make a message of three bytes under a limit of two. -/
theorem sizeBounded_fragments_fail :
    ¬ SizeBounded 2 ⟨sampleServer 2, some (openClient 1 0)⟩ twoFragments := by
  rintro ⟨-, delivered⟩
  have large := delivered (wsOpcodeText, [0x61, 0x62, 0x63]) (by decide +kernel)
  exact absurd large (by decide)

/-- The same fragments stay within a limit of three. -/
theorem sizeBounded_fragments :
    SizeBounded 3 ⟨sampleServer 3, some (openClient 1 0)⟩ twoFragments := by
  apply (sizeBounded_iff (sampleServer 3) 1 0 twoFragments rfl).mpr
  refine ⟨?_, ?_, trivial⟩
  · intro client _ role
    exact absurd role (by decide)
  · intro client present _ _
    obtain rfl := Option.some.inj present
    decide +kernel

/-- The abstract receiver holds at most one unfinished message. -/
structure Reassembly where
  connected : Bool
  inProgress : Option (UInt8 × List UInt8)
  deriving DecidableEq, Repr

/-- The receiver of a client whose handshake is done. -/
def Reassembly.idle : Reassembly := ⟨true, none⟩

/-- The client has the text, or a part of it was lost for want of memory. -/
def Holds (client : WebsocketClient) (text : List UInt8) : Prop :=
  assembled client = text ∨ (assembled client).length < text.length

/-- The client holds the unfinished message of the abstract receiver. -/
structure Reassembles (limit : Nat) (session : Session) (state : Reassembly) : Prop where
  serves : ServesMessages limit session
  connected : session.client.isSome = state.connected
  progress : ∀ client opcode text, session.client = some client →
    state.inProgress = some (opcode, text) → client.opcode = opcode ∧ Holds client text

section Steps

variable {limit : Nat} {session : Session} {message : Option (UInt8 × List UInt8)}
  {client : WebsocketClient}

/-- The relation survives when the client is replaced by one that holds the same message. -/
theorem Reassembles.replace {next : WebsocketClient} {server : WebsocketServer}
    (related : Reassembles limit session ⟨true, message⟩)
    (present : session.client = some client) (sameConfig : server.config = session.server.config)
    (sameCallback : server.onMessage = session.server.onMessage) (same : SameMessage client next) :
    Reassembles limit ⟨server, some next⟩ ⟨true, message⟩ where
  serves := related.serves.next server next sameConfig sameCallback
    (same.messageBuffer (related.serves.buffer client present))
  connected := rfl
  progress := by
    intro other opcode text equal started
    obtain rfl := Option.some.inj equal
    obtain ⟨sameOpcode, sameText⟩ := related.progress client opcode text present started
    refine ⟨same.opcode.trans sameOpcode, ?_⟩
    rw [Holds, assembled, same.buffer, same.length]
    exact sameText

/-- Without a message in progress nothing is expected of the buffer. -/
theorem Reassembles.rest (related : Reassembles limit session ⟨true, message⟩)
    (server : WebsocketServer) (next : WebsocketClient)
    (sameConfig : server.config = session.server.config)
    (sameCallback : server.onMessage = session.server.onMessage) (valid : MessageBuffer next) :
    Reassembles limit ⟨server, some next⟩ ⟨true, none⟩ where
  serves := related.serves.next server next sameConfig sameCallback valid
  connected := rfl
  progress := by
    intro other opcode text equal started
    cases started

theorem Reassembles.drop (related : Reassembles limit session ⟨true, message⟩) :
    Reassembles limit ⟨session.server, none⟩ ⟨false, message⟩ where
  serves := related.serves.gone
  connected := rfl
  progress := by
    intro client opcode text absent
    cases absent

/-- An accepted fragment is appended to what the client has. -/
theorem Holds.append {next : WebsocketClient} {text payload : List UInt8} (holds : Holds client text)
    (appended : assembled next = assembled client ++ payload) : Holds next (text ++ payload) := by
  rcases holds with same | lost
  · left
    rw [appended, same]
  · right
    rw [appended, List.length_append, List.length_append]
    omega

end Steps

end SecureChat.WebSocket
