import SecureChat.Proof.WebSocket.FrameStream
import SecureChat.Proof.WebSocket.MessageBuffer

namespace SecureChat.WebSocket
open Library

/-- The chunks of a stream in which every frame arrives in a chunk of its own. -/
def frameChunks (stream : List UInt8) : List (List UInt8) :=
  (frameStream.drain stream).1 ++
    if (frameStream.drain stream).2 = [] then [] else [(frameStream.drain stream).2]

/-- The calls of the message callback while the worker reads the chunks.
The clock may jump between the reads, and `realloc` gives the same answer in all of them. -/
def chunkDeliveries (session : Session) (clock : Nat → Nat) (memory : Bool)
    (chunks : List (List UInt8)) : List (UInt8 × List UInt8) :=
  (workerMachine.run session
    (chunks.mapIdx fun index chunk => (.data chunk, ⟨clock index, memory⟩))).2.filterMap delivery

/-- The worker delivers what it delivers when every frame has a chunk of its own. -/
def SegmentationIndependent (session : Session) (memory : Bool) (chunks : List (List UInt8)) : Prop :=
  ∀ clock other, chunkDeliveries session clock memory chunks =
    chunkDeliveries session other memory (frameChunks chunks.flatten)

/-- The worker serves a client only while it is open. -/
def Session.IsOpen (session : Session) : Prop :=
  ∃ client, session.client = some client ∧ client.state = .open

/-- Behind its first frame the chunk holds control frames only.
No frame is cut at its end, unless the stream ends there. -/
def ServedWhole (limit : Nat) (chunk : List UInt8) (last : Prop) : Prop :=
  (∀ frame ∈ (frameStream.drain chunk).1.tail, frameRole limit (decodeFrame frame) = .control) ∧
    ((frameStream.drain chunk).2 = [] ∨ last)

/-- Each chunk that reaches the open client is served as a whole. -/
def ServedChunks (memory : Bool) : Session → (Nat → Nat) → List (List UInt8) → Prop
  | _, _, [] => True
  | session, clock, chunk :: rest =>
      session.IsOpen →
        ServedWhole session.server.config.maxMessageSize.toNat chunk (rest = []) ∧
          ServedChunks memory (workerRead session (.data chunk, ⟨clock 0, memory⟩)).1
            (fun index => clock (index + 1)) rest

theorem chunkDeliveries_cons (session : Session) (clock : Nat → Nat) (memory : Bool)
    (chunk : List UInt8) (rest : List (List UInt8)) :
    chunkDeliveries session clock memory (chunk :: rest) =
      (workerRead session (.data chunk, ⟨clock 0, memory⟩)).2.filterMap delivery ++
        chunkDeliveries (workerRead session (.data chunk, ⟨clock 0, memory⟩)).1
          (fun index => clock (index + 1)) memory rest := by
  unfold chunkDeliveries
  rw [List.mapIdx_cons, Machine.run_cons, List.filterMap_append]
  rfl

/-- A client that is not open is never read. -/
theorem workerRead_idle (session : Session) (input : RecvResult × Tick) (idle : ¬ session.IsOpen) :
    workerRead session input = (session, []) := by
  unfold workerRead
  cases present : session.client with
  | none => rfl
  | some client =>
      have other : client.state ≠ .open := fun isOpen => idle ⟨client, present, isOpen⟩
      dsimp only
      rw [if_pos other]

theorem chunkDeliveries_idle (session : Session) (clock : Nat → Nat) (memory : Bool)
    (chunks : List (List UInt8)) (idle : ¬ session.IsOpen) :
    chunkDeliveries session clock memory chunks = [] := by
  induction chunks generalizing clock with
  | nil => rfl
  | cons chunk rest ih =>
      rw [chunkDeliveries_cons, workerRead_idle session _ idle, ih]
      rfl

/-- Two slots hold the same message, or no client at all. -/
inductive SameClient : Option WebsocketClient → Option WebsocketClient → Prop where
  | gone : SameClient none none
  | present {client other : WebsocketClient} (same : SameMessage client other) :
      SameClient (some client) (some other)

theorem SameClient.some_or_none {client other : Option WebsocketClient} (same : SameClient client other) :
    (client = none ∧ other = none) ∨
      ∃ held copy, client = some held ∧ other = some copy ∧ SameMessage held copy := by
  cases same with
  | gone => exact .inl ⟨rfl, rfl⟩
  | present held => exact .inr ⟨_, _, rfl, rfl, held⟩

/-- Two sessions serve the same message under the same limit. -/
structure SameService (session other : Session) : Prop where
  config : other.server.config = session.server.config
  callback : other.server.onMessage = session.server.onMessage
  client : SameClient session.client other.client

theorem SameMessage.refl (client : WebsocketClient) : SameMessage client client :=
  ⟨rfl, rfl, rfl, rfl, rfl⟩

theorem SameService.refl (session : Session) : SameService session session := by
  apply SameService.mk rfl rfl
  cases session.client with
  | none => exact .gone
  | some client => exact .present (.refl client)

theorem SameService.isOpen {session other : Session} (same : SameService session other) :
    session.IsOpen ↔ other.IsOpen := by
  obtain ⟨server, client⟩ := session
  obtain ⟨mirror, copy⟩ := other
  cases same.client with
  | gone => simp [Session.IsOpen]
  | present held => simp [Session.IsOpen, held.state]

theorem reserve_same (client other : WebsocketClient) (same : SameMessage client other) (size : Nat)
    (tick later : Tick) (memory : later.reallocOk = tick.reallocOk) :
    SameClient (reserve client size tick) (reserve other size later) := by
  unfold reserve
  rw [same.capacity, same.buffer, memory]
  split
  · split
    · exact .present ⟨same.state, same.opcode, rfl, same.length, rfl⟩
    · exact .gone
  · exact .present same

/-- Two outcomes leave the same service and make the same calls of the message callback. -/
structure SameOutcome (outcome other : Outcome) : Prop where
  service : SameService ⟨outcome.server, outcome.client⟩ ⟨other.server, other.client⟩
  deliveries : outcome.events.filterMap delivery = other.events.filterMap delivery

section Outcomes

variable {server mirror : WebsocketServer} {client other : WebsocketClient}
  (config : mirror.config = server.config) (callback : mirror.onMessage = server.onMessage)
include config callback

theorem removed_same (result : Int) (statusCode : Nat) (reason : List UInt8) :
    SameOutcome (removed server result statusCode reason) (removed mirror result statusCode reason) :=
  ⟨⟨config, callback, .gone⟩, rfl⟩

variable (same : SameMessage client other)
include same

theorem completeMessage_same (frame : Frame) (tick later : Tick) :
    SameOutcome (completeMessage server client frame tick) (completeMessage mirror other frame later) where
  service := ⟨config, callback,
    .present ⟨same.state, same.opcode, same.buffer, same.length, same.capacity⟩⟩
  deliveries := by
    unfold completeMessage
    rw [deliver_delivery, deliver_delivery, callback]

theorem finishFragments_same (tick later : Tick) :
    SameOutcome (finishFragments server client tick) (finishFragments mirror other later) where
  service := ⟨config, callback, .present ⟨same.state, same.opcode, same.buffer, rfl, same.capacity⟩⟩
  deliveries := by
    unfold finishFragments
    rw [deliver_delivery, deliver_delivery, callback, same.opcode, same.buffer, same.length]

variable (frame : Frame) (tick later : Tick) (memory : later.reallocOk = tick.reallocOk)
include memory

theorem startFragments_same :
    SameOutcome (startFragments server client frame tick) (startFragments mirror other frame later) := by
  have started := reserve_same
    { client with opcode := frame.opcode, messageComplete := false, fragmentSize := 0 }
    { other with opcode := frame.opcode, messageComplete := false, fragmentSize := 0 }
    ⟨same.state, rfl, same.buffer, same.length, same.capacity⟩ frame.payload.length tick later memory
  unfold startFragments
  dsimp only
  rcases started.some_or_none with ⟨first, second⟩ | ⟨ready, copy, first, second, held⟩
  · rw [first, second]
    exact ⟨⟨config, callback, .present ⟨same.state, rfl, same.buffer, same.length, same.capacity⟩⟩, rfl⟩
  · rw [first, second]
    have buffer : memcpy copy.messageBuffer 0 frame.payload = memcpy ready.messageBuffer 0 frame.payload :=
      congrArg (memcpy · 0 frame.payload) held.buffer
    exact ⟨⟨config, callback, .present ⟨held.state, held.opcode, buffer, rfl, held.capacity⟩⟩, rfl⟩

theorem continueFragments_same :
    SameOutcome (continueFragments server client frame tick)
      (continueFragments mirror other frame later) := by
  have reserved := reserve_same client other same (client.messageLength + frame.payload.length) tick
    later memory
  unfold continueFragments
  rw [same.length]
  rcases reserved.some_or_none with ⟨first, second⟩ | ⟨ready, copy, first, second, held⟩
  · rw [first, second]
    exact ⟨⟨config, callback, .present same⟩, rfl⟩
  · rw [first, second]
    dsimp only
    have appended : SameMessage
        { ready with
          messageBuffer := memcpy ready.messageBuffer ready.messageLength frame.payload
          messageLength := ready.messageLength + frame.payload.length
          fragmentSize := ready.fragmentSize + frame.payload.length }
        { copy with
          messageBuffer := memcpy copy.messageBuffer copy.messageLength frame.payload
          messageLength := copy.messageLength + frame.payload.length
          fragmentSize := copy.fragmentSize + frame.payload.length } :=
      ⟨held.state, held.opcode, by simp only [held.buffer, held.length], by simp only [held.length],
        held.capacity⟩
    split
    · exact finishFragments_same config callback appended tick later
    · exact ⟨⟨config, callback, .present appended⟩, rfl⟩

theorem processFrame_same :
    SameOutcome (processFrame server client frame tick) (processFrame mirror other frame later) := by
  have limit : mirror.config.maxMessageSize = server.config.maxMessageSize :=
    congrArg WebsocketConfig.maxMessageSize config
  unfold processFrame dispatchFrame
  rw [limit]
  split
  · exact removed_same config callback _ _ _
  · split
    · split
      · exact completeMessage_same config callback same frame tick later
      · exact startFragments_same config callback same frame tick later memory
    · split
      · exact continueFragments_same config callback same frame tick later memory
      · split
        · exact ⟨⟨config, callback, .present same⟩, rfl⟩
        · split
          · exact ⟨⟨config, callback, .present
              ⟨same.state, same.opcode, same.buffer, same.length, same.capacity⟩⟩, rfl⟩
          · split
            · exact removed_same config callback _ _ _
            · exact ⟨⟨config, callback, .present same⟩, rfl⟩

end Outcomes

/-- No frame changes the configuration. -/
theorem processFrame_config (server : WebsocketServer) (client : WebsocketClient) (frame : Frame)
    (tick : Tick) : (processFrame server client frame tick).server.config = server.config := by
  unfold processFrame dispatchFrame
  split
  · rfl
  · split
    · split
      · rfl
      · unfold startFragments
        dsimp only
        split <;> rfl
    · split
      · unfold continueFragments
        split
        · rfl
        · dsimp only
          split <;> rfl
      · split
        · rfl
        · split
          · rfl
          · split <;> rfl

/-- The effect of a chunk on an open client, up to the bytes that are counted. -/
theorem workerRead_open (session : Session) (client : WebsocketClient) (chunk : List UInt8)
    (tick : Tick) (present : session.client = some client) (isOpen : client.state = .open) :
    (workerRead session (.data chunk, tick)).2 =
        (processWebsocketFrame session.server { client with lastActivity := tick.now } chunk tick).events ∧
      (workerRead session (.data chunk, tick)).1 = countBytes
        (processWebsocketFrame session.server { client with lastActivity := tick.now } chunk tick)
        chunk.length := by
  unfold workerRead
  rw [present]
  dsimp only
  rw [if_neg (fun other => other isOpen)]
  exact ⟨rfl, rfl⟩

/-- Counting bytes is no part of the service. -/
theorem SameOutcome.countBytes {outcome other : Outcome} (same : SameOutcome outcome other)
    (length size : Nat) :
    SameService (countBytes outcome length) (WebSocket.countBytes other size) where
  config := same.service.config
  callback := same.service.callback
  client := by
    have client : SameClient outcome.client other.client := same.service.client
    unfold WebSocket.countBytes
    rcases client.some_or_none with ⟨gone, absent⟩ | ⟨held, copy, present, copied, message⟩
    · rw [gone, absent]
      exact .gone
    · rw [present, copied]
      exact .present ⟨message.state, message.opcode, message.buffer, message.length, message.capacity⟩

/-- The same whole frame at the front of two chunks has the same effect. -/
theorem workerRead_frame {session other : Session} (same : SameService session other)
    (chunk mirror frame : List UInt8) (size length : Nat) (tick later : Tick)
    (memory : later.reallocOk = tick.reallocOk) (read : nextFrame chunk = some (frame, size))
    (copied : nextFrame mirror = some (frame, length)) :
    SameService (workerRead session (.data chunk, tick)).1 (workerRead other (.data mirror, later)).1 ∧
      (workerRead session (.data chunk, tick)).2.filterMap delivery =
        (workerRead other (.data mirror, later)).2.filterMap delivery := by
  by_cases isOpen : session.IsOpen
  · obtain ⟨client, present, state⟩ := isOpen
    rcases same.client.some_or_none with ⟨gone, -⟩ | ⟨held, copy, found, mirrored, message⟩
    · rw [present] at gone
      cases gone
    · obtain rfl : client = held := Option.some.inj (present.symm.trans found)
      obtain ⟨events, next⟩ := workerRead_open session client chunk tick present state
      obtain ⟨otherEvents, otherNext⟩ := workerRead_open other copy mirror later mirrored
        (message.state.trans state)
      have active : SameMessage { client with lastActivity := tick.now }
          { copy with lastActivity := later.now } :=
        ⟨message.state, message.opcode, message.buffer, message.length, message.capacity⟩
      have outcome := processFrame_same same.config same.callback active (decodeFrame frame) tick later
        memory
      rw [events, next, otherEvents, otherNext,
        processWebsocketFrame_whole _ _ chunk frame size tick read,
        processWebsocketFrame_whole _ _ mirror frame length later copied]
      exact ⟨outcome.countBytes _ _, outcome.deliveries⟩
  · have closed : ¬ other.IsOpen := fun otherOpen => isOpen (same.isOpen.mpr otherOpen)
    rw [workerRead_idle session _ isOpen, workerRead_idle other _ closed]
    exact ⟨same, rfl⟩

theorem workerRead_config (session : Session) (chunk frame : List UInt8) (size : Nat) (tick : Tick)
    (read : nextFrame chunk = some (frame, size)) :
    (workerRead session (.data chunk, tick)).1.server.config = session.server.config := by
  by_cases isOpen : session.IsOpen
  · obtain ⟨client, present, state⟩ := isOpen
    rw [(workerRead_open session client chunk tick present state).2,
      processWebsocketFrame_whole _ _ chunk frame size tick read]
    exact processFrame_config _ _ _ tick
  · rw [workerRead_idle session _ isOpen]

/-- A control frame leaves the service as it is. -/
theorem workerRead_control {session other : Session} (same : SameService session other)
    (chunk frame : List UInt8) (size : Nat) (tick : Tick)
    (read : nextFrame chunk = some (frame, size))
    (role : frameRole session.server.config.maxMessageSize.toNat (decodeFrame frame) = .control) :
    SameService session (workerRead other (.data chunk, tick)).1 ∧
      (workerRead other (.data chunk, tick)).2.filterMap delivery = [] := by
  by_cases isOpen : other.IsOpen
  · obtain ⟨copy, mirrored, state⟩ := isOpen
    rcases same.client.some_or_none with ⟨-, absent⟩ | ⟨client, held, present, found, message⟩
    · rw [mirrored] at absent
      cases absent
    · obtain rfl : copy = held := Option.some.inj (mirrored.symm.trans found)
      obtain ⟨events, next⟩ := workerRead_open other copy chunk tick mirrored state
      rw [← same.config] at role
      obtain ⟨config, callback, silent, kept, stays, unchanged⟩ := processFrame_control other.server
        { copy with lastActivity := tick.now } (decodeFrame frame) tick role
      rw [events, next, processWebsocketFrame_whole _ _ chunk frame size tick read]
      constructor
      · apply SameService.mk (config.trans same.config) (callback.trans same.callback)
        rw [present, countBytes, stays]
        exact .present ⟨unchanged.state.trans message.state, unchanged.opcode.trans message.opcode,
          unchanged.buffer.trans message.buffer, unchanged.length.trans message.length,
          unchanged.capacity.trans message.capacity⟩
      · exact silent
  · rw [workerRead_idle other _ isOpen]
    exact ⟨same, rfl⟩

theorem workerRead_unfinished (session : Session) (chunk : List UInt8) (tick : Tick)
    (unfinished : nextFrame chunk = none) :
    (workerRead session (.data chunk, tick)).2.filterMap delivery = [] := by
  by_cases isOpen : session.IsOpen
  · obtain ⟨client, present, state⟩ := isOpen
    rw [(workerRead_open session client chunk tick present state).1]
    exact processWebsocketFrame_unfinished _ _ chunk tick unfinished
  · rw [workerRead_idle session _ isOpen]
    rfl

/-- Any number of control frames leaves the service and the deliveries as they are. -/
theorem chunkDeliveries_controls {session other : Session} (same : SameService session other)
    (clock : Nat → Nat) (memory : Bool) (frames more : List (List UInt8))
    (whole : ∀ frame ∈ frames, nextFrame frame = some (frame, frame.length))
    (controls : ∀ frame ∈ frames,
      frameRole session.server.config.maxMessageSize.toNat (decodeFrame frame) = .control) :
    ∃ next later, SameService session next ∧
      chunkDeliveries other clock memory (frames ++ more) = chunkDeliveries next later memory more := by
  induction frames generalizing other clock with
  | nil => exact ⟨other, clock, same, rfl⟩
  | cons frame frames ih =>
      rw [List.forall_mem_cons] at whole controls
      obtain ⟨kept, silent⟩ := workerRead_control same frame frame frame.length ⟨clock 0, memory⟩
        whole.1 controls.1
      obtain ⟨next, later, related, rest⟩ := ih kept (fun index => clock (index + 1)) whole.2 controls.2
      refine ⟨next, later, related, ?_⟩
      rw [List.cons_append, chunkDeliveries_cons, silent, rest]
      rfl

/-- The frames of a chunk that ends with a whole frame come before all later chunks. -/
theorem frameChunks_append (chunk more : List UInt8) (settled : (frameStream.drain chunk).2 = []) :
    frameChunks (chunk ++ more) = (frameStream.drain chunk).1 ++ frameChunks more := by
  unfold frameChunks
  rw [frameStream.drain_append, settled, List.nil_append, List.append_assoc]

/-- Chunks without a whole frame deliver nothing. -/
theorem chunkDeliveries_rest (session : Session) (clock : Nat → Nat) (memory : Bool)
    (rest : List UInt8) (unfinished : nextFrame rest = none) :
    chunkDeliveries session clock memory (if rest = [] then [] else [rest]) = [] := by
  split
  · rfl
  · rw [chunkDeliveries_cons, workerRead_unfinished session rest _ unfinished]
    rfl

/-- An empty chunk leaves the service as it is. -/
theorem workerRead_empty {session other : Session} (same : SameService session other) (tick : Tick) :
    SameService (workerRead session (.data [], tick)).1 other := by
  by_cases isOpen : session.IsOpen
  · obtain ⟨client, present, state⟩ := isOpen
    rw [(workerRead_open session client [] tick present state).2]
    constructor
    · exact same.config
    · exact same.callback
    rcases same.client.some_or_none with ⟨gone, -⟩ | ⟨held, copy, found, mirrored, message⟩
    · rw [present] at gone
      cases gone
    · obtain rfl : client = held := Option.some.inj (present.symm.trans found)
      rw [mirrored]
      exact .present ⟨message.state, message.opcode, message.buffer, message.length, message.capacity⟩
  · rw [workerRead_idle session _ isOpen]
    exact same

/-- The first frame of a chunk does what the chunk does, and the control frames behind it do nothing. -/
theorem chunkDeliveries_chunk {session other : Session} (same : SameService session other)
    (clock mirror : Nat → Nat) (memory : Bool) (chunk frame : List UInt8) (size : Nat)
    (more : List (List UInt8)) (read : nextFrame chunk = some (frame, size))
    (controls : ∀ frame ∈ (frameStream.drain chunk).1.tail,
      frameRole session.server.config.maxMessageSize.toNat (decodeFrame frame) = .control) :
    ∃ next later, SameService (workerRead session (.data chunk, ⟨clock 0, memory⟩)).1 next ∧
      chunkDeliveries other mirror memory ((frameStream.drain chunk).1 ++ more) =
        (workerRead session (.data chunk, ⟨clock 0, memory⟩)).2.filterMap delivery ++
          chunkDeliveries next later memory more := by
  have whole := frameStream.drain_items (fun item => nextFrame item = some (item, item.length))
    nextFrame_frame (chunk.drop size)
  obtain ⟨service, deliveries⟩ := workerRead_frame same chunk frame frame size frame.length
    ⟨clock 0, memory⟩ ⟨mirror 0, memory⟩ rfl read (nextFrame_frame chunk frame size read)
  rw [frameStream.drain_some chunk frame size read] at controls ⊢
  have limit := workerRead_config session chunk frame size ⟨clock 0, memory⟩ read
  obtain ⟨next, later, related, rest⟩ := chunkDeliveries_controls service
    (fun index => mirror (index + 1)) memory (frameStream.drain (chunk.drop size)).1 more whole
    (by rw [limit]; exact controls)
  refine ⟨next, later, related, ?_⟩
  rw [List.cons_append, chunkDeliveries_cons, rest, deliveries]

/-- Every run whose chunks are served as a whole delivers the same messages as frame by frame. -/
theorem chunkDeliveries_served {session other : Session} (same : SameService session other)
    (clock mirror : Nat → Nat) (memory : Bool) (chunks : List (List UInt8))
    (served : ServedChunks memory session clock chunks) :
    chunkDeliveries session clock memory chunks =
      chunkDeliveries other mirror memory (frameChunks chunks.flatten) := by
  induction chunks generalizing session other clock mirror with
  | nil => rfl
  | cons chunk rest ih =>
      by_cases isOpen : session.IsOpen
      · obtain ⟨⟨controls, settled⟩, later⟩ := served isOpen
        rw [List.flatten_cons, chunkDeliveries_cons]
        cases read : nextFrame chunk with
        | none =>
            rw [frameStream.drain_none chunk read] at settled
            rw [workerRead_unfinished session chunk _ read]
            rcases settled with rfl | rfl
            · exact ih (workerRead_empty same _) _ mirror later
            · rw [List.flatten_nil, List.append_nil, frameChunks, frameStream.drain_none chunk read]
              exact (chunkDeliveries_rest other mirror memory chunk read).symm
        | some found =>
            obtain ⟨frame, size⟩ := found
            by_cases ends : (frameStream.drain chunk).2 = []
            · obtain ⟨next, after, related, split⟩ := chunkDeliveries_chunk same clock mirror memory
                chunk frame size (frameChunks rest.flatten) read controls
              rw [frameChunks_append chunk _ ends, split, ih related _ after later]
            · obtain rfl := settled.resolve_left ends
              obtain ⟨next, after, -, split⟩ := chunkDeliveries_chunk same clock mirror memory chunk
                frame size [(frameStream.drain chunk).2] read controls
              have unfinished := chunkDeliveries_rest next after memory _ (frameStream.next_drain chunk)
              rw [if_neg ends] at unfinished
              rw [List.flatten_nil, List.append_nil, frameChunks, if_neg ends, split, unfinished]
              rfl
      · have closed : ¬ other.IsOpen := fun otherOpen => isOpen (same.isOpen.mpr otherOpen)
        rw [chunkDeliveries_idle session clock memory _ isOpen,
          chunkDeliveries_idle other mirror memory _ closed]

/-- Nothing depends on the segmentation of a run whose chunks are served as a whole. -/
theorem segmentationIndependent_of_served (session : Session) (memory : Bool)
    (chunks : List (List UInt8))
    (served : ∀ clock, ServedChunks memory session clock chunks) :
    SegmentationIndependent session memory chunks := by
  intro clock other
  exact chunkDeliveries_served (.refl session) clock other memory chunks (served clock)

/-- A session of an open client with a message callback. -/
def sampleSession : Session := ⟨sampleServer 8192, some (openClient 1 0)⟩

/-- A text frame with a ping behind it, and a second text frame that is cut off by the end. -/
def pingedChunks : List (List UInt8) := [[0x11, 0x02, 0x41, 0x91, 0x00], [0x11, 0x02, 0x42], [0x11]]

theorem segmentationIndependent_pinged :
    (∀ clock, ServedChunks true sampleSession clock pingedChunks) ∧
      SegmentationIndependent sampleSession true pingedChunks := by
  have served : ∀ clock, ServedChunks true sampleSession clock pingedChunks := by
    have single : (frameStream.drain [0x11, 0x02, 0x42]).1.tail = [] := by decide +kernel
    have unfinished : (frameStream.drain [0x11]).1.tail = [] := by decide +kernel
    intro clock _
    apply And.intro
    · exact ⟨by decide +kernel, .inl (by decide +kernel)⟩
    · intro _
      apply And.intro
      · exact ⟨by rw [single]; simp, .inl (by decide +kernel)⟩
      · intro _
        exact ⟨⟨by rw [unfinished]; simp, .inr rfl⟩, trivial⟩
  exact ⟨served, segmentationIndependent_of_served _ _ _ served⟩

/-- Two text frames in one chunk lose the second message. -/
theorem segmentationIndependent_one_chunk_fails :
    ¬ SegmentationIndependent sampleSession true [[0x11, 0x02, 0x41, 0x11, 0x02, 0x42]] := by
  intro independent
  exact absurd (independent (fun _ => 0) (fun _ => 0)) (by decide +kernel)

end SecureChat.WebSocket
