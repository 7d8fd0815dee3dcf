import SecureChat.Construction.Web.MessageQueue
import SecureChat.Proof.Web.ChatClient

namespace SecureChat.Web
open Library Library.JsNumber

namespace Link

variable (link : Link)

theorem online_iff : link.online = true ↔
    link.isConnected = true ∧ ∃ socket, link.ws = some socket ∧ link.sockets[socket]? = some .open := by
  rw [online, Bool.and_eq_true, beq_iff_eq, Option.bind_eq_some_iff]

theorem connect_offline (created : Bool) (offline : link.online = false) :
    (link.connect created).online = false := by
  unfold connect
  split
  · exact offline
  · rename_i lost
    rw [Bool.eq_false_iff, ne_eq, online_iff]
    exact fun connected => lost (.inl connected.1)

/-- A connection without an open socket more is not online either. -/
theorem offline_of (other : Link) (offline : link.online = false)
    (connected : other.isConnected = true → link.isConnected = true)
    (held : ∀ socket, other.ws = some socket → link.ws = some socket)
    (opens : ∀ socket : Nat, other.sockets[socket]? = some .open → link.sockets[socket]? = some .open) :
    other.online = false := by
  rw [Bool.eq_false_iff, ne_eq, online_iff] at offline ⊢
  rintro ⟨connects, socket, holds, ready⟩
  exact offline ⟨connected connects, socket, held socket holds, opens socket ready⟩

theorem close_open (socket other : Nat) (ready : (link.close socket).sockets[other]? = some .open) :
    link.sockets[other]? = some .open := by
  have changed : (link.sockets.modify socket fun state => if state = .closed then .closed else .closing)[other]? =
    some .open := ready
  rw [List.getElem?_modify] at changed
  obtain ⟨old, found, same⟩ := Option.map_eq_some_iff.mp changed
  split at same
  · split at same <;> exact nomatch same
  · rw [found, same]

theorem close_offline (socket : Nat) (offline : link.online = false) : (link.close socket).online = false :=
  link.offline_of _ offline id (fun _ => id) (link.close_open socket)

theorem connectTimeout_offline (offline : link.online = false) : link.connectTimeout.online = false := by
  unfold connectTimeout
  split
  · exact offline
  · split
    · exact link.close_offline _ offline
    · exact offline

theorem handleClose_offline (socket : Nat) : (link.handleClose socket).online = false := rfl

theorem disconnect_offline : link.disconnect.online = false := by
  unfold disconnect
  split <;> rfl

end Link

namespace ChatState

section Sending

variable {Number Text : Type} (platform : ChatPlatform Number Text) (state : ChatState)

/-- Without a body there is nothing to encrypt. -/
theorem serializeBody_falsy (data : JsonValue Number Text) (options : Options)
    (empty : ChatClient.truthy platform.toPlatform data = false) :
    serializeBody platform data options = some none := by
  rw [serializeBody, empty]
  rfl

/-- A body that is serialised is one, whatever the encryption makes of it. -/
theorem serializeBody_truthy (data : JsonValue Number Text) (options : Options)
    (full : ChatClient.truthy platform.toPlatform data = true) :
    serializeBody platform data options ≠ some none := by
  rw [serializeBody, if_pos full]
  dsimp only
  rw [ne_eq, Option.map_eq_some_iff]
  rintro ⟨text, -, same⟩
  exact nomatch same

/-- The header of a message without a body. -/
def emptyHeader (type : Int) (options : Options) (stamp : Stamp) : MessageHeader :=
  bareHeader type options.flags options.correlationId stamp.messageId stamp.timestamp
    (ProtocolCodec.calculateChecksum (ProtocolCodec.headerBytes
      (bareHeader type options.flags options.correlationId stamp.messageId stamp.timestamp 0)))

/-- With a body the checksum is asked for a typed array, without one the header is all. -/
theorem serializeMessage_eq (type : Int) (options : Options) (bodyData : Option (List UInt8)) (stamp : Stamp) :
    serializeMessage type options bodyData stamp =
      if bodyData = none then
        some (emptyHeader type options stamp, ProtocolCodec.headerBytes (emptyHeader type options stamp))
      else none := by
  cases bodyData with
  | none =>
      rw [if_pos rfl, serializeMessage]
      dsimp only
      rw [ProtocolCodec.serializeHeader_eq, Option.bind_eq_bind, Option.bind_some, checksumOf,
        Option.bind_eq_bind, Option.bind_some, ProtocolCodec.serializeHeader_eq]
      rfl
  | some bytes =>
      rw [if_neg (Option.some_ne_none bytes), serializeMessage]
      dsimp only
      rw [ProtocolCodec.serializeHeader_eq]
      rfl

/-- The encryption makes no difference to the bytes, because there are none with a body. -/
theorem serializeMessage_bytes (type : Int) (data : JsonValue Number Text) (options : Options) (stamp : Stamp) :
    ((serializeBody platform data options).bind fun bodyData =>
      (serializeMessage type options bodyData stamp).map Prod.snd) =
      ChatClient.sendMessage platform.toPlatform type options.flags options.correlationId data stamp.messageId
        stamp.timestamp := by
  cases value : ChatClient.truthy platform.toPlatform data with
  | false =>
      rw [sendMessage_falsy _ _ _ _ _ _ _ value, serializeBody_falsy platform data options value,
        Option.bind_some, serializeMessage_eq, if_pos rfl]
      rfl
  | true =>
      rw [sendMessage_truthy _ _ _ _ _ _ _ value]
      cases written : serializeBody platform data options with
      | none => rfl
      | some bodyData =>
          have body : bodyData ≠ none := fun none =>
            serializeBody_truthy platform data options value (none ▸ written)
          rw [Option.bind_some, serializeMessage_eq, if_neg body]
          rfl

/-- A call with a body is rejected, and nothing else happens. -/
theorem sendMessage_rejects (request : Request Number Text) (call : Nat) (stamp : Stamp)
    (full : ChatClient.truthy platform.toPlatform request.data = true) :
    state.sendMessage platform request call stamp = state.reject call := by
  rw [sendMessage]
  cases written : serializeBody platform request.data request.options with
  | none => rfl
  | some bodyData =>
      have body : bodyData ≠ none := fun none =>
        serializeBody_truthy platform request.data request.options full (none ▸ written)
      dsimp only
      rw [serializeMessage_eq, if_neg body]

/-- A call without a body is sent on an open connection, and otherwise it waits and is rejected. -/
theorem sendMessage_empty (request : Request Number Text) (call : Nat) (stamp : Stamp)
    (empty : ChatClient.truthy platform.toPlatform request.data = false) :
    state.sendMessage platform request call stamp =
      if state.online then
        { state with transmitted := state.transmitted ++ [⟨call, emptyHeader request.type request.options stamp,
            none, ProtocolCodec.headerBytes (emptyHeader request.type request.options stamp)⟩] }
      else
        reject { state with messageQueue := state.messageQueue ++
          [⟨emptyHeader request.type request.options stamp, none, call, request.options⟩] } call := by
  rw [sendMessage, serializeBody_falsy platform request.data request.options empty]
  dsimp only
  rw [serializeMessage_eq, if_pos rfl]

/-- A call without a connection. -/
theorem sendMessage_offline (request : Request Number Text) (call : Nat) (stamp : Stamp)
    (offline : state.online = false) : ∃ waiting, state.sendMessage platform request call stamp =
      reject { state with messageQueue := state.messageQueue ++ waiting } call ∧
      (waiting = [] ↔ ChatClient.truthy platform.toPlatform request.data = true) ∧
      (waiting.map (·.call)).Sublist [call] ∧ ∀ queued ∈ waiting, queued.bodyData = none := by
  cases value : ChatClient.truthy platform.toPlatform request.data with
  | true =>
      refine ⟨[], ?_, iff_of_true rfl rfl, List.nil_sublist _, List.forall_mem_nil _⟩
      rw [sendMessage_rejects platform state request call stamp value, List.append_nil]
  | false =>
      refine ⟨[⟨emptyHeader request.type request.options stamp, none, call, request.options⟩], ?_,
        iff_of_false (List.cons_ne_nil _ _) Bool.false_ne_true, .refl _, fun queued member => ?_⟩
      · rw [sendMessage_empty platform state request call stamp value, offline]
        rfl
      · obtain rfl := List.mem_singleton.mp member
        rfl

end Sending

/-- A client that has lost its connection. Every message that waits is rejected already, and it has no body. -/
structure Lost (state : ChatState) : Prop where
  offline : state.online = false
  inOrder : (state.messageQueue.map (·.call)).Pairwise (· < ·)
  past : ∀ call ∈ state.messageQueue.map (·.call), call < state.calls
  rejected : ∀ queued ∈ state.messageQueue, queued.call ∈ state.rejected
  bare : ∀ queued ∈ state.messageQueue, queued.bodyData = none
  unsent : state.transmitted = []

section Runs

variable {Number Text : Type} (platform : ChatPlatform Number Text) (state : ChatState)

theorem call_lost (request : Request Number Text) (stamp : Stamp) (lost : state.Lost) :
    (state.call platform request stamp).Lost ∧ ((state.call platform request stamp).messageQueue = [] ↔
      state.messageQueue = [] ∧ ChatClient.truthy platform.toPlatform request.data = true) := by
  obtain ⟨waiting, called, empty, one, bare⟩ := sendMessage_offline platform
    { state with calls := state.calls + 1 } request state.calls stamp lost.offline
  have here : ∀ call ∈ waiting.map (·.call), call = state.calls :=
    fun call member => List.mem_singleton.mp (one.subset member)
  rw [call, called]
  refine ⟨⟨lost.offline, ?_, ?_, ?_, ?_, lost.unsent⟩, ?_⟩
  · show ((state.messageQueue ++ waiting).map (·.call)).Pairwise (· < ·)
    rw [List.map_append, List.pairwise_append]
    exact ⟨lost.inOrder, (List.pairwise_singleton _ _).sublist one,
      fun old member new inside => here new inside ▸ lost.past old member⟩
  · show ∀ call ∈ (state.messageQueue ++ waiting).map (·.call), call < state.calls + 1
    rw [List.map_append, List.forall_mem_append]
    exact ⟨fun call member => Nat.lt_succ_of_lt (lost.past call member),
      fun call member => here call member ▸ Nat.lt_succ_self _⟩
  · show ∀ queued ∈ state.messageQueue ++ waiting, queued.call ∈ state.rejected ++ [state.calls]
    rw [List.forall_mem_append]
    refine ⟨fun queued member => List.mem_append_left _ (lost.rejected queued member), fun queued member => ?_⟩
    rw [here queued.call (List.mem_map_of_mem member)]
    exact List.mem_append_right _ List.mem_cons_self
  · show ∀ queued ∈ state.messageQueue ++ waiting, queued.bodyData = none
    exact List.forall_mem_append.mpr ⟨lost.bare, bare⟩
  · show state.messageQueue ++ waiting = [] ↔ _
    rw [List.append_eq_nil_iff, empty]

/-- Nothing that happens without an open event sends a waiting message or takes it away. -/
theorem step_lost (event : LinkEvent Number Text) (lost : state.Lost) :
    (state.step platform event).Lost ∧ ((state.step platform event).messageQueue = [] ↔
      state.messageQueue = [] ∧ ∀ request stamp, event = .sendMessage request stamp →
        ChatClient.truthy platform.toPlatform request.data = true) := by
  have kept : ∀ link : Link, link.online = false → ({ state with toLink := link } : ChatState).Lost :=
    fun link offline => ⟨offline, lost.inOrder, lost.past, lost.rejected, lost.bare, lost.unsent⟩
  have silent : (∀ request stamp, event ≠ .sendMessage request stamp) → (state.messageQueue = [] ↔
      state.messageQueue = [] ∧ ∀ request stamp, event = .sendMessage request stamp →
        ChatClient.truthy platform.toPlatform request.data = true) :=
    fun other => (and_iff_left fun request stamp same => absurd same (other request stamp)).symm
  cases event with
  | sendMessage request stamp =>
      obtain ⟨called, empty⟩ := state.call_lost platform request stamp lost
      refine ⟨called, empty.trans (and_congr_right fun _ => ⟨fun full other _ same => ?_, fun all => ?_⟩)⟩
      · obtain ⟨rfl, -⟩ := LinkEvent.sendMessage.inj same
        exact full
      · exact all request stamp rfl
  | connect created => exact ⟨kept _ (state.connect_offline created lost.offline), silent (fun _ _ => nofun)⟩
  | connectTimeout => exact ⟨kept _ (state.connectTimeout_offline lost.offline), silent (fun _ _ => nofun)⟩
  | closing socket => exact ⟨kept _ (state.close_offline socket lost.offline), silent (fun _ _ => nofun)⟩
  | closed socket => exact ⟨kept _ (state.handleClose_offline socket), silent (fun _ _ => nofun)⟩
  | disconnect => exact ⟨kept _ state.disconnect_offline, silent (fun _ _ => nofun)⟩

/-- No message waits exactly if all calls without a connection had a body. -/
theorem run_lost (events : List (LinkEvent Number Text)) (lost : state.Lost) :
    (state.run platform events).Lost ∧ ((state.run platform events).messageQueue = [] ↔
      state.messageQueue = [] ∧ ∀ request stamp, LinkEvent.sendMessage request stamp ∈ events →
        ChatClient.truthy platform.toPlatform request.data = true) := by
  induction events generalizing state with
  | nil => exact ⟨lost, (and_iff_left fun request stamp member => nomatch member).symm⟩
  | cons event rest ih =>
      obtain ⟨next, here⟩ := state.step_lost platform event lost
      obtain ⟨last, later⟩ := ih _ next
      refine ⟨last, later.trans ?_⟩
      rw [here, and_assoc]
      refine and_congr_right fun _ => ⟨?_, fun all => ⟨?_, ?_⟩⟩
      · rintro ⟨first, others⟩ request stamp member
        rcases List.mem_cons.mp member with same | after
        · exact first request stamp same.symm
        · exact others request stamp after
      · exact fun request stamp same => all request stamp (same ▸ List.mem_cons_self)
      · exact fun request stamp member => all request stamp (List.mem_cons_of_mem _ member)

/-- A waiting message as it is sent again. -/
def resent (stamp : Nat → Stamp) (queued : QueuedMessage) : SentMessage where
  call := queued.call
  header := emptyHeader queued.header.type queued.options (stamp queued.call)
  bodyData := none
  frame := ProtocolCodec.headerBytes (emptyHeader queued.header.type queued.options (stamp queued.call))

/-- On an open connection the loop over the waiting messages ends, and it sends each of them once. -/
theorem processMessageQueue_eq (stamp : Nat → Stamp) (fuel : Nat) (online : state.online = true)
    (bare : ∀ queued ∈ state.messageQueue, queued.bodyData = none) :
    state.processMessageQueue platform stamp fuel =
      if state.messageQueue.length < fuel then
        some { state with
          messageQueue := []
          transmitted := state.transmitted ++ state.messageQueue.map (resent stamp) }
      else none := by
  induction fuel generalizing state with
  | zero => exact (if_neg (Nat.not_lt_zero _)).symm
  | succ fuel ih =>
      rw [processMessageQueue]
      cases waiting : state.messageQueue with
      | nil =>
          have same : { state with messageQueue := [], transmitted := state.transmitted } = state := by
            rw [← waiting]
          rw [List.length_nil, if_pos (Nat.succ_pos fuel), List.map_nil, List.append_nil, same]
      | cons queued rest =>
          rw [waiting, List.forall_mem_cons] at bare
          obtain ⟨first, others⟩ := bare
          have sent : ({ state with messageQueue := rest } : ChatState).sendMessage platform
              ⟨queued.header.type, .null, queued.options⟩ queued.call (stamp queued.call) =
              { state with
                messageQueue := rest
                transmitted := state.transmitted ++ [resent stamp queued] } := by
            rw [sendMessage_empty platform _ _ _ _ rfl]
            exact if_pos online
          have data : queuedData platform queued = some .null := by rw [queuedData, first]
          dsimp only
          rw [data]
          dsimp only
          rw [sent, ih { state with messageQueue := rest, transmitted := _ } online others, List.length_cons,
            List.map_cons, List.append_assoc]
          exact if_congr Nat.succ_lt_succ_iff.symm rfl rfl

/-- On any other connection the waiting messages wait again, and the loop does not end. -/
theorem processMessageQueue_endless (stamp : Nat → Stamp) (fuel : Nat) (offline : state.online = false)
    (waits : state.messageQueue ≠ []) (bare : ∀ queued ∈ state.messageQueue, queued.bodyData = none) :
    state.processMessageQueue platform stamp fuel = none := by
  induction fuel generalizing state with
  | zero => rfl
  | succ fuel ih =>
      rw [processMessageQueue]
      cases waiting : state.messageQueue with
      | nil => exact absurd waiting waits
      | cons queued rest =>
          rw [waiting, List.forall_mem_cons] at bare
          have data : queuedData platform queued = some .null := by rw [queuedData, bare.1]
          dsimp only
          rw [data]
          dsimp only
          rw [sendMessage_empty platform _ _ _ _ rfl]
          refine (congrArg _ (if_neg (ne_true_of_eq_false offline))).trans (ih _ offline ?_ ?_)
          · exact List.append_ne_nil_of_right_ne_nil _ (List.cons_ne_nil _ _)
          · exact List.forall_mem_append.mpr ⟨bare.2, List.forall_mem_singleton.mpr rfl⟩

/-- The open event of the socket that the client holds greets in vain and sends all waiting messages. -/
theorem handleOpen_eq (socket : Nat) (stamp : Nat → Stamp) (fuel : Nat) (held : state.ws = some socket)
    (connecting : state.sockets[socket]? = some .connecting)
    (bare : ∀ queued ∈ state.messageQueue, queued.bodyData = none) :
    state.handleOpen platform socket stamp fuel =
      if state.messageQueue.length < fuel then
        some { state with
          sockets := state.sockets.set socket .open
          isConnected := true
          messageQueue := []
          calls := state.calls + 1
          transmitted := state.transmitted ++ state.messageQueue.map (resent stamp)
          rejected := state.rejected ++ [state.calls] }
      else none := by
  have inside : socket < state.sockets.length := (List.getElem?_eq_some_iff.mp connecting).1
  have online : ({ state.toLink with
      sockets := state.sockets.set socket .open
      isConnected := true } : Link).online = true :=
    (Link.online_iff _).mpr ⟨rfl, socket, held, List.getElem?_set_self inside⟩
  rw [handleOpen, call, sendMessage_rejects platform _ _ _ _ rfl]
  exact processMessageQueue_eq platform _ stamp fuel online bare

end Runs

/-- The messages that wait are sent once, in the order of their calls and with their bodies,
and no message is sent whose promise was rejected. -/
structure ExactlySent (before after : ChatState) : Prop where
  once : after.transmitted.map (fun sent => (sent.call, sent.header.type, sent.bodyData)) =
    before.messageQueue.map fun queued => (queued.call, queued.header.type, queued.bodyData)
  inOrder : (before.messageQueue.map (·.call)).Pairwise (· < ·)
  framed : ∀ sent ∈ after.transmitted,
    sent.frame = ProtocolCodec.headerBytes sent.header ++ sent.bodyData.getD []
  honest : ∀ call ∈ after.rejected, call ∉ after.transmitted.map (·.call)

variable {Number Text : Type} (platform : ChatPlatform Number Text)

/-- Whatever waits is sent again once and in order when the client has a connection. -/
theorem handleOpen_sends_waiting (state : ChatState) (lost : state.Lost) (socket : Nat) (stamp : Nat → Stamp)
    (held : state.ws = some socket) (connecting : state.sockets[socket]? = some .connecting) :
    ∃ fuel after, state.handleOpen platform socket stamp fuel = some after ∧ after.messageQueue = [] ∧
      after.transmitted = state.messageQueue.map (resent stamp) ∧
      (after.transmitted.map (·.call)).Pairwise (· < ·) := by
  have reopened := handleOpen_eq platform state socket stamp (state.messageQueue.length + 1) held connecting
    lost.bare
  rw [if_pos (Nat.lt_succ_self _), lost.unsent, List.nil_append] at reopened
  refine ⟨_, _, reopened, rfl, rfl, ?_⟩
  show ((state.messageQueue.map (resent stamp)).map (·.call)).Pairwise (· < ·)
  rw [List.map_map]
  exact lost.inOrder

/-- The messages are sent exactly after a lost connection, whatever happened meanwhile,
if and only if none was without a body, and none has waited. -/
theorem offlineSends_exact_iff (link : Link) (events : List (LinkEvent Number Text)) (socket : Nat)
    (stamp : Nat → Stamp) (offline : link.online = false)
    (held : ((ChatState.of link).run platform events).ws = some socket)
    (connecting : ((ChatState.of link).run platform events).sockets[socket]? = some .connecting) :
    (∃ fuel after, ((ChatState.of link).run platform events).handleOpen platform socket stamp fuel = some after ∧
      ExactlySent ((ChatState.of link).run platform events) after) ↔
      ∀ request stamp, LinkEvent.sendMessage request stamp ∈ events →
        ChatClient.truthy platform.toPlatform request.data = true := by
  have start : (ChatState.of link).Lost :=
    ⟨offline, .nil, List.forall_mem_nil _, List.forall_mem_nil _, List.forall_mem_nil _, rfl⟩
  obtain ⟨lost, empty⟩ := (ChatState.of link).run_lost platform events start
  have reopened := fun fuel => handleOpen_eq platform _ socket stamp fuel held connecting lost.bare
  rw [← (empty.trans (and_iff_right rfl))]
  constructor
  · rintro ⟨fuel, after, opened, sent⟩
    rw [reopened] at opened
    split at opened
    · obtain rfl := Option.some.inj opened
      refine List.eq_nil_iff_forall_not_mem.mpr fun queued waits => ?_
      have again : queued.call ∈ ((((ChatState.of link).run platform events).transmitted ++
          ((ChatState.of link).run platform events).messageQueue.map (resent stamp)).map (·.call)) := by
        rw [List.map_append, List.map_map]
        exact List.mem_append_right _ (List.mem_map.mpr ⟨queued, waits, rfl⟩)
      exact sent.honest queued.call (List.mem_append_left _ (lost.rejected queued waits)) again
    · exact nomatch opened
  · intro none
    have nothing : ((ChatState.of link).run platform events).transmitted ++
        ((ChatState.of link).run platform events).messageQueue.map (resent stamp) = [] := by
      rw [lost.unsent, none]
      rfl
    have enough : ((ChatState.of link).run platform events).messageQueue.length < 1 := by
      rw [none]
      exact Nat.zero_lt_one
    refine ⟨1, _, (reopened 1).trans (if_pos enough), ?_, lost.inOrder, ?_, ?_⟩
    · show List.map _ (_ ++ _) = _
      rw [nothing, none]
      rfl
    · show ∀ sent ∈ _ ++ _, _
      rw [nothing]
      exact List.forall_mem_nil _
    · show ∀ call ∈ _, call ∉ List.map _ (_ ++ _)
      rw [nothing]
      exact fun _ _ => List.not_mem_nil

/-- A client without a security manager. -/
def plainChat : ChatPlatform Int (List UInt8) := { plainPlatform with encryptMessage := none, handshake := [] }

/-- One call while the first socket connects. -/
def earlyCall (data : JsonValue Int (List UInt8)) : List (LinkEvent Int (List UInt8)) :=
  [.connect true, .sendMessage ⟨2, data, ⟨0, 0, false, false⟩⟩ ⟨1700000000000000, 1700000000000⟩]

/-- With the value true it is rejected, and nothing is sent later. -/
theorem offlineSends_exact_true : ∃ fuel after,
    ((ChatState.of ⟨[], none, false⟩).run plainChat (earlyCall (.bool true))).handleOpen plainChat 0
        (fun _ => ⟨1700000001000000, 1700000001000⟩) fuel = some after ∧
      ExactlySent ((ChatState.of ⟨[], none, false⟩).run plainChat (earlyCall (.bool true))) after := by
  refine (offlineSends_exact_iff plainChat _ _ 0 _ rfl rfl rfl).mpr fun request stamp member => ?_
  rcases List.mem_cons.mp member with same | later
  · exact nomatch same
  · obtain ⟨rfl, -⟩ := LinkEvent.sendMessage.inj (List.mem_singleton.mp later)
    rfl

/-- Without a value it is rejected all the same, and sent when the socket is open. -/
theorem offlineSends_not_exact : ¬ ∃ fuel after,
    ((ChatState.of ⟨[], none, false⟩).run plainChat (earlyCall .null)).handleOpen plainChat 0
        (fun _ => ⟨1700000001000000, 1700000001000⟩) fuel = some after ∧
      ExactlySent ((ChatState.of ⟨[], none, false⟩).run plainChat (earlyCall .null)) after := by
  have start : (ChatState.of ⟨[], none, false⟩).Lost :=
    ⟨rfl, .nil, List.forall_mem_nil _, List.forall_mem_nil _, List.forall_mem_nil _, rfl⟩
  have lost := ((ChatState.of ⟨[], none, false⟩).run_lost plainChat (earlyCall .null) start).1
  rintro ⟨fuel, after, opened, sent⟩
  rw [handleOpen_eq plainChat _ 0 _ fuel rfl rfl lost.bare] at opened
  split at opened
  · obtain rfl := Option.some.inj opened
    exact sent.honest 0 List.mem_cons_self List.mem_cons_self
  · exact nomatch opened

end ChatState

end SecureChat.Web
