import SecureChat.Construction.WebSocket.ClientsMutex
import SecureChat.Proof.WebSocket.Segmentation

namespace SecureChat.WebSocket.ClientsMutex
open Library LockOp

/-- None of the calls gets as far as the mutex. -/
def Quiet (table : Table) (calls : List ApiCall) : Prop := ∀ call ∈ calls, call.locks table = false

/-- A header declares a payload above the limit. -/
def TooLarge (limit : Nat) (data : List UInt8) : Prop :=
  2 ≤ data.length ∧ ∃ payloadLen offset,
    extendedLength data (headerOf data) = some (payloadLen, offset) ∧ limit < payloadLen

/-- The callbacks that get a message with this opcode call nothing that locks. -/
def Told (table : Table) (answer : ReadAnswer) (opcode : UInt8) : Prop :=
  (table.server.onMessage = true → Quiet table answer.onMessage) ∧
    (opcode = wsOpcodeBinary → table.server.onBinary = true → Quiet table answer.onBinary)

/-- A frame neither closes the connection nor completes a message for a callback that locks. -/
def CalmFrame (table : Table) (client : WebsocketClient) (answer : ReadAnswer) (frame : Frame) : Prop :=
  match frameRole table.server.config.maxMessageSize.toNat frame with
  | .single => Told table answer frame.opcode
  | .further => frame.fin = true → HasRoom client (client.messageLength + frame.payload.length) answer.tick →
      Told table answer client.opcode
  | .tooLarge => False
  | .close => False
  | _ => True

/-- No frame in the data is too large, and the one that it starts with is calm. -/
structure CalmData (table : Table) (client : WebsocketClient) (data : List UInt8) (answer : ReadAnswer) : Prop where
  small : ¬ TooLarge table.server.config.maxMessageSize.toNat data
  calm : ∀ frame size, nextFrame data = some (frame, size) → CalmFrame table client answer (decodeFrame frame)

/-- A readable client does not end its connection, and the data of an open one is calm. -/
def CalmRead (table : Table) (slot : Slot) (answer : ReadAnswer) : Prop :=
  match answer.result with
  | .data bytes => slot.client.state = .open → CalmData table slot.client bytes answer
  | .closed => False
  | .again => True
  | .failed => False

/-- No client is removed, and no callback calls a function that locks. -/
def Calm : Execution → Prop
  | .worker table activity =>
      match activity with
      | .failed => True
      | .timeout found currentTime _ =>
          ∀ (index : Nat) (slot : Slot), found.clients[index]? = some (some slot) →
            overdue found currentTime slot = false
      | .active found isReady answers =>
          ∀ (index : Nat) (slot : Slot), found.clients[index]? = some (some slot) →
            table.selected isReady slot.fd = true → CalmRead found slot (answers index)
  | .checkTimeout table currentTime _ =>
      ∀ (index : Nat) (slot : Slot), table.clients[index]? = some (some slot) →
        overdue table currentTime slot = false
  | .processFrame table client data answer => CalmData table client data answer

section Calls

variable (table : Table)

theorem ops_cases (call : ApiCall) : Plain (call.ops table) ∧ (call.ops table = [] ↔ call.locks table = false) := by
  have one : ∀ locks : Bool, Plain (if locks then [.lock, .unlock] else []) ∧
      ((if locks then [LockOp.lock, .unlock] else []) = [] ↔ locks = false) := by
    intro locks
    cases locks with
    | false => exact ⟨plain_nil, iff_of_true rfl rfl⟩
    | true => exact ⟨plain_lock _, iff_of_false nofun nofun⟩
  cases call with
  | closeClient onClose =>
      rw [ApiCall.ops, ApiCall.locks]
      cases table.running with
      | false => exact ⟨plain_nil, iff_of_true rfl rfl⟩
      | true => exact ⟨plain_lock _, iff_of_false nofun nofun⟩
  | getClient =>
      rw [ApiCall.ops, ApiCall.locks]
      exact ⟨plain_lock _, iff_of_false nofun nofun⟩
  | getClientCount =>
      rw [ApiCall.ops, ApiCall.locks]
      exact ⟨plain_lock _, iff_of_false nofun nofun⟩
  | getStats =>
      rw [ApiCall.ops, ApiCall.locks]
      exact ⟨plain_nil, iff_of_true rfl rfl⟩
  | _ =>
      rw [ApiCall.ops]
      exact one _

theorem opsOfCalls_cases (calls : List ApiCall) :
    Plain (opsOfCalls table calls) ∧ (opsOfCalls table calls = [] ↔ Quiet table calls) := by
  induction calls with
  | nil => exact ⟨plain_nil, iff_of_true rfl nofun⟩
  | cons call rest ih =>
      obtain ⟨plain, silent⟩ := ops_cases table call
      rw [opsOfCalls, List.append_eq_nil_iff, silent, ih.2]
      refine ⟨plain.append ih.1, ?_⟩
      unfold Quiet
      rw [List.forall_mem_cons]

theorem removeOps_ne_nil (onClose : List ApiCall) : removeOps table onClose ≠ [] := nofun

theorem eventOps_plain (answer : ReadAnswer) (event : SessionEvent) : Plain (eventOps table answer event) := by
  cases event with
  | onMessage message => exact (opsOfCalls_cases table answer.onMessage).1
  | onBinary data => exact (opsOfCalls_cases table answer.onBinary).1
  | send bytes => exact plain_nil
  | removeClient statusCode reason => exact plain_lock _

theorem frameOps_plain (client : WebsocketClient) (data : List UInt8) (answer : ReadAnswer) :
    Plain (frameOps table client data answer) := plain_flatMap _ _ (eventOps_plain table answer)

end Calls

section Frames

variable (table : Table) (client : WebsocketClient) (answer : ReadAnswer)

/-- A delivered message is calm when the callbacks that get it are. -/
theorem deliver_ops_iff (opcode : UInt8) (data : List UInt8) (now : Nat) :
    (deliver table.server client opcode data now).flatMap (eventOps table answer) = [] ↔
      Told table answer opcode := by
  have message := (opsOfCalls_cases table answer.onMessage).2
  have binary := (opsOfCalls_cases table answer.onBinary).2
  unfold deliver Told
  rw [List.flatMap_append, List.append_eq_nil_iff]
  refine and_congr ?_ ?_
  · split
    · rename_i registered
      rw [List.flatMap_singleton, eventOps, message]
      exact ⟨fun quiet _ => quiet, fun quiet => quiet registered⟩
    · rename_i missing
      exact iff_of_true rfl fun registered => absurd registered missing
  · split
    · rename_i both
      rw [List.flatMap_singleton, eventOps, binary]
      exact ⟨fun quiet _ _ => quiet, fun quiet => quiet both.1 both.2⟩
    · rename_i missing
      exact iff_of_true rfl fun opcode registered => absurd ⟨opcode, registered⟩ missing

theorem removed_ops (result : Int) (statusCode : Nat) (reason : List UInt8) :
    (removed table.server result statusCode reason).events.flatMap (eventOps table answer) ≠ [] := by
  show ([.removeClient statusCode reason] : List SessionEvent).flatMap (eventOps table answer) ≠ []
  rw [List.flatMap_singleton]
  exact removeOps_ne_nil table answer.onClose

theorem reserve_opcode {ready : WebsocketClient} {size : Nat} {tick : Tick}
    (reserved : reserve client size tick = some ready) : ready.opcode = client.opcode := by
  unfold reserve at reserved
  split at reserved
  · split at reserved
    · cases reserved
      rfl
    · cases reserved
  · cases reserved
    rfl

/-- A continuation delivers a message only with the last flag and with room for its payload. -/
theorem continueFragments_ops_iff (frame : Frame) :
    (continueFragments table.server client frame answer.tick).events.flatMap (eventOps table answer) = [] ↔
      (frame.fin = true → HasRoom client (client.messageLength + frame.payload.length) answer.tick →
        Told table answer client.opcode) := by
  have full := reserve_none_iff client (client.messageLength + frame.payload.length) answer.tick
  unfold continueFragments
  split
  · rename_i refused
    exact iff_of_true rfl fun _ room => absurd room (full.mp refused)
  · rename_i ready reserved
    have room : HasRoom client (client.messageLength + frame.payload.length) answer.tick := by
      by_contra missing
      rw [full.mpr missing] at reserved
      cases reserved
    dsimp only
    split
    · rename_i last
      have delivered := deliver_ops_iff table { ready with
        messageBuffer := memcpy ready.messageBuffer ready.messageLength frame.payload
        messageLength := ready.messageLength + frame.payload.length
        fragmentSize := ready.fragmentSize + frame.payload.length } answer ready.opcode
        ((memcpy ready.messageBuffer ready.messageLength frame.payload).take
          (ready.messageLength + frame.payload.length)) answer.tick.now
      rw [reserve_opcode client reserved] at delivered
      rw [finishFragments]
      dsimp only
      rw [reserve_opcode client reserved, delivered]
      exact ⟨fun told _ _ => told, fun told => told last room⟩
    · rename_i more
      exact iff_of_true rfl fun last => absurd last more

theorem startFragments_ops (frame : Frame) :
    (startFragments table.server client frame answer.tick).events.flatMap (eventOps table answer) = [] := by
  unfold startFragments
  dsimp only
  split <;> rfl

/-- The frames that need no branch of their own send at most a pong. -/
theorem control_ops (frame : Frame)
    (role : frameRole table.server.config.maxMessageSize.toNat frame = .control) :
    (processFrame table.server client frame answer.tick).events.flatMap (eventOps table answer) = [] := by
  rcases processFrame_control_cases table.server client frame answer.tick role with ping | pong | other
  · rw [ping]
    rfl
  · rw [pong]
    rfl
  · rw [other]
    rfl

/-- A whole frame leaves the mutex alone exactly when it is calm. -/
theorem processFrame_ops_iff (frame : Frame) :
    (processFrame table.server client frame answer.tick).events.flatMap (eventOps table answer) = [] ↔
      CalmFrame table client answer frame := by
  have branch := processFrame_role table.server client frame answer.tick
  have control := control_ops table client answer frame
  unfold CalmFrame
  cases role : frameRole table.server.config.maxMessageSize.toNat frame with
  | tooLarge =>
      rw [role] at branch
      rw [branch]
      exact iff_of_false (removed_ops table answer _ _ _) id
  | single =>
      rw [role] at branch
      rw [branch]
      exact deliver_ops_iff table client answer frame.opcode frame.payload answer.tick.now
  | first =>
      rw [role] at branch
      rw [branch]
      exact iff_of_true (startFragments_ops table client answer frame) trivial
  | further =>
      rw [role] at branch
      rw [branch]
      exact continueFragments_ops_iff table client answer frame
  | close =>
      rw [role] at branch
      rw [branch]
      exact iff_of_false (removed_ops table answer _ _ _) id
  | control => exact iff_of_true (control role) trivial

/-- Data without a whole frame is only looked at for its size. -/
theorem unfinished_ops_iff (data : List UInt8) (unfinished : nextFrame data = none) :
    frameOps table client data answer = [] ↔ ¬ TooLarge table.server.config.maxMessageSize.toNat data := by
  unfold nextFrame at unfinished
  unfold frameOps processWebsocketFrame TooLarge
  split
  · rename_i short
    exact iff_of_true rfl fun large => absurd large.1 (Nat.not_le_of_lt short)
  · rename_i long
    rw [if_neg long] at unfinished
    dsimp only
    cases read : extendedLength data (headerOf data) with
    | none => exact iff_of_true rfl fun large => by obtain ⟨-, _, _, same, -⟩ := large; cases same
    | some found =>
        rw [read] at unfinished
        dsimp only at unfinished ⊢
        split
        · rename_i large
          refine iff_of_false (removed_ops table answer _ _ _) fun small => small ?_
          exact ⟨Nat.le_of_not_lt long, found.1, found.2, rfl, large⟩
        · rename_i small
          have missing : data.length < (if (headerOf data).mask = true then found.2 + 4 else found.2) + found.1 := by
            by_contra whole
            have complete : ¬ data.length < payloadOffset (headerOf data) found.2 + found.1 := whole
            rw [if_neg complete] at unfinished
            cases unfinished
          refine iff_of_true ?_ ?_
          · split <;> rfl
          · rintro ⟨-, payloadLen, offset, same, large⟩
            cases same
            exact small large

theorem frameOps_iff (data : List UInt8) :
    frameOps table client data answer = [] ↔ CalmData table client data answer := by
  cases read : nextFrame data with
  | none =>
      rw [unfinished_ops_iff table client answer data read]
      exact ⟨fun small => ⟨small, fun _ _ same => by rw [read] at same; cases same⟩, fun calm => calm.small⟩
  | some found =>
      obtain ⟨frame, size⟩ := found
      obtain ⟨payloadLen, offset, whole⟩ := nextFrame_some data frame size read
      have ops : frameOps table client data answer =
          (processFrame table.server client (decodeFrame frame) answer.tick).events.flatMap
            (eventOps table answer) := by
        rw [frameOps, processWebsocketFrame_whole _ _ _ _ _ _ read]
      rw [ops, processFrame_ops_iff]
      constructor
      · intro calm
        refine ⟨?_, fun other _ same => ?_⟩
        · rintro ⟨-, payloadLen', offset', same, large⟩
          rw [whole.read] at same
          cases same
          have role : frameRole table.server.config.maxMessageSize.toNat (decodeFrame frame) = .tooLarge := by
            rw [frameRole, ← whole.decodeFrame, whole.payload_length, if_pos large]
          rw [CalmFrame, role] at calm
          exact calm
        · rw [read] at same
          cases same
          exact calm
      · intro calm
        exact calm.calm frame size read

end Frames

section Loops

variable (table : Table)

theorem timeoutOps_cases (currentTime : UInt64) (onClose : Nat → List ApiCall) (index : Nat) :
    Plain (timeoutOps table currentTime onClose index) ∧
      (timeoutOps table currentTime onClose index = [] ↔
        ∀ slot, table.clients[index]? = some (some slot) → overdue table currentTime slot = false) := by
  unfold timeoutOps
  cases found : table.clients[index]? with
  | none => exact ⟨plain_nil, iff_of_true rfl fun _ same => by cases same⟩
  | some entry =>
      cases entry with
      | none => exact ⟨plain_nil, iff_of_true rfl fun _ same => by cases same⟩
      | some slot =>
          show Plain (if overdue table currentTime slot = true then _ else _) ∧
            ((if overdue table currentTime slot = true then _ else _) = [] ↔ _)
          split
          · rename_i late
            refine ⟨plain_lock _, iff_of_false (removeOps_ne_nil table _) fun none => ?_⟩
            rw [none slot rfl] at late
            cases late
          · rename_i early
            refine ⟨plain_nil, iff_of_true rfl fun other same => ?_⟩
            cases same
            exact Bool.not_eq_true _ ▸ early

/-- The check for time-outs gets through exactly when no client is due. -/
theorem checkClientTimeout_goes_iff (currentTime : UInt64) (onClose : Nat → List ApiCall) :
    Goes false (checkClientTimeoutOps table currentTime onClose) ↔
      ∀ (index : Nat) (slot : Slot), table.clients[index]? = some (some slot) →
        overdue table currentTime slot = false := by
  have plain := plain_flatMap (List.range table.clients.length) (timeoutOps table currentTime onClose)
    fun index => (timeoutOps_cases table currentTime onClose index).1
  rw [checkClientTimeoutOps, plain.goes_section_iff, List.flatMap_eq_nil_iff]
  constructor
  · intro none index slot found
    have inside : index < table.clients.length := (List.getElem?_eq_some_iff.mp found).1
    exact (timeoutOps_cases table currentTime onClose index).2.mp (none index (List.mem_range.mpr inside)) slot found
  · intro none index _
    exact (timeoutOps_cases table currentTime onClose index).2.mpr (none index)

/-- Only the statistics and the clients change while the worker reads. -/
def Table.changed (table : Table) (stats : WebsocketStats) (clients : List (Option Slot)) : Table :=
  { table with server := { table.server with stats := stats }, clients := clients }

theorem dispatchFrame_server (server : WebsocketServer) (client : WebsocketClient) (frame : Frame) (tick : Tick) :
    ∃ stats, (dispatchFrame server client frame tick).server = { server with stats := stats } := by
  unfold dispatchFrame
  split
  · split
    · exact ⟨_, rfl⟩
    · unfold startFragments
      dsimp only
      split <;> exact ⟨_, rfl⟩
  · split
    · unfold continueFragments
      split
      · exact ⟨_, rfl⟩
      · dsimp only
        split <;> exact ⟨_, rfl⟩
    · split
      · exact ⟨_, rfl⟩
      · split
        · exact ⟨_, rfl⟩
        · split <;> exact ⟨_, rfl⟩

theorem processWebsocketFrame_server (server : WebsocketServer) (client : WebsocketClient) (data : List UInt8)
    (tick : Tick) :
    ∃ stats, (processWebsocketFrame server client data tick).server = { server with stats := stats } := by
  unfold processWebsocketFrame
  split
  · exact ⟨_, rfl⟩
  · dsimp only
    split
    · exact ⟨_, rfl⟩
    · split
      · exact ⟨_, rfl⟩
      · split
        · exact ⟨_, rfl⟩
        · split
          · split
            · exact ⟨_, rfl⟩
            · exact dispatchFrame_server _ _ _ _
          · split
            · exact ⟨_, rfl⟩
            · exact dispatchFrame_server _ _ _ _

theorem calmRead_changed (stats : WebsocketStats) (clients : List (Option Slot)) (slot : Slot) (answer : ReadAnswer) :
    CalmRead (table.changed stats clients) slot answer ↔ CalmRead table slot answer := by
  have data : ∀ bytes, CalmData (table.changed stats clients) slot.client bytes answer ↔
      CalmData table slot.client bytes answer :=
    fun bytes => ⟨fun calm => ⟨calm.small, calm.calm⟩, fun calm => ⟨calm.small, calm.calm⟩⟩
  unfold CalmRead
  split
  · rename_i bytes read
    exact imp_congr_right fun _ => data bytes
  · exact Iff.rfl
  · exact Iff.rfl
  · exact Iff.rfl

/-- What a round over one slot does to the rest of the table. -/
structure OneSlot (index : Nat) (next : Table) : Prop where
  changes : ∃ stats clients, next = table.changed stats clients
  others : ∀ other, other ≠ index → next.clients[other]? = table.clients[other]?

theorem OneSlot.refl (index : Nat) : OneSlot table index table := ⟨⟨_, _, rfl⟩, fun _ _ => rfl⟩

theorem received_oneSlot (index : Nat) (slot : Slot) (outcome : Outcome) (length : Nat)
    (server : ∃ stats, outcome.server = { table.server with stats := stats }) :
    OneSlot table index (table.received index slot outcome length) := by
  obtain ⟨stats, same⟩ := server
  refine ⟨⟨{ stats with bytesReceived := stats.bytesReceived + length },
    (table.received index slot outcome length).clients, ?_⟩, fun other apart => ?_⟩
  · simp only [Table.received, countBytes, same, Table.changed]
  · exact List.getElem?_set_ne apart.symm

theorem removed_oneSlot (index : Nat) :
    OneSlot table index { table with clients := table.clients.set index none } :=
  ⟨⟨_, _, rfl⟩, fun _ apart => List.getElem?_set_ne apart.symm⟩

variable (isSet : Int → Bool) (answers : Nat → ReadAnswer)

/-- The operations of a round come behind those before. -/
theorem readSlot_ops (ops : List LockOp) (index : Nat) :
    readSlot isSet answers (table, ops) index =
      ((readSlot isSet answers (table, []) index).1, ops ++ (readSlot isSet answers (table, []) index).2) := by
  have none : ops ++ [] = ops := List.append_nil ops
  unfold readSlot
  dsimp only
  split
  · split
    · rw [none]
    · split
      · split
        · rw [none]
        · split
          · rfl
          · rw [none]
      · rfl
      · rw [none]
      · rfl
  · rw [none]

/-- A round leaves the mutex alone exactly when the read is calm. -/
theorem readSlot_cases (index : Nat) :
    OneSlot table index (readSlot isSet answers (table, []) index).1 ∧
      Plain (readSlot isSet answers (table, []) index).2 ∧
      ((readSlot isSet answers (table, []) index).2 = [] ↔
        ∀ slot, table.clients[index]? = some (some slot) → isSet slot.fd = true →
          CalmRead table slot (answers index)) := by
  have same := OneSlot.refl table index
  unfold readSlot
  dsimp only
  split
  · rename_i slot found
    split
    · rename_i unset
      refine ⟨same, plain_nil, iff_of_true rfl fun other here set => ?_⟩
      rw [found] at here
      cases here
      rw [unset] at set
      cases set
    · rename_i set
      have calm : (∀ other, table.clients[index]? = some (some other) → isSet other.fd = true →
          CalmRead table other (answers index)) ↔ CalmRead table slot (answers index) := by
        constructor
        · intro each
          exact each slot found (Bool.not_eq_false _ ▸ set)
        · intro here other again _
          rw [found] at again
          cases again
          exact here
      rw [found] at calm
      rw [found, calm]
      unfold CalmRead
      cases (answers index).result with
      | data bytes =>
          dsimp only
          split
          · rename_i connecting
            refine ⟨received_oneSlot table index slot _ _ ⟨_, rfl⟩, plain_nil, iff_of_true rfl fun isOpen => ?_⟩
            rw [isOpen] at connecting
            cases connecting
          · split
            · rename_i isOpen
              refine ⟨received_oneSlot table index slot _ _ (processWebsocketFrame_server _ _ _ _),
                frameOps_plain table _ bytes _, ?_⟩
              rw [List.nil_append, frameOps_iff]
              exact ⟨fun calm _ => ⟨calm.small, calm.calm⟩,
                fun calm => ⟨(calm isOpen).small, (calm isOpen).calm⟩⟩
            · rename_i closed
              exact ⟨received_oneSlot table index slot _ _ ⟨_, rfl⟩, plain_nil,
                iff_of_true rfl fun isOpen => absurd isOpen closed⟩
      | closed => exact ⟨removed_oneSlot table index, plain_lock _, iff_of_false (removeOps_ne_nil table _) id⟩
      | again => exact ⟨same, plain_nil, iff_of_true rfl trivial⟩
      | failed => exact ⟨removed_oneSlot table index, plain_lock _, iff_of_false (removeOps_ne_nil table _) id⟩
  · rename_i missing
    exact ⟨same, plain_nil, iff_of_true rfl fun slot found => absurd found (missing slot)⟩

theorem readSlots_ops (indices : List Nat) (ops : List LockOp) :
    (indices.foldl (readSlot isSet answers) (table, ops)).2 =
      ops ++ (indices.foldl (readSlot isSet answers) (table, [])).2 := by
  induction indices generalizing table ops with
  | nil => exact (List.append_nil ops).symm
  | cons index rest ih =>
      have first := ih (readSlot isSet answers (table, []) index).1 (readSlot isSet answers (table, []) index).2
      rw [List.foldl_cons, List.foldl_cons, readSlot_ops, ih, List.append_assoc]
      exact congrArg (ops ++ ·) first.symm

/-- The loop leaves the mutex alone exactly when all reads are calm. -/
theorem readSlots_cases (indices : List Nat) (distinct : indices.Nodup) :
    Plain (indices.foldl (readSlot isSet answers) (table, [])).2 ∧
      ((indices.foldl (readSlot isSet answers) (table, [])).2 = [] ↔
        ∀ index ∈ indices, ∀ slot, table.clients[index]? = some (some slot) → isSet slot.fd = true →
          CalmRead table slot (answers index)) := by
  induction indices generalizing table with
  | nil => exact ⟨plain_nil, iff_of_true rfl nofun⟩
  | cons index rest ih =>
      obtain ⟨apart, distinct⟩ := List.nodup_cons.mp distinct
      obtain ⟨one, plain, here⟩ := readSlot_cases table isSet answers index
      obtain ⟨stats, clients, changed⟩ := one.changes
      obtain ⟨plain', there⟩ := ih (readSlot isSet answers (table, []) index).1 distinct
      have later : (∀ other ∈ rest, ∀ slot,
          (readSlot isSet answers (table, []) index).1.clients[other]? = some (some slot) → isSet slot.fd = true →
            CalmRead (readSlot isSet answers (table, []) index).1 slot (answers other)) ↔
          ∀ other ∈ rest, ∀ slot, table.clients[other]? = some (some slot) → isSet slot.fd = true →
            CalmRead table slot (answers other) := by
        refine forall₂_congr fun other member => ?_
        have elsewhere : other ≠ index := fun same => apart (same ▸ member)
        rw [one.others other elsewhere, changed]
        exact forall₃_congr fun slot _ _ => calmRead_changed table stats clients slot (answers other)
      have split : (List.foldl (readSlot isSet answers) (readSlot isSet answers (table, []) index) rest).2 =
          (readSlot isSet answers (table, []) index).2 ++
            (rest.foldl (readSlot isSet answers) ((readSlot isSet answers (table, []) index).1, [])).2 :=
        readSlots_ops (readSlot isSet answers (table, []) index).1 isSet answers rest _
      rw [List.foldl_cons, split, List.append_eq_nil_iff, here, there, later, List.forall_mem_cons]
      exact ⟨plain.append plain', Iff.rfl⟩

end Loops

/-- A worker with readable clients gets through its loop exactly when it reads nothing that removes one. -/
theorem active_goes_iff (table found : Table) (isReady : Int → Bool) (answers : Nat → ReadAnswer) :
    (Execution.worker table (.active found isReady answers)).Goes ↔
      Calm (.worker table (.active found isReady answers)) := by
  obtain ⟨plain, leaves⟩ := readSlots_cases found (table.selected isReady) answers
    (List.range found.clients.length) List.nodup_range
  refine (plain.goes_section_iff.trans leaves).trans ?_
  constructor
  · intro calm index slot present
    exact calm index (List.mem_range.mpr (List.getElem?_eq_some_iff.mp present).1) slot present
  · intro calm index _
    exact calm index

/-- The worker, the check for time-outs and the code for one frame never lock the mutex again that they hold
exactly when no client has to be removed and no callback calls a function that locks. -/
theorem clientsMutex_iff (execution : Execution) : execution.Goes ↔ Calm execution := by
  cases execution with
  | worker table activity =>
      cases activity with
      | failed => exact iff_of_true nofun trivial
      | timeout found currentTime onClose => exact checkClientTimeout_goes_iff found currentTime onClose
      | active found isReady answers => exact active_goes_iff table found isReady answers
  | checkTimeout table currentTime onClose => exact checkClientTimeout_goes_iff table currentTime onClose
  | processFrame table client data answer =>
      exact (frameOps_plain table client data answer).goes_iff.trans (frameOps_iff table client answer data)

/-- A server with one open client and no callbacks. -/
def oneClient : Table := ⟨⟨⟨1000, 4096⟩, false, false, ⟨0, 0, 0⟩⟩, true, 60, [some ⟨5, openClient 1 0⟩]⟩

/-- The client closes its end, and the worker waits for itself. -/
theorem clientsMutex_closed_fails :
    ¬ (Execution.worker oneClient (.active oneClient (fun _ => true)
      fun _ => ⟨.closed, ⟨0, true⟩, false, [], [], []⟩)).Goes := by
  rw [active_goes_iff]
  intro calm
  exact calm 0 ⟨5, openClient 1 0⟩ rfl rfl

end SecureChat.WebSocket.ClientsMutex
