import SecureChat.Construction.WebSocket.Writer

namespace SecureChat.WebSocket.Writer
open Library

section Answers

theorem taken_isFront (answer : SendAnswer) (bytes : List UInt8) : answer.taken bytes <+: bytes := by
  cases answer with
  | takes count => exact List.take_prefix count bytes
  | fails => exact List.nil_prefix

/-- The result is above zero exactly when the socket has taken something. -/
theorem sent_le_zero_iff (answer : SendAnswer) (bytes : List UInt8) :
    answer.sent bytes ≤ 0 ↔ answer.taken bytes = [] := by
  cases answer with
  | takes count =>
      rw [SendAnswer.sent, SendAnswer.taken, ← List.length_eq_zero_iff]
      omega
  | fails => exact iff_of_true (show (-1 : Int) ≤ 0 by decide) rfl

/-- Two front parts are together whole only if each of them is. -/
theorem prefixes_whole {first second front back : List UInt8} (one : front <+: first) (other : back <+: second) :
    front ++ back = first ++ second ↔ front = first ∧ back = second := by
  constructor
  · intro whole
    have lengths := congrArg List.length whole
    rw [List.length_append, List.length_append] at lengths
    have short := one.length_le
    have short' := other.length_le
    exact List.append_inj whole (by omega)
  · rintro ⟨rfl, rfl⟩
    rfl

end Answers

/-- The length that a frame without a mask declares, and what follows it. -/
def declaredLength : List UInt8 → Option (Nat × List UInt8)
  | _ :: second :: rest =>
      if second.toNat % 128 = 126 then some (bigEndianValue (rest.take 2), rest.drop 2)
      else if second.toNat % 128 = 127 then some (bigEndianValue (rest.take 8), rest.drop 8)
      else some (second.toNat % 128, rest)
  | _ => none

/-- A close frame that declares as many bytes as follow. A control frame has no extended length. -/
def WellFormedClose (bytes : List UInt8) : Prop :=
  ∃ second rest, bytes = 0x88 :: second :: rest ∧ second.toNat % 128 = rest.length ∧ rest.length ≤ 125

def Channel.Open (channel : Channel) : Prop := ∃ client, channel.client = some client ∧ client.state = .open

/-- Success means that the socket has taken the whole frame, which declares the length of its payload.
Nothing more is taken after a part of a frame, and a close frame fits its buffer and is well-formed. -/
structure WholeFrames (channel : Channel) (call : WriterCall) : Prop where
  complete : ∀ opcode payload forHeader forPayload, call = .sendFrame opcode payload forHeader forPayload →
    0 ∈ (perform channel call).2 →
    (perform channel call).1.wire = channel.wire ++ (frameHeader opcode payload.length ++ payload)
  declared : ∀ opcode payload forHeader forPayload, call = .sendFrame opcode payload forHeader forPayload →
    payload.length < 2 ^ 64 →
    declaredLength (frameHeader opcode payload.length ++ payload) = some (payload.length, payload)
  silent : channel.torn = true → (perform channel call).1.wire = channel.wire
  close : ∀ statusCode reason answer, call = .remove statusCode reason answer → channel.Open →
    (closeFrame statusCode reason).stored.length ≤ closeFrameSize ∧
      WellFormedClose (closeFrame statusCode reason).bytes

/-- The socket takes nothing more after a part of a frame, and where it takes something of each part of a frame
it takes all. A close frame gets a reason of at most 123 bytes, and not an empty one. -/
def TakesWhole (channel : Channel) (call : WriterCall) : Prop :=
  channel.Open → match call with
    | .sendFrame opcode payload forHeader forPayload =>
        let header := frameHeader opcode payload.length
        (channel.torn = true → forHeader.taken header = []) ∧
          (forHeader.taken header ≠ [] → (payload ≠ [] → forPayload.taken payload ≠ []) →
            forHeader.taken header = header ∧ forPayload.taken payload = payload)
    | .ping answer => channel.torn = true → answer.taken pingFrame = []
    | .pong answer => channel.torn = true → answer.taken pongFrame = []
    | .remove statusCode reason answer =>
        (channel.torn = true → answer.taken (closeFrame statusCode reason).bytes = []) ∧
          ∃ text, reason = some text ∧ 1 ≤ text.val.length ∧ text.val.length ≤ 123

section Frames

theorem lowByte_toNat {length : Nat} (short : length ≤ 125) : (UInt8.ofNat length &&& 0x7F).toNat = length := by
  rw [UInt8.toNat_and, UInt8.toNat_ofNat', Nat.mod_eq_of_lt (by omega)]
  exact (Nat.and_two_pow_sub_one_eq_mod length 7).trans (Nat.mod_eq_of_lt (by omega))

theorem take_bigEndian (width value : Nat) (payload : List UInt8) :
    (bigEndian width value ++ payload).take width = bigEndian width value ∧
      (bigEndian width value ++ payload).drop width = payload := by
  have length := bigEndian_length width value
  exact ⟨List.take_left' length, List.drop_left' length⟩

/-- The frames of `send_websocket_frame` declare the length of their payload. -/
theorem frameHeader_declares (opcode : UInt8) (payload : List UInt8) (fits : payload.length < 2 ^ 64) :
    declaredLength (frameHeader opcode payload.length ++ payload) = some (payload.length, payload) := by
  unfold frameHeader
  dsimp only
  split
  · rename_i short
    rw [List.cons_append, List.cons_append, List.nil_append, declaredLength, lowByte_toNat short,
      Nat.mod_eq_of_lt (by omega), if_neg (by omega), if_neg (by omega)]
  · split
    · rename_i medium
      obtain ⟨taken, dropped⟩ := take_bigEndian 2 payload.length payload
      rw [List.cons_append, List.cons_append, declaredLength, if_pos (by decide), taken, dropped,
        bigEndianValue_bigEndian 2 _ (by omega)]
    · obtain ⟨taken, dropped⟩ := take_bigEndian 8 payload.length payload
      rw [List.cons_append, List.cons_append, declaredLength, if_neg (by decide), if_pos (by decide), taken, dropped,
        bigEndianValue_bigEndian 8 _ (by omega)]

/-- Without a reason, the frame ends after it has declared two bytes. -/
theorem closeFrame_bare (statusCode : UInt16) (reason : Option Reason)
    (empty : ∀ text, reason = some text → text.val = []) :
    (closeFrame statusCode reason).bytes = [0x88, 0x02] := by
  unfold closeFrame
  cases reason with
  | none => rfl
  | some text =>
      dsimp only
      rw [if_pos (empty text rfl)]
      rfl

/-- The reason is cut to 125 bytes, with the status code not counted. -/
theorem closeFrame_reason (statusCode : UInt16) (text : Reason) (present : text.val ≠ []) :
    (closeFrame statusCode (some text)).stored.length = 4 + min text.val.length 125 ∧
    (closeFrame statusCode (some text)).bytes = 0x88 :: UInt8.ofNat (2 + min text.val.length 125) ::
      (bigEndian 2 statusCode.toNat ++ text.val.take (min text.val.length 125)) := by
  have length := bigEndian_length 2 statusCode.toNat
  have stored : (closeFrame statusCode (some text)).stored.length = 4 + min text.val.length 125 := by
    unfold closeFrame
    dsimp only
    rw [if_neg present, List.length_append, List.length_append, List.length_take, length]
    have two : [(0x88 : UInt8), UInt8.ofNat (2 + min text.val.length 125)].length = 2 := rfl
    omega
  refine ⟨stored, ?_⟩
  have whole : (closeFrame statusCode (some text)).closeFrameLen =
      (closeFrame statusCode (some text)).stored.length := by
    rw [stored]
    unfold closeFrame
    dsimp only
    rw [if_neg present]
  rw [CloseFrame.bytes, whole, List.take_length]
  unfold closeFrame
  dsimp only
  rw [if_neg present]
  rfl

/-- The frame fits its buffer and is well-formed only with a reason of 1 to 123 bytes. -/
theorem closeFrame_wellFormed_iff (statusCode : UInt16) (reason : Option Reason) :
    (closeFrame statusCode reason).stored.length ≤ closeFrameSize ∧
        WellFormedClose (closeFrame statusCode reason).bytes ↔
      ∃ text, reason = some text ∧ 1 ≤ text.val.length ∧ text.val.length ≤ 123 := by
  by_cases present : ∃ text, reason = some text ∧ text.val ≠ []
  · obtain ⟨text, rfl, nonempty⟩ := present
    obtain ⟨stored, bytes⟩ := closeFrame_reason statusCode text nonempty
    have positive := List.length_pos_iff.mpr nonempty
    have rest : (bigEndian 2 statusCode.toNat ++ text.val.take (min text.val.length 125)).length =
        2 + min text.val.length 125 := by
      rw [List.length_append, bigEndian_length, List.length_take]
      omega
    have second : (UInt8.ofNat (2 + min text.val.length 125)).toNat % 128 = 2 + min text.val.length 125 := by
      rw [UInt8.toNat_ofNat']
      omega
    rw [stored, bytes, WellFormedClose]
    constructor
    · rintro ⟨-, _, payload, same, -, control⟩
      cases same
      exact ⟨text, rfl, positive, by omega⟩
    · rintro ⟨_, same, -, short⟩
      cases same
      exact ⟨by rw [closeFrameSize]; omega, _, _, rfl, by omega, by omega⟩
  · push Not at present
    rw [closeFrame_bare statusCode reason present]
    constructor
    · rintro ⟨-, second, rest, same, declared, -⟩
      cases same
      exact absurd declared (by decide)
    · rintro ⟨text, same, positive, -⟩
      rw [present text same] at positive
      cases positive

end Frames

section Steps

variable (channel : Channel)

/-- A frame is sent successfully when the socket takes something of each of its parts. -/
theorem sendWebsocketFrame_success_iff (client : Client) (opcode : UInt8) (payload : List UInt8)
    (forHeader forPayload : SendAnswer) :
    (sendWebsocketFrame channel client opcode payload forHeader forPayload).1 = 0 ↔
      forHeader.taken (frameHeader opcode payload.length) ≠ [] ∧ (payload ≠ [] → forPayload.taken payload ≠ []) := by
  unfold sendWebsocketFrame
  dsimp only
  simp only [sent_le_zero_iff, List.length_pos_iff]
  split
  · rename_i nothing
    exact iff_of_false (show (-1 : Int) ≠ 0 by decide) fun both => both.1 nothing
  · rename_i something
    split
    · rename_i more
      split
      · rename_i nothing
        exact iff_of_false (show (-1 : Int) ≠ 0 by decide) fun both => both.2 more nothing
      · rename_i all
        exact iff_of_true rfl ⟨something, fun _ => all⟩
    · rename_i empty
      exact iff_of_true rfl ⟨something, fun more => absurd more empty⟩

theorem taken_nil (answer : SendAnswer) : answer.taken [] = [] := by
  cases answer with
  | takes count => exact List.take_nil
  | fails => rfl

/-- What the socket takes of a frame. -/
theorem sendWebsocketFrame_wire (client : Client) (opcode : UInt8) (payload : List UInt8)
    (forHeader forPayload : SendAnswer) :
    (sendWebsocketFrame channel client opcode payload forHeader forPayload).2.wire = channel.wire ++
      (forHeader.taken (frameHeader opcode payload.length) ++
        if forHeader.taken (frameHeader opcode payload.length) = [] then [] else forPayload.taken payload) := by
  unfold sendWebsocketFrame
  dsimp only
  simp only [sent_le_zero_iff, List.length_pos_iff]
  split
  · rename_i nothing
    rw [nothing, List.append_nil, List.append_nil]
  · split
    · split
      · rename_i nothing
        rw [nothing, List.append_nil]
        rfl
      · rfl
    · rename_i empty
      have bare := not_not.mp empty
      rw [bare, taken_nil, List.append_nil, List.append_nil]
      rfl

/-- Nothing is written to a client that is not open. -/
theorem perform_closed (closed : ¬ channel.Open) (call : WriterCall) :
    (perform channel call).1.wire = channel.wire ∧ (perform channel call).2 = [] := by
  unfold perform
  split
  · exact ⟨rfl, rfl⟩
  · rename_i client present
    have notOpen : client.state ≠ .open := fun state => closed ⟨client, present, state⟩
    cases call with
    | sendFrame opcode payload forHeader forPayload =>
        dsimp only
        rw [if_neg notOpen]
        exact ⟨rfl, rfl⟩
    | ping answer =>
        dsimp only
        rw [if_neg notOpen]
        exact ⟨rfl, rfl⟩
    | pong answer =>
        dsimp only
        rw [if_neg notOpen]
        exact ⟨rfl, rfl⟩
    | remove statusCode reason answer =>
        dsimp only
        rw [removeClient, if_neg notOpen]
        exact ⟨rfl, rfl⟩

/-- Nothing is added to the wire exactly when the socket takes nothing. -/
theorem silent_iff (frame : List UInt8) (answer : SendAnswer) :
    (channel.write frame (answer.taken frame)).wire = channel.wire ↔ answer.taken frame = [] :=
  List.append_right_eq_self

variable {client : Client}

theorem sendFrame_iff (present : channel.client = some client) (state : client.state = .open) (opcode : UInt8)
    (payload : List UInt8) (forHeader forPayload : SendAnswer) :
    WholeFrames channel (.sendFrame opcode payload forHeader forPayload) ↔
      TakesWhole channel (.sendFrame opcode payload forHeader forPayload) := by
  have performed : perform channel (.sendFrame opcode payload forHeader forPayload) =
      ((sendWebsocketFrame channel client opcode payload forHeader forPayload).2,
        [(sendWebsocketFrame channel client opcode payload forHeader forPayload).1]) := by
    unfold perform
    rw [present]
    dsimp only
    rw [if_pos state]
  have wire := sendWebsocketFrame_wire channel client opcode payload forHeader forPayload
  have success := sendWebsocketFrame_success_iff channel client opcode payload forHeader forPayload
  have whole := prefixes_whole (taken_isFront forHeader (frameHeader opcode payload.length))
    (taken_isFront forPayload payload)
  constructor
  · rintro ⟨complete, -, silent, -⟩ -
    rw [performed] at complete silent
    refine ⟨fun torn => ?_, fun something more => ?_⟩
    · have nothing := List.append_right_eq_self.mp (wire.symm.trans (silent torn))
      exact (List.append_eq_nil_iff.mp nothing).1
    · have done := complete opcode payload forHeader forPayload rfl
        (List.mem_singleton.mpr (success.mpr ⟨something, more⟩).symm)
      rw [wire, if_neg something] at done
      exact whole.mp (List.append_cancel_left done)
  · intro takes
    obtain ⟨silent, all⟩ := takes ⟨client, present, state⟩
    constructor
    · rintro _ _ _ _ same succeeded
      cases same
      rw [performed] at succeeded ⊢
      obtain ⟨something, more⟩ := success.mp (List.mem_singleton.mp succeeded).symm
      rw [wire, if_neg something, whole.mpr (all something more)]
    · rintro _ _ _ _ same
      cases same
      exact frameHeader_declares opcode payload
    · intro torn
      rw [performed, wire, if_pos (silent torn), silent torn, List.append_nil, List.append_nil]
    · rintro _ _ _ same
      cases same

/-- A call that writes one frame with one `send` is only silent after a part of a frame if nothing is taken. -/
theorem keepAlive_iff (call : WriterCall) (frame : List UInt8) (answer : SendAnswer)
    (performed : perform channel call = (channel.write frame (answer.taken frame), []))
    (sends : ∀ opcode payload forHeader forPayload, call ≠ .sendFrame opcode payload forHeader forPayload)
    (removes : ∀ statusCode reason answer, call ≠ .remove statusCode reason answer) :
    WholeFrames channel call ↔ (channel.torn = true → answer.taken frame = []) := by
  have silent := silent_iff channel frame answer
  constructor
  · intro whole torn
    have quiet := whole.silent torn
    rw [performed] at quiet
    exact silent.mp quiet
  · intro takes
    refine ⟨fun _ _ _ _ same => absurd same (sends _ _ _ _), fun _ _ _ _ same => absurd same (sends _ _ _ _), ?_,
      fun _ _ _ same => absurd same (removes _ _ _)⟩
    intro torn
    rw [performed]
    exact silent.mpr (takes torn)

theorem remove_iff (present : channel.client = some client) (state : client.state = .open) (statusCode : UInt16)
    (reason : Option Reason) (answer : SendAnswer) :
    WholeFrames channel (.remove statusCode reason answer) ↔
      TakesWhole channel (.remove statusCode reason answer) := by
  have wire : (perform channel (.remove statusCode reason answer)).1.wire =
      channel.wire ++ answer.taken (closeFrame statusCode reason).bytes := by
    unfold perform
    rw [present]
    dsimp only
    rw [removeClient, if_pos state]
    rfl
  have formed := closeFrame_wellFormed_iff statusCode reason
  constructor
  · rintro ⟨-, -, silent, close⟩ isOpen
    refine ⟨fun torn => ?_, formed.mp (close statusCode reason answer rfl isOpen)⟩
    exact List.append_right_eq_self.mp (wire.symm.trans (silent torn))
  · intro takes
    obtain ⟨silent, right⟩ := takes ⟨client, present, state⟩
    refine ⟨fun _ _ _ _ same => ?_, fun _ _ _ _ same => ?_, fun torn => ?_, fun _ _ _ same _ => ?_⟩
    · cases same
    · cases same
    · rw [wire, silent torn, List.append_nil]
    · cases same
      exact formed.mpr right

/-- One call keeps to whole frames exactly when the socket and the caller do. -/
theorem wholeFrames_iff (call : WriterCall) : WholeFrames channel call ↔ TakesWhole channel call := by
  by_cases isOpen : channel.Open
  · obtain ⟨client, present, state⟩ := isOpen
    cases call with
    | sendFrame opcode payload forHeader forPayload =>
        exact sendFrame_iff channel present state opcode payload forHeader forPayload
    | ping answer =>
        have performed : perform channel (.ping answer) = (channel.write pingFrame (answer.taken pingFrame), []) := by
          rw [perform, present]
          exact if_pos state
        refine (keepAlive_iff channel _ _ answer performed nofun nofun).trans ?_
        exact ⟨fun silent _ => silent, fun takes => takes ⟨client, present, state⟩⟩
    | pong answer =>
        have performed : perform channel (.pong answer) = (channel.write pongFrame (answer.taken pongFrame), []) := by
          rw [perform, present]
          exact if_pos state
        refine (keepAlive_iff channel _ _ answer performed nofun nofun).trans ?_
        exact ⟨fun silent _ => silent, fun takes => takes ⟨client, present, state⟩⟩
    | remove statusCode reason answer => exact remove_iff channel present state statusCode reason answer
  · obtain ⟨wire, outputs⟩ := perform_closed channel isOpen call
    refine iff_of_true ⟨?_, ?_, ?_, ?_⟩ fun isOpen' => absurd isOpen' isOpen
    · rintro _ _ _ _ - succeeded
      rw [outputs] at succeeded
      cases succeeded
    · intro opcode payload _ _ _
      exact frameHeader_declares opcode payload
    · exact fun _ => wire
    · exact fun _ _ _ _ isOpen' => absurd isOpen' isOpen

end Steps

/-- Over every sequence of calls, the writers keep to whole and well-formed frames
exactly as long as the socket takes whole frames and the reasons are of the right length. -/
theorem writers_iff (channel : Channel) (calls : List WriterCall) :
    writerMachine.Along WholeFrames channel calls ↔ writerMachine.Along TakesWhole channel calls :=
  Machine.along_iff_along _ _ _ (fun _ => True) (fun channel call _ => wholeFrames_iff channel call)
    (fun _ _ _ _ => trivial) channel calls trivial

/-- A socket that takes 4 bytes of the payload, and so a successful part of a frame. -/
theorem writers_short_fails :
    ¬ writerMachine.Along WholeFrames ⟨some ⟨.open, 0, 0⟩, [], false⟩
      [.sendFrame wsOpcodeText [0x68, 0x65, 0x6C, 0x6C, 0x6F] (.takes 2) (.takes 4)] := by
  rintro ⟨whole, -⟩
  obtain ⟨-, all⟩ := (wholeFrames_iff _ _).mp whole ⟨_, rfl, rfl⟩
  exact absurd (all (by decide) fun _ => by decide) (by decide)

end SecureChat.WebSocket.Writer
