import SecureChat.Proof.Server.RoundTrip

namespace SecureChat.Server
open Library Protocol

/-- The rate limiter and the number of clock readings before it. -/
@[ext]
structure Meter where
  reads : Nat
  limiter : RateLimiter
  deriving DecidableEq

section Meters

variable (clock : Nat → UInt64)

/-- What `check_rate_limit_reset` does to the limiter. -/
def Meter.reset (meter : Meter) : Meter :=
  if 60000 ≤ clock meter.reads - meter.limiter.lastResetTime then
    ⟨meter.reads + 2, { meter.limiter with
      lastResetTime := clock (meter.reads + 1), messageCount := 0, byteCount := 0 }⟩
  else ⟨meter.reads + 1, meter.limiter⟩

/-- What `update_rate_limiter` does to the limiter. -/
def Meter.update (meter : Meter) (size : Nat) : Meter :=
  let checked := meter.reset clock
  ⟨checked.reads, { checked.limiter with
    messageCount := checked.limiter.messageCount + 1
    byteCount := checked.limiter.byteCount + UInt32.ofNat size }⟩

/-- A successful send reads the clock for `last_activity` before it updates the limiter. -/
def Meter.charge (meter : Meter) (size : Nat) : Meter :=
  Meter.update clock ⟨meter.reads + 1, meter.limiter⟩ size

/-- The comparisons of `connection_check_rate_limit`. A limit of zero admits everything. -/
def Meter.Admits (meter : Meter) (size : Nat) : Prop :=
  ¬ (0 < meter.limiter.messagesPerMinute ∧ meter.limiter.messagesPerMinute ≤ meter.limiter.messageCount) ∧
    ¬ (0 < meter.limiter.bytesPerMinute ∧
      meter.limiter.bytesPerMinute.toNat < meter.limiter.byteCount.toNat + size)

instance (meter : Meter) (size : Nat) : Decidable (meter.Admits size) :=
  inferInstanceAs (Decidable (_ ∧ _))

end Meters

def Host.meter (host : Host) : Meter := ⟨host.world.clockReads, host.conn.rateLimiter⟩

/-- The same host with another limiter after more readings of the clock. -/
def Host.setMeter (host : Host) (meter : Meter) : Host :=
  ⟨{ host.conn with rateLimiter := meter.limiter }, { host.world with clockReads := meter.reads }⟩

@[simp] theorem setMeter_meter (host : Host) (meter : Meter) : (host.setMeter meter).meter = meter := rfl

@[simp] theorem setMeter_clock (host : Host) (meter : Meter) :
    (host.setMeter meter).world.clock = host.world.clock := rfl

@[simp] theorem setMeter_socket (host : Host) (meter : Meter) :
    (host.setMeter meter).world.socket = host.world.socket := rfl

@[simp] theorem setMeter_wire (host : Host) (meter : Meter) :
    (host.setMeter meter).world.wire = host.world.wire := rfl

@[simp] theorem setMeter_fd (host : Host) (meter : Meter) :
    (host.setMeter meter).conn.fd = host.conn.fd := rfl

section Calls

theorem checkRateLimitReset_meter (host : Host) :
    checkRateLimitReset host = host.setMeter (host.meter.reset host.world.clock) := by
  by_cases elapsed : 60000 ≤ host.world.clock host.world.clockReads - host.conn.rateLimiter.lastResetTime
  · simp only [checkRateLimitReset, getCurrentTimestampMs, Meter.reset, Host.meter, elapsed, if_true]
    rfl
  · simp only [checkRateLimitReset, getCurrentTimestampMs, Meter.reset, Host.meter, elapsed, if_false]
    rfl

theorem updateRateLimiter_meter (host : Host) (messageSize : Nat) :
    updateRateLimiter host messageSize =
      host.setMeter (host.meter.update host.world.clock messageSize) := by
  simp only [updateRateLimiter, checkRateLimitReset_meter]
  rfl

/-- The check resets the window and then compares. -/
theorem connectionCheckRateLimit_meter (host : Host) (messageSize : Nat) :
    connectionCheckRateLimit host messageSize =
      (decide ((host.meter.reset host.world.clock).Admits messageSize),
        host.setMeter (host.meter.reset host.world.clock)) := by
  simp only [connectionCheckRateLimit, checkRateLimitReset_meter]
  generalize host.meter.reset host.world.clock = meter
  split
  · rename_i full
    rw [decide_eq_false fun admits : meter.Admits messageSize => admits.1 full]
  · rename_i messages
    split
    · rename_i full
      rw [decide_eq_false fun admits : meter.Admits messageSize => admits.2 full]
    · rename_i bytes
      rw [decide_eq_true (show meter.Admits messageSize from ⟨messages, bytes⟩)]

/-- A call that the limiter refuses has only read the clock. -/
theorem connectionSend_refused (host : Host) (data : List UInt8) (opened : host.conn.fd ≠ -1)
    (present : data.length ≠ 0) (refused : ¬ (host.meter.reset host.world.clock).Admits data.length) :
    connectionSend host data = (-2, host.setMeter (host.meter.reset host.world.clock)) := by
  simp [connectionSend, opened, present, connectionCheckRateLimit_meter, refused]

/-- The loop does not read the clock. -/
theorem sendLoop_clock (fuel : Nat) (data : List UInt8) (world : World) :
    (sendLoop fuel data world).2.clock = world.clock ∧
      (sendLoop fuel data world).2.socket = world.socket ∧
      (sendLoop fuel data world).2.clockReads = world.clockReads := by
  induction fuel generalizing data world with
  | zero => exact ⟨rfl, rfl, rfl⟩
  | succ fuel ih =>
      rw [sendLoop]
      split
      · exact ⟨rfl, rfl, rfl⟩
      · dsimp only
        split
        · exact ih _ _
        · exact ⟨rfl, rfl, rfl⟩
        · exact ⟨rfl, rfl, rfl⟩

/-- What an admitted call does is decided by the loop. -/
theorem connectionSend_admitted (host : Host) (data : List UInt8) (opened : host.conn.fd ≠ -1)
    (present : data.length ≠ 0) (admitted : (host.meter.reset host.world.clock).Admits data.length) :
    let checked := host.setMeter (host.meter.reset host.world.clock)
    let written := sendLoop data.length data checked.world
    connectionSend host data =
      match written.1 with
      | none => (-1, { checked with world := written.2 })
      | some 0 => (0, { checked with world := written.2 })
      | some (total + 1) =>
          (total + 1, updateRateLimiter ⟨{ checked.conn with
            bytesSent := checked.conn.bytesSent + UInt64.ofNat (total + 1)
            lastActivity := (getCurrentTimestampMs written.2).1 }, (getCurrentTimestampMs written.2).2⟩
            (total + 1)) := by
  simp only [connectionSend, opened, present, connectionCheckRateLimit_meter, admitted, sendLoop_either,
    or_self, if_false, decide_true, Bool.not_true, Bool.false_eq_true] <;> rfl

/-- A call that reports some bytes has charged the limiter with them. -/
theorem connectionSend_charged (host : Host) (data : List UInt8) (opened : host.conn.fd ≠ -1)
    (present : data.length ≠ 0) (admitted : (host.meter.reset host.world.clock).Admits data.length)
    (total : Nat) (sent : (sendLoop data.length data
      (host.setMeter (host.meter.reset host.world.clock)).world).1 = some (total + 1)) :
    (connectionSend host data).1 = total + 1 ∧
      (connectionSend host data).2.meter =
        (host.meter.reset host.world.clock).charge host.world.clock (total + 1) ∧
      (connectionSend host data).2.conn.fd = host.conn.fd ∧
      (connectionSend host data).2.world.wire = (sendLoop data.length data
        (host.setMeter (host.meter.reset host.world.clock)).world).2.wire ∧
      (connectionSend host data).2.world.clock = host.world.clock ∧
      (connectionSend host data).2.world.socket = host.world.socket ∧
      (connectionSend host data).2.conn.lastActivity =
        host.world.clock (host.meter.reset host.world.clock).reads := by
  obtain ⟨clock, socket, reads⟩ := sendLoop_clock data.length data
    (host.setMeter (host.meter.reset host.world.clock)).world
  have outcome := connectionSend_admitted host data opened present admitted
  dsimp only at outcome
  rw [sent] at outcome
  rw [outcome]
  simp only [updateRateLimiter_meter, true_and]
  refine ⟨?_, rfl, rfl, clock, socket, ?_⟩
  · show Meter.update (sendLoop data.length data _).2.clock ⟨(sendLoop data.length data _).2.clockReads + 1,
      (host.meter.reset host.world.clock).limiter⟩ (total + 1) = _
    rw [clock, reads]
    rfl
  · show (sendLoop data.length data _).2.clock (sendLoop data.length data _).2.clockReads = _
    rw [clock, reads]
    rfl

/-- The socket takes something in every call. -/
def World.Accepts (world : World) : Prop := ∀ index, ∃ more, world.socket index = .takes more

/-- A socket that always takes something takes everything in the end. -/
theorem sendLoop_accepts (fuel : Nat) (data : List UInt8) (world : World) (enough : data.length ≤ fuel)
    (accepts : world.Accepts) : (sendLoop fuel data world).1 = some data.length := by
  induction fuel generalizing data world with
  | zero =>
      rw [Nat.le_zero.mp enough]
      rfl
  | succ fuel ih =>
      rw [sendLoop]
      split
      · rename_i empty
        rw [empty]
      · rename_i present
        obtain ⟨more, taken⟩ := accepts world.socketWrites
        rw [taken]
        dsimp only
        generalize counted : min (more + 1) data.length = count
        have taking : 0 < count ∧ count ≤ data.length := by omega
        have rest := ih (data.drop count)
          { world with socketWrites := world.socketWrites + 1, wire := world.wire ++ data.take count }
          (by rw [List.length_drop]; omega) accepts
        rw [rest, List.length_drop, Option.map_some, Nat.sub_add_cancel taking.2]

/-- A call that the limiter admits writes everything if the socket does. -/
theorem connectionSend_accepts (host : Host) (data : List UInt8) (opened : host.conn.fd ≠ -1)
    (present : data.length ≠ 0) (accepts : host.world.Accepts)
    (admitted : (host.meter.reset host.world.clock).Admits data.length) :
    (connectionSend host data).1 = data.length ∧
      (connectionSend host data).2.meter =
        (host.meter.reset host.world.clock).charge host.world.clock data.length ∧
      (connectionSend host data).2.conn.fd = host.conn.fd ∧
      (connectionSend host data).2.world.wire = host.world.wire ++ data ∧
      (connectionSend host data).2.world.clock = host.world.clock ∧
      (connectionSend host data).2.world.socket = host.world.socket := by
  have total := sendLoop_accepts data.length data
    (host.setMeter (host.meter.reset host.world.clock)).world (Nat.le_refl _) accepts
  have wire := (sendLoop_wire _ _ _ _ total).2
  obtain ⟨count, counted⟩ := Nat.exists_eq_succ_of_ne_zero present
  obtain ⟨result, meter, descriptor, written, clock, socket, -⟩ := connectionSend_charged host data opened
    present admitted count (total.trans (congrArg some counted))
  rw [List.take_length] at wire
  refine ⟨?_, ?_, descriptor, written.trans wire, clock, socket⟩
  · rw [result, counted]
    rfl
  · rw [meter, counted]

end Calls

section Messages

variable (codec : HeaderCodec)

/-- The bytes of the message that a call of `connection_send_message` is about. -/
def encodedMessage (host : Host) (messageType : UInt32) (data : List UInt8) : List UInt8 :=
  messageBytes codec messageType data (host.world.clock host.world.clockReads)
    (host.conn.messagesSent + 1).toUInt64

/-- The whole message is written and zero is returned, or nothing is written. -/
def AllOrNothing (host : Host) (messageType : UInt32) (data : List UInt8) : Prop :=
  let outcome := connectionSendMessage codec host messageType data
  (outcome.1 = 0 ∧ outcome.2.world.wire = host.world.wire ++ encodedMessage codec host messageType data) ∨
    outcome.2.world.wire = host.world.wire

/-- The limiter as the check of the header finds it, after the timestamp of the message. -/
def headerMeter (host : Host) : Meter :=
  Meter.reset host.world.clock ⟨host.world.clockReads + 1, host.conn.rateLimiter⟩

/-- The limiter as the check of the body finds it, with the header charged as a message of its own. -/
def bodyMeter (host : Host) : Meter :=
  ((headerMeter host).charge host.world.clock headerSize).reset host.world.clock

/-- The limiter admits the header and then refuses the body. -/
def RefusesBody (host : Host) (data : List UInt8) : Prop :=
  (headerMeter host).Admits headerSize ∧ ¬ (bodyMeter host).Admits data.length

/-- The host after the timestamp and the number of a message are taken. -/
def startMessage (host : Host) : Host :=
  ⟨{ host.conn with messagesSent := host.conn.messagesSent + 1 }, (getCurrentTimestampMs host.world).2⟩

/-- The header of the message that a call is about. -/
def currentHeader (host : Host) (messageType : UInt32) (data : List UInt8) : MessageHeader :=
  outgoingHeader codec messageType data (host.world.clock host.world.clockReads)
    (host.conn.messagesSent + 1).toUInt64

def encodedHeader (host : Host) (messageType : UInt32) (data : List UInt8) : List UInt8 :=
  codec.serializeMessageHeader (currentHeader codec host messageType data)

theorem encodedHeader_length (host : Host) (messageType : UInt32) (data : List UInt8) :
    (encodedHeader codec host messageType data).length = headerSize := codec.serialize_length _

/-- A message within the limit sends its header and then its body. -/
theorem connectionSendMessage_within (host : Host) (messageType : UInt32) (data : List UInt8)
    (fits : data.length ≤ maxMessageSize) :
    connectionSendMessage codec host messageType data =
      let first := connectionSend (startMessage host) (encodedHeader codec host messageType data)
      if first.1 ≠ headerSize then (-3, first.2)
      else if 0 < data.length then
        if (connectionSend first.2 data).1 ≠ data.length then (-4, (connectionSend first.2 data).2)
        else (0, recordSent (connectionSend first.2 data).2 (currentHeader codec host messageType data) data)
      else (0, recordSent first.2 (currentHeader codec host messageType data) data) := by
  simp only [connectionSendMessage, if_neg (Nat.not_lt.mpr fits), startMessage, encodedHeader, currentHeader,
    getCurrentTimestampMs] <;> rfl

/-- A message whose header fails writes what the header has written. -/
theorem connectionSendMessage_headerFails (host : Host) (messageType : UInt32) (data : List UInt8)
    (fits : data.length ≤ maxMessageSize)
    (failed : (connectionSend (startMessage host) (encodedHeader codec host messageType data)).1 ≠ headerSize) :
    connectionSendMessage codec host messageType data =
      (-3, (connectionSend (startMessage host) (encodedHeader codec host messageType data)).2) := by
  rw [connectionSendMessage_within codec host messageType data fits]
  exact if_pos failed

/-- A message whose header is written continues with its body. -/
theorem connectionSendMessage_headerSent (host : Host) (messageType : UInt32) (data : List UInt8)
    (fits : data.length ≤ maxMessageSize)
    (written : (connectionSend (startMessage host) (encodedHeader codec host messageType data)).1 = headerSize) :
    let next := (connectionSend (startMessage host) (encodedHeader codec host messageType data)).2
    connectionSendMessage codec host messageType data =
      if 0 < data.length then
        if (connectionSend next data).1 ≠ data.length then (-4, (connectionSend next data).2)
        else (0, recordSent (connectionSend next data).2 (currentHeader codec host messageType data) data)
      else (0, recordSent next (currentHeader codec host messageType data) data) := by
  rw [connectionSendMessage_within codec host messageType data fits]
  exact if_neg (not_not.mpr written)

theorem encodedHeader_present (host : Host) (messageType : UInt32) (data : List UInt8) :
    (encodedHeader codec host messageType data).length ≠ 0 := by
  rw [encodedHeader_length]
  decide

/-- A message that is too long, has no connection or is refused with its header leaves nothing behind. -/
theorem connectionSendMessage_silent (host : Host) (messageType : UInt32) (data : List UInt8)
    (silent : maxMessageSize < data.length ∨ host.conn.fd = -1 ∨ ¬ (headerMeter host).Admits headerSize) :
    (connectionSendMessage codec host messageType data).2.world.wire = host.world.wire := by
  by_cases long : maxMessageSize < data.length
  · rw [connectionSendMessage, if_pos long]
  have fits : data.length ≤ maxMessageSize := Nat.le_of_not_lt long
  by_cases closed : host.conn.fd = -1
  · have failed : connectionSend (startMessage host) (encodedHeader codec host messageType data) =
        (-1, startMessage host) := if_pos (.inl closed)
    rw [connectionSendMessage_headerFails codec host messageType data fits (by simp [failed, headerSize]),
      failed]
    rfl
  have refused := (silent.resolve_left long).resolve_left closed
  have failed := connectionSend_refused (startMessage host) (encodedHeader codec host messageType data)
    closed (encodedHeader_present codec host messageType data) (by rw [encodedHeader_length]; exact refused)
  rw [connectionSendMessage_headerFails codec host messageType data fits (by simp [failed, headerSize]), failed]
  rfl

section Admitted

variable (host : Host) (messageType : UInt32) (data : List UInt8) (fits : data.length ≤ maxMessageSize)
  (opened : host.conn.fd ≠ -1) (accepts : host.world.Accepts)
  (admitted : (headerMeter host).Admits headerSize)

include opened accepts admitted in
/-- An admitted header is written, and the check of the body comes next. -/
theorem connectionSend_encodedHeader :
    let first := connectionSend (startMessage host) (encodedHeader codec host messageType data)
    first.1 = headerSize ∧ first.2.world.wire = host.world.wire ++ encodedHeader codec host messageType data ∧
      first.2.meter.reset first.2.world.clock = bodyMeter host ∧ first.2.conn.fd ≠ -1 ∧
      first.2.world.Accepts := by
  have measured := encodedHeader_length codec host messageType data
  obtain ⟨result, meter, descriptor, wire, clock, socket⟩ := connectionSend_accepts (startMessage host)
    (encodedHeader codec host messageType data) opened (encodedHeader_present codec host messageType data)
    accepts (by rw [measured]; exact admitted)
  refine ⟨by rw [result, measured], wire, ?_, ?_, ?_⟩
  · rw [meter, clock, measured]
    rfl
  · rw [descriptor]
    exact opened
  · rw [World.Accepts, socket]
    exact accepts

include fits opened accepts admitted in
/-- A message without a body or with an admitted one is written as a whole. -/
theorem connectionSendMessage_whole (whole : data = [] ∨ (bodyMeter host).Admits data.length) :
    (connectionSendMessage codec host messageType data).1 = 0 ∧
      (connectionSendMessage codec host messageType data).2.world.wire =
        host.world.wire ++ encodedMessage codec host messageType data := by
  obtain ⟨result, wire, checking, connected, accepting⟩ :=
    connectionSend_encodedHeader codec host messageType data opened accepts admitted
  rw [connectionSendMessage_headerSent codec host messageType data fits result]
  generalize (connectionSend (startMessage host) (encodedHeader codec host messageType data)).2 = next
    at wire checking connected accepting
  show _ ∧ _ = host.world.wire ++ (encodedHeader codec host messageType data ++ data)
  by_cases empty : data = []
  · rw [if_neg (by rw [empty]; decide)]
    refine ⟨rfl, ?_⟩
    show next.world.wire = _
    rw [wire, empty, List.append_nil]
  · have present : data.length ≠ 0 := fun zero => empty (List.eq_nil_of_length_eq_zero zero)
    obtain ⟨sent, -, -, written, -, -⟩ := connectionSend_accepts next data connected present accepting
      (by rw [checking]; exact whole.resolve_left empty)
    rw [if_pos (Nat.pos_of_ne_zero present), if_neg (not_not.mpr sent)]
    refine ⟨rfl, ?_⟩
    show (connectionSend next data).2.world.wire = _
    rw [written, wire, List.append_assoc]

include fits opened accepts admitted in
/-- A message with a refused body leaves its header behind. -/
theorem connectionSendMessage_cut (present : data ≠ []) (refused : ¬ (bodyMeter host).Admits data.length) :
    (connectionSendMessage codec host messageType data).1 = -4 ∧
      (connectionSendMessage codec host messageType data).2.world.wire =
        host.world.wire ++ encodedHeader codec host messageType data := by
  obtain ⟨result, wire, checking, connected, accepting⟩ :=
    connectionSend_encodedHeader codec host messageType data opened accepts admitted
  rw [connectionSendMessage_headerSent codec host messageType data fits result]
  generalize (connectionSend (startMessage host) (encodedHeader codec host messageType data)).2 = next
    at wire checking connected
  have nonempty : data.length ≠ 0 := fun zero => present (List.eq_nil_of_length_eq_zero zero)
  have silent := connectionSend_refused next data connected nonempty (by rw [checking]; exact refused)
  rw [if_pos (Nat.pos_of_ne_zero nonempty), if_pos (by simp [silent]), silent]
  exact ⟨rfl, wire⟩

end Admitted

/-- If the socket accepts all bytes, a message is written as a whole or not at all
exactly unless an open connection refuses the body after it has admitted the header. -/
theorem connectionSendMessage_allOrNothing_iff (host : Host) (messageType : UInt32) (data : List UInt8)
    (accepts : host.world.Accepts) :
    AllOrNothing codec host messageType data ↔
      maxMessageSize < data.length ∨ host.conn.fd = -1 ∨ data = [] ∨ ¬ RefusesBody host data := by
  by_cases silent : maxMessageSize < data.length ∨ host.conn.fd = -1 ∨ ¬ (headerMeter host).Admits headerSize
  · apply iff_of_true (.inr (connectionSendMessage_silent codec host messageType data silent))
    rcases silent with long | closed | refused
    · exact .inl long
    · exact .inr (.inl closed)
    · exact .inr (.inr (.inr fun refuses => refused refuses.1))
  · rw [not_or, not_or, not_not] at silent
    obtain ⟨fits, opened, admitted⟩ := silent
    rw [Nat.not_lt] at fits
    by_cases whole : data = [] ∨ (bodyMeter host).Admits data.length
    · apply iff_of_true
      · exact .inl (connectionSendMessage_whole codec host messageType data fits opened accepts admitted whole)
      · rcases whole with empty | admits
        · exact .inr (.inr (.inl empty))
        · exact .inr (.inr (.inr fun refuses => refuses.2 admits))
    · rw [not_or] at whole
      obtain ⟨result, wire⟩ := connectionSendMessage_cut codec host messageType data fits opened accepts
        admitted whole.1 whole.2
      apply iff_of_false
      · rintro (⟨zero, -⟩ | same)
        · rw [result] at zero
          simp at zero
        · rw [wire, List.append_right_eq_self] at same
          exact encodedHeader_present codec host messageType data (congrArg List.length same)
      · rintro (long | closed | empty | fine)
        · exact Nat.not_lt.mpr fits long
        · exact opened closed
        · exact whole.1 empty
        · exact fine ⟨admitted, whole.2⟩

/-- A message of which the limiter admits the header and the body is written as a whole. -/
theorem connectionSendMessage_allOrNothing_whole :
    AllOrNothing networkCodec sampleHost msgSystemHeartbeat [1, 2, 3, 4, 5, 6, 7, 8] :=
  (connectionSendMessage_allOrNothing_iff networkCodec sampleHost msgSystemHeartbeat
    [1, 2, 3, 4, 5, 6, 7, 8] (fun _ => ⟨65535, rfl⟩)).mpr (.inr (.inr (.inr fun refuses =>
      refuses.2 (by decide +kernel))))

/-- A connection that has sent all but one of the messages that it may send in this minute. -/
def almostFullHost : Host :=
  { sampleHost with conn := { sampleHost.conn with rateLimiter := ⟨60, 1024 * 1024, 0, 59, 0⟩ } }

/-- The header is the last message of the minute, and the body is refused. -/
theorem connectionSendMessage_allOrNothing_fails :
    almostFullHost.world.Accepts ∧ ¬ AllOrNothing networkCodec almostFullHost msgSystemHeartbeat [1] := by
  constructor
  · exact fun _ => ⟨65535, rfl⟩
  · rw [AllOrNothing]
    decide +kernel

end Messages

end SecureChat.Server
