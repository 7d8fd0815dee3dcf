import Mathlib.Algebra.Ring.Nat
import SecureChat.Library.RateLimits
import SecureChat.Proof.Server.RateLimit

namespace SecureChat.Server
open Library Protocol

/-- One call of `connection_send` with its first reading of the clock and the one after its writing. -/
structure SendTrace where
  first : UInt64
  finish : UInt64
  result : Int
  written : Nat
  deriving DecidableEq, Repr

/-- The calls of `connection_send` on one connection, one at a time. -/
def callMachine : Machine Host (List UInt8) SendTrace where
  step host data :=
    let outcome := connectionSend host data
    let first := host.world.clock host.world.clockReads
    (outcome.2, [⟨first, if 0 < outcome.1 then outcome.2.conn.lastActivity else first, outcome.1,
      outcome.2.world.wire.length - host.world.wire.length⟩])

/-- The call may have been under way at some time of the interval. -/
def SendTrace.Meets (low high : Nat) (trace : SendTrace) : Prop :=
  trace.first.toNat ≤ high ∧ low ≤ trace.finish.toNat

instance (low high : Nat) (trace : SendTrace) : Decidable (trace.Meets low high) :=
  inferInstanceAs (Decidable (_ ∧ _))

/-- The number of sends that were accepted in the interval. -/
def acceptedIn (low high : Nat) (traces : List SendTrace) : Nat :=
  traces.countP fun trace => trace.Meets low high ∧ 0 < trace.result

/-- The number of bytes that were written in the interval. -/
def writtenIn (low high : Nat) (traces : List SendTrace) : Nat :=
  ((traces.filter fun trace => trace.Meets low high).map SendTrace.written).sum

/-- Both counters are within their limits. -/
def WithinLimits (limiter : RateLimiter) : Prop :=
  limiter.messageCount ≤ limiter.messagesPerMinute ∧ limiter.byteCount ≤ limiter.bytesPerMinute

/-- The limiter has been in use before the next reading of the clock. -/
structure Meter.Running (clock : Nat → UInt64) (meter : Meter) : Prop where
  messages : 0 < meter.limiter.messagesPerMinute
  bytes : 0 < meter.limiter.bytesPerMinute
  started : meter.limiter.lastResetTime ≤ clock meter.reads
  within : WithinLimits meter.limiter

/-- The socket takes a part of the data and then fails. -/
def FailsPartway (host : Host) (data : List UInt8) : Prop :=
  ∃ parts : List Nat, parts ≠ [] ∧ (parts.map (· + 1)).sum < data.length ∧
    (∀ index (bound : index < parts.length),
      host.world.socket (host.world.socketWrites + index) = .takes (parts.get ⟨index, bound⟩)) ∧
    host.world.socket (host.world.socketWrites + parts.length) = .failed

/-- The connection is open and the limiter admits the data. -/
def Admitted (host : Host) (data : List UInt8) : Prop :=
  host.conn.fd ≠ -1 ∧ data.length ≠ 0 ∧ (host.meter.reset host.world.clock).Admits data.length

/-- An admitted call does not fail in the middle of its data. -/
def FailsClean (host : Host) (data : List UInt8) : Prop := Admitted host data → ¬ FailsPartway host data

section Loop

/-- A loop that fails has written the parts that the socket took before. -/
theorem sendLoop_failed (fuel : Nat) (data : List UInt8) (world : World)
    (failed : (sendLoop fuel data world).1 = none) :
    ∃ parts : List Nat, (parts.map (· + 1)).sum < data.length ∧
      (∀ index (bound : index < parts.length),
        world.socket (world.socketWrites + index) = .takes (parts.get ⟨index, bound⟩)) ∧
      world.socket (world.socketWrites + parts.length) = .failed ∧
      (sendLoop fuel data world).2.wire = world.wire ++ data.take (parts.map (· + 1)).sum := by
  induction fuel generalizing data world with
  | zero => cases failed
  | succ fuel ih =>
      rw [sendLoop] at failed ⊢
      split at failed
      · cases failed
      · rename_i present
        rw [if_neg present]
        dsimp only at failed ⊢
        split at failed
        · rename_i more taken
          generalize counted : min (more + 1) data.length = count at failed ⊢
          obtain ⟨parts, fewer, replies, last, wire⟩ := ih (data.drop count)
            { world with socketWrites := world.socketWrites + 1, wire := world.wire ++ data.take count }
            (Option.map_eq_none_iff.mp failed)
          rw [List.length_drop] at fewer
          dsimp only at replies last wire ⊢
          have whole : count = more + 1 := by omega
          refine ⟨more :: parts, ?_, ?_, ?_, ?_⟩
          · rw [List.map_cons, List.sum_cons]
            omega
          · intro index bound
            cases index with
            | zero => exact taken
            | succ index =>
                have reply := replies index (Nat.lt_of_succ_lt_succ bound)
                rw [Nat.add_right_comm] at reply
                exact reply
          · rw [Nat.add_right_comm] at last
            exact last
          · rw [wire, List.map_cons, List.sum_cons, ← whole, List.take_add, List.append_assoc]
        · cases failed
        · rename_i refused
          exact ⟨[], by simpa using Nat.pos_of_ne_zero present, by simp, refused, by simp⟩

/-- A loop that fails cleanly has written nothing. -/
theorem sendLoop_clean (host : Host) (data : List UInt8) (meter : Meter)
    (clean : ¬ FailsPartway host data)
    (failed : (sendLoop data.length data (host.setMeter meter).world).1 = none) :
    (sendLoop data.length data (host.setMeter meter).world).2.wire = host.world.wire := by
  obtain ⟨parts, fewer, replies, last, wire⟩ := sendLoop_failed _ _ _ failed
  by_cases empty : parts = []
  · rw [wire, empty]
    simp
  · exact absurd ⟨parts, empty, fewer, replies, last⟩ clean

end Loop

section Calls

/-- A call that has sent nothing leaves the limiter as it was or has only checked it. -/
structure Silent (host : Host) (data : List UInt8) : Prop where
  result : (connectionSend host data).1 ≤ 0
  wire : (connectionSend host data).2.world.wire = host.world.wire
  clock : (connectionSend host data).2.world.clock = host.world.clock
  meter : (connectionSend host data).2.meter = host.meter ∨
    (connectionSend host data).2.meter = host.meter.reset host.world.clock

/-- A call that has sent some bytes was admitted and has charged the limiter with them. -/
structure Charged (host : Host) (data : List UInt8) (total : Nat) : Prop where
  result : (connectionSend host data).1 = total
  admits : (host.meter.reset host.world.clock).Admits data.length
  positive : 0 < total
  size : total ≤ data.length
  wire : (connectionSend host data).2.world.wire = host.world.wire ++ data.take total
  clock : (connectionSend host data).2.world.clock = host.world.clock
  meter : (connectionSend host data).2.meter =
    (host.meter.reset host.world.clock).charge host.world.clock total
  activity : (connectionSend host data).2.conn.lastActivity =
    host.world.clock (host.meter.reset host.world.clock).reads

/-- A call that does not fail in the middle of its data is silent or charged. -/
theorem connectionSend_cases (host : Host) (data : List UInt8) (clean : FailsClean host data) :
    Silent host data ∨ ∃ total, Charged host data total := by
  by_cases usable : host.conn.fd = -1 ∨ data.length = 0
  · have unchanged : connectionSend host data = (-1, host) := if_pos usable
    left
    constructor <;> simp [unchanged]
  rw [not_or] at usable
  by_cases admits : (host.meter.reset host.world.clock).Admits data.length
  · have loop := sendLoop_clock data.length data
      (host.setMeter (host.meter.reset host.world.clock)).world
    have outcome := connectionSend_admitted host data usable.1 usable.2 admits
    dsimp only at outcome
    cases sent : (sendLoop data.length data (host.setMeter (host.meter.reset host.world.clock)).world).1 with
    | none =>
        left
        rw [sent] at outcome
        have written := sendLoop_clean host data _ (clean ⟨usable.1, usable.2, admits⟩) sent
        constructor
        · simp [outcome]
        · simp [outcome, written]
        · simp [outcome, loop.1]
        · right
          rw [outcome]
          exact Meter.ext loop.2.2 rfl
    | some total =>
        obtain ⟨size, written⟩ := sendLoop_wire _ _ _ _ sent
        cases total with
        | zero =>
            left
            rw [sent] at outcome
            constructor
            · simp [outcome]
            · simp [outcome, written]
            · simp [outcome, loop.1]
            · right
              rw [outcome]
              exact Meter.ext loop.2.2 rfl
        | succ total =>
            right
            obtain ⟨result, meter, -, wire, clock, -, activity⟩ :=
              connectionSend_charged host data usable.1 usable.2 admits total sent
            exact ⟨total + 1, result, admits, Nat.succ_pos total, size, wire.trans written, clock, meter, activity⟩
  · have refused := connectionSend_refused host data usable.1 usable.2 admits
    left
    constructor <;> simp [refused]

end Calls

section Windows

theorem reset_reads (clock : Nat → UInt64) (meter : Meter) : meter.reads ≤ (meter.reset clock).reads := by
  rw [Meter.reset]
  split
  · exact Nat.le_add_right _ 2
  · exact Nat.le_add_right _ 1

/-- A check of the window keeps the limits and raises no counter. -/
theorem reset_counters (clock : Nat → UInt64) (meter : Meter) :
    (meter.reset clock).limiter.messagesPerMinute = meter.limiter.messagesPerMinute ∧
      (meter.reset clock).limiter.bytesPerMinute = meter.limiter.bytesPerMinute ∧
      (meter.reset clock).limiter.messageCount.toNat ≤ meter.limiter.messageCount.toNat ∧
      (meter.reset clock).limiter.byteCount.toNat ≤ meter.limiter.byteCount.toNat := by
  rw [Meter.reset]
  split
  · exact ⟨rfl, rfl, Nat.zero_le _, Nat.zero_le _⟩
  · exact ⟨rfl, rfl, Nat.le_refl _, Nat.le_refl _⟩

variable {clock : Nat → UInt64} (ordered : ∀ first later, first ≤ later → clock first ≤ clock later)
  {meter : Meter} (running : meter.Running clock)

include ordered running

theorem Meter.Running.reset : (meter.reset clock).Running clock := by
  obtain ⟨messages, bytes, started, within⟩ := running
  rw [Meter.reset]
  split
  · exact ⟨messages, bytes, ordered _ _ (Nat.le_succ _), by simp [WithinLimits]⟩
  · exact ⟨messages, bytes, UInt64.le_trans started (ordered _ _ (Nat.le_succ _)), within⟩

theorem Meter.Running.next : Meter.Running clock ⟨meter.reads + 1, meter.limiter⟩ :=
  ⟨running.messages, running.bytes, UInt64.le_trans running.started (ordered _ _ (Nat.le_succ _)),
    running.within⟩

/-- A counter of the limiter stays metered when the window is checked. -/
theorem reset_metered {limit low high total : Nat} (amount : Nat) (used : RateLimiter → UInt32)
    (short : high < low + 60000) (within : (used meter.limiter).toNat + amount ≤ limit)
    (metered : Metered 60000 limit low high meter.limiter.lastResetTime.toNat
      ((used meter.limiter).toNat + amount) (clock meter.reads).toNat total) :
    Metered 60000 limit low high (meter.reset clock).limiter.lastResetTime.toNat
      ((used (meter.reset clock).limiter).toNat + amount) (clock meter.reads).toNat total := by
  rw [Meter.reset]
  split
  · rename_i elapsed
    have started := running.started
    have ended : meter.limiter.lastResetTime.toNat + 60000 ≤ (clock meter.reads).toNat := by
      rw [UInt64.le_iff_toNat_le, UInt64.toNat_sub_of_le _ _ started] at elapsed
      rw [UInt64.le_iff_toNat_le] at started
      change 60000 ≤ _ at elapsed
      omega
    have restarted := metered.reset short within (Nat.le_refl _) ended
      (UInt64.le_iff_toNat_le.mp (ordered meter.reads (meter.reads + 1) (Nat.le_succ _)))
    exact restarted.spare (Nat.zero_le _)
  · exact metered

/-- A check of the window keeps a counter metered until the next reading of the clock. -/
theorem reset_metered_later {limit low high total : Nat} (amount : Nat) (used : RateLimiter → UInt32)
    (short : high < low + 60000) (within : (used meter.limiter).toNat + amount ≤ limit)
    (metered : Metered 60000 limit low high meter.limiter.lastResetTime.toNat
      ((used meter.limiter).toNat + amount) (clock meter.reads).toNat total) :
    Metered 60000 limit low high (meter.reset clock).limiter.lastResetTime.toNat
      ((used (meter.reset clock).limiter).toNat + amount) (clock (meter.reset clock).reads).toNat total :=
  (reset_metered ordered running amount used short within metered).later
    (UInt64.le_iff_toNat_le.mp (ordered _ _ (reset_reads clock meter)))

/-- A counter of the limiter stays metered over an accepted call, which may check the window twice. -/
theorem charge_metered {limit low high total : Nat} (amount : Nat) (used : RateLimiter → UInt32)
    (short : high < low + 60000) (bound : (used meter.limiter).toNat ≤ limit)
    (within : (used (meter.reset clock).limiter).toNat + amount ≤ limit)
    (metered : Metered 60000 limit low high meter.limiter.lastResetTime.toNat
      (used meter.limiter).toNat (clock meter.reads).toNat total) :
    let updated := Meter.reset clock ⟨(meter.reset clock).reads + 1, (meter.reset clock).limiter⟩
    Metered 60000 limit low high updated.limiter.lastResetTime.toNat
      ((used updated.limiter).toNat + amount) (clock updated.reads).toNat
      (total + if (clock meter.reads).toNat ≤ high ∧ low ≤ (clock (meter.reset clock).reads).toNat
        then amount else 0) := by
  have checked := reset_metered ordered running 0 used short bound metered
  have charged := checked.charge amount (Nat.le_refl _)
    (UInt64.le_iff_toNat_le.mp (ordered _ _ (reset_reads clock meter)))
  have next : (clock (meter.reset clock).reads).toNat ≤ (clock ((meter.reset clock).reads + 1)).toNat :=
    UInt64.le_iff_toNat_le.mp (ordered _ _ (Nat.le_succ _))
  exact reset_metered_later ordered ((running.reset ordered).next ordered) amount used short within
    (charged.later next)

end Windows

section Accounts

/-- A counter that stays within a limit does not overflow. -/
theorem toNat_add_within (count limit : UInt32) (amount : Nat) (within : count.toNat + amount ≤ limit.toNat) :
    (count + UInt32.ofNat amount).toNat = count.toNat + amount := by
  have bound := limit.toNat_lt
  rw [UInt32.toNat_add, UInt32.toNat_ofNat', Nat.mod_eq_of_lt (by omega : amount < 2 ^ 32),
    Nat.mod_eq_of_lt (by omega)]

/-- What the limiter has to do with the calls so far, for one interval of time. -/
structure Accounted (clock : Nat → UInt64) (limits : RateLimiter) (low high : Nat) (meter : Meter)
    (accepted written : Nat) : Prop where
  messagesPerMinute : meter.limiter.messagesPerMinute = limits.messagesPerMinute
  bytesPerMinute : meter.limiter.bytesPerMinute = limits.bytesPerMinute
  running : meter.Running clock
  messages : Metered 60000 limits.messagesPerMinute.toNat low high meter.limiter.lastResetTime.toNat
    meter.limiter.messageCount.toNat (clock meter.reads).toNat accepted
  bytes : Metered 60000 limits.bytesPerMinute.toNat low high meter.limiter.lastResetTime.toNat
    meter.limiter.byteCount.toNat (clock meter.reads).toNat written

variable {clock : Nat → UInt64} {limits : RateLimiter} {low high : Nat} {meter : Meter}
  {accepted written : Nat} (accounted : Accounted clock limits low high meter accepted written)

include accounted

theorem Accounted.within :
    meter.limiter.messageCount.toNat ≤ limits.messagesPerMinute.toNat ∧
      meter.limiter.byteCount.toNat ≤ limits.bytesPerMinute.toNat := by
  obtain ⟨messages, bytes⟩ := accounted.running.within
  rw [accounted.messagesPerMinute] at messages
  rw [accounted.bytesPerMinute] at bytes
  exact ⟨UInt32.le_iff_toNat_le.mp messages, UInt32.le_iff_toNat_le.mp bytes⟩

variable (ordered : ∀ first later, first ≤ later → clock first ≤ clock later) (short : high < low + 60000)

include ordered short

theorem Accounted.reset : Accounted clock limits low high (meter.reset clock) accepted written := by
  obtain ⟨messagesPerMinute, bytesPerMinute, -, -⟩ := reset_counters clock meter
  obtain ⟨messages, bytes⟩ := accounted.within
  exact ⟨messagesPerMinute.trans accounted.messagesPerMinute,
    bytesPerMinute.trans accounted.bytesPerMinute, accounted.running.reset ordered,
    reset_metered_later ordered accounted.running 0 RateLimiter.messageCount short messages accounted.messages,
    reset_metered_later ordered accounted.running 0 RateLimiter.byteCount short bytes accounted.bytes⟩

/-- An accepted call charges one message and the bytes that it has written. -/
theorem Accounted.charge {size total : Nat} (admits : (meter.reset clock).Admits size) (part : total ≤ size) :
    let meets := (clock meter.reads).toNat ≤ high ∧ low ≤ (clock (meter.reset clock).reads).toNat
    Accounted clock limits low high ((meter.reset clock).charge clock total)
      (accepted + if meets then 1 else 0) (written + if meets then total else 0) := by
  obtain ⟨messagesWithin, bytesWithin⟩ := accounted.within
  obtain ⟨messagesPerMinute, bytesPerMinute, running, messages, bytes⟩ := accounted
  have checked := running.reset ordered
  obtain ⟨messageLimit, byteLimit, -, -⟩ := reset_counters clock meter
  rw [messagesPerMinute] at messageLimit
  rw [bytesPerMinute] at byteLimit
  have room : (meter.reset clock).limiter.messageCount.toNat + 1 ≤ limits.messagesPerMinute.toNat := by
    have free := admits.1
    rw [not_and, messageLimit, UInt32.not_le, UInt32.lt_iff_toNat_lt] at free
    exact free (messageLimit ▸ checked.messages)
  have space : (meter.reset clock).limiter.byteCount.toNat + total ≤ limits.bytesPerMinute.toNat := by
    have free := admits.2
    rw [not_and, byteLimit, Nat.not_lt] at free
    have whole := free (byteLimit ▸ checked.bytes)
    omega
  have messagesCharged := charge_metered ordered running 1 RateLimiter.messageCount short messagesWithin room
    messages
  have bytesCharged := charge_metered ordered running total RateLimiter.byteCount short bytesWithin space bytes
  have updated := (checked.next ordered).reset ordered
  obtain ⟨sameMessages, sameBytes, fewer, less⟩ :=
    reset_counters clock ⟨(meter.reset clock).reads + 1, (meter.reset clock).limiter⟩
  dsimp only at messagesCharged bytesCharged sameMessages sameBytes fewer less
  show Accounted clock limits low high (Meter.update clock _ total) _ _
  rw [Meter.update]
  generalize Meter.reset clock ⟨(meter.reset clock).reads + 1, (meter.reset clock).limiter⟩ = last
    at messagesCharged bytesCharged updated sameMessages sameBytes fewer less
  have messageCount := toNat_add_within last.limiter.messageCount limits.messagesPerMinute 1 (by omega)
  have byteCount := toNat_add_within last.limiter.byteCount limits.bytesPerMinute total (by omega)
  rw [← messageCount] at messagesCharged
  rw [← byteCount] at bytesCharged
  refine ⟨sameMessages.trans messageLimit, sameBytes.trans byteLimit,
    ⟨updated.messages, updated.bytes, updated.started, ?_, ?_⟩, messagesCharged, bytesCharged⟩
  · rw [UInt32.le_iff_toNat_le]
    show (last.limiter.messageCount + UInt32.ofNat 1).toNat ≤ last.limiter.messagesPerMinute.toNat
    rw [messageCount, sameMessages, messageLimit]
    omega
  · rw [UInt32.le_iff_toNat_le]
    show (last.limiter.byteCount + UInt32.ofNat total).toNat ≤ last.limiter.bytesPerMinute.toNat
    rw [byteCount, sameBytes, byteLimit]
    omega

end Accounts

section Runs

theorem acceptedIn_append (low high : Nat) (traces : List SendTrace) (trace : SendTrace) :
    acceptedIn low high (traces ++ [trace]) = acceptedIn low high traces +
      if trace.Meets low high ∧ 0 < trace.result then 1 else 0 := by
  simp [acceptedIn, List.countP_append, List.countP_singleton]

theorem writtenIn_append (low high : Nat) (traces : List SendTrace) (trace : SendTrace) :
    writtenIn low high (traces ++ [trace]) = writtenIn low high traces +
      if trace.Meets low high then trace.written else 0 := by
  by_cases meets : trace.Meets low high <;> simp [writtenIn, List.filter_append, meets]

/-- The limiter of the host accounts for the calls so far. -/
def HostAccounted (clock : Nat → UInt64) (limits : RateLimiter) (low high : Nat) (host : Host)
    (traces : List SendTrace) : Prop :=
  host.world.clock = clock ∧ Accounted clock limits low high host.meter (acceptedIn low high traces)
    (writtenIn low high traces)

variable {clock : Nat → UInt64} (ordered : ∀ first later, first ≤ later → clock first ≤ clock later)
  {low high : Nat} (short : high < low + 60000)

include ordered short

/-- Every call that does not fail in the middle of its data is accounted for. -/
theorem HostAccounted.step {limits : RateLimiter} (host : Host) (data : List UInt8) (traces : List SendTrace)
    (accounted : HostAccounted clock limits low high host traces) (clean : FailsClean host data) :
    HostAccounted clock limits low high (callMachine.step host data).1
      (traces ++ (callMachine.step host data).2) := by
  obtain ⟨rfl, account⟩ := accounted
  simp only [callMachine, HostAccounted, acceptedIn_append, writtenIn_append, SendTrace.Meets]
  rcases connectionSend_cases host data clean with silent | ⟨total, charged⟩
  · have nothing : ¬ 0 < (connectionSend host data).1 := Int.not_lt.mpr silent.result
    simp only [silent.wire, nothing, Nat.sub_self, and_false, if_false, ite_self, Nat.add_zero]
    refine ⟨silent.clock, ?_⟩
    rcases silent.meter with same | checked
    · rw [same]
      exact account
    · rw [checked]
      exact account.reset ordered short
  · have positive : 0 < (connectionSend host data).1 := by
      rw [charged.result]
      exact Int.natCast_pos.mpr charged.positive
    have written : (connectionSend host data).2.world.wire.length - host.world.wire.length = total := by
      rw [charged.wire, List.length_append, List.length_take, Nat.min_eq_left charged.size]
      omega
    simp only [positive, written, charged.activity, charged.meter, if_true, and_true]
    exact ⟨charged.clock, account.charge ordered short charged.admits charged.size⟩

end Runs

/-- From any state within positive limits, as long as no admitted call fails in the middle of its data,
the counters stay within the limits, and every interval of less than a minute sees at most
twice the limits. -/
theorem connectionSend_rateBound (host : Host) (sends : List (List UInt8))
    (ordered : ∀ first later, first ≤ later → host.world.clock first ≤ host.world.clock later)
    (running : host.meter.Running host.world.clock)
    (clean : callMachine.Along FailsClean host sends) :
    (∀ visited ∈ callMachine.states host sends,
      visited.conn.rateLimiter.messageCount ≤ host.conn.rateLimiter.messagesPerMinute ∧
        visited.conn.rateLimiter.byteCount ≤ host.conn.rateLimiter.bytesPerMinute) ∧
    ∀ low high : Nat, high < low + 60000 →
      acceptedIn low high (callMachine.run host sends).2 ≤
          2 * host.conn.rateLimiter.messagesPerMinute.toNat ∧
        writtenIn low high (callMachine.run host sends).2 ≤ 2 * host.conn.rateLimiter.bytesPerMinute.toNat := by
  have initial (low high : Nat) :
      HostAccounted host.world.clock host.conn.rateLimiter low high host [] :=
    ⟨rfl, rfl, rfl, running, .initial, .initial⟩
  constructor
  · have accounted := callMachine.states_invariant FailsClean
      (fun visited => ∃ traces, HostAccounted host.world.clock host.conn.rateLimiter 0 0 visited traces)
      (fun visited data ⟨traces, account⟩ allowed =>
        ⟨_, HostAccounted.step ordered (by decide) visited data traces account allowed⟩)
      host sends ⟨[], initial 0 0⟩ clean
    intro visited member
    obtain ⟨traces, -, account⟩ := accounted visited member
    exact ⟨UInt32.le_iff_toNat_le.mpr account.within.1, UInt32.le_iff_toNat_le.mpr account.within.2⟩
  · intro low high short
    obtain ⟨-, account⟩ := callMachine.run_history FailsClean
      (HostAccounted host.world.clock host.conn.rateLimiter low high)
      (fun visited data traces account allowed =>
        HostAccounted.step ordered short visited data traces account allowed)
      host sends [] (initial low high) clean
    exact ⟨account.messages.bounded account.within.1, account.bytes.bounded account.within.2⟩

/-- A connection with its own limits and socket, whose clock stands still. -/
def limitedHost (messages bytes : UInt32) (socket : Nat → SendReply) : Host :=
  ⟨{ sampleHost.conn with rateLimiter := ⟨messages, bytes, 0, 0, 0⟩ }, { sampleHost.world with socket := socket }⟩

theorem limitedHost_running (messages bytes : UInt32) (socket : Nat → SendReply) (some : 0 < messages)
    (positive : 0 < bytes) :
    (limitedHost messages bytes socket).meter.Running (limitedHost messages bytes socket).world.clock :=
  ⟨some, positive, UInt64.le_refl 0, UInt32.zero_le, UInt32.zero_le⟩

/-- Two messages of three bytes in one minute, of which the limiter refuses the second one. -/
theorem connectionSend_rateBound_three :
    let host := limitedHost 2 3 fun _ => .takes 0
    (∀ visited ∈ callMachine.states host [[1, 2], [3, 4]],
      visited.conn.rateLimiter.messageCount ≤ 2 ∧ visited.conn.rateLimiter.byteCount ≤ 3) ∧
    ∀ low high : Nat, high < low + 60000 →
      acceptedIn low high (callMachine.run host [[1, 2], [3, 4]]).2 ≤ 2 * 2 ∧
        writtenIn low high (callMachine.run host [[1, 2], [3, 4]]).2 ≤ 2 * 3 := by
  have never (host : Host) (data : List UInt8) (takes : host.world.socket = fun _ => .takes 0) :
      FailsClean host data := by
    rintro - ⟨parts, -, -, -, failed⟩
    rw [takes] at failed
    cases failed
  exact connectionSend_rateBound (limitedHost 2 3 fun _ => .takes 0) [[1, 2], [3, 4]]
    (fun _ _ _ => UInt64.le_refl 0) (limitedHost_running 2 3 _ (by decide) (by decide))
    ⟨never _ _ rfl, never _ _ rfl, trivial⟩

/-- Each call writes one byte and then fails, and none of them is counted. -/
theorem connectionSend_rateBound_fails :
    let host := limitedHost 1 2 fun index => if index % 2 = 0 then .takes 0 else .failed
    host.meter.Running host.world.clock ∧
      (∀ first later, first ≤ later → host.world.clock first ≤ host.world.clock later) ∧
      ¬ writtenIn 0 0 (callMachine.run host (List.replicate 5 [1, 2])).2 ≤
        2 * host.conn.rateLimiter.bytesPerMinute.toNat :=
  ⟨limitedHost_running 1 2 _ (by decide) (by decide), fun _ _ _ => UInt64.le_refl 0, by decide +kernel⟩

end SecureChat.Server
