import SecureChat.Construction.Client.Core

namespace SecureChat.Client
open Library Protocol

/-- The call has returned zero with the whole message on the wire, or it has written nothing. -/
def SendRecord.Whole (record : SendRecord) : Prop :=
  record.result = 0 ∧ record.wire = record.encoded ∨ record.result ≠ 0 ∧ record.wire = []

/-- The call has failed with a first part of its message on the wire. -/
def SendRecord.Incomplete (record : SendRecord) : Prop :=
  record.result ≠ 0 ∧ record.wire <+: record.encoded ∧ record.wire ≠ [] ∧ record.wire ≠ record.encoded

/-- The call has failed and written nothing. -/
def SendRecord.Silent (record : SendRecord) : Prop := record.result ≠ 0 ∧ record.wire = []

/-- The bytes that all calls together have put on the connection. -/
def wireBytes (records : List SendRecord) : List UInt8 := records.flatMap SendRecord.wire

/-- The messages of the calls that returned zero. -/
def completeMessages (records : List SendRecord) : List UInt8 :=
  (records.filter fun record => record.result = 0).flatMap SendRecord.encoded

/-- The wire holds the messages of the calls that returned zero, one behind the other.
At most one incomplete message follows, and nothing is written behind it. -/
def WireIntact (records : List SendRecord) : Prop :=
  ∃ rest, wireBytes records = completeMessages records ++ rest ∧
    (rest = [] ∨ ∃ before record later, records = before ++ record :: later ∧ record.Incomplete ∧
      rest = record.wire ∧ ∀ other ∈ later, other.wire = [])

/-- Whole records come first, and only silent ones follow an incomplete one. -/
def InOrder : List SendRecord → Prop
  | [] => True
  | record :: rest =>
      (record.Whole ∧ InOrder rest) ∨ (record.Incomplete ∧ ∀ other ∈ rest, other.Silent)

/-- The call writes at least one byte. -/
def Writes (client : SecureChatClient) (call : SendCall) : Prop :=
  client.connectionActive = true ∧ client.sockfd ≠ -1 ∧ 0 < call.results.header

/-- The call writes a part of its message and no more. -/
def Breaks (client : SecureChatClient) (call : SendCall) : Prop :=
  Writes client call ∧
    (call.results.header ≠ headerSize ∨ 0 < call.data.length ∧ call.results.body ≠ call.data.length)

/-- No call of a sender writes anything. -/
def WritesNothing (client : SecureChatClient) (use : ConnectionUse) : Prop :=
  match use with
  | .send call => ¬ Writes client call
  | .connectionLost => True

variable (codec : HeaderCodec)

/-- Once a call has written a part of its message, no later call writes anything. -/
def StopsAtBreak : SecureChatClient → List ConnectionUse → Prop
  | _, [] => True
  | client, .send call :: rest =>
      (Breaks client call → (connectionMachine codec).Along WritesNothing
        ((connectionMachine codec).step client (.send call)).1 rest) ∧
      StopsAtBreak ((connectionMachine codec).step client (.send call)).1 rest
  | client, .connectionLost :: rest =>
      StopsAtBreak ((connectionMachine codec).step client .connectionLost).1 rest

section Records

/-- The number of bytes that failed calls have written. -/
def brokenLength (records : List SendRecord) : Nat :=
  ((records.filter fun record => record.result ≠ 0).flatMap SendRecord.wire).length

theorem brokenLength_append (first second : List SendRecord) :
    brokenLength (first ++ second) = brokenLength first + brokenLength second := by
  simp only [brokenLength, List.filter_append, List.flatMap_append, List.length_append]

theorem brokenLength_failed (record : SendRecord) (rest : List SendRecord) (failed : record.result ≠ 0) :
    brokenLength (record :: rest) = record.wire.length + brokenLength rest := by
  simp [brokenLength, failed]

theorem brokenLength_success (record : SendRecord) (rest : List SendRecord) (success : record.result = 0) :
    brokenLength (record :: rest) = brokenLength rest := by
  simp [brokenLength, success]

theorem wireBytes_cons (record : SendRecord) (records : List SendRecord) :
    wireBytes (record :: records) = record.wire ++ wireBytes records := List.flatMap_cons

theorem completeMessages_success (record : SendRecord) (records : List SendRecord)
    (success : record.result = 0) :
    completeMessages (record :: records) = record.encoded ++ completeMessages records := by
  simp [completeMessages, success]

theorem completeMessages_failed (record : SendRecord) (records : List SendRecord)
    (failed : record.result ≠ 0) : completeMessages (record :: records) = completeMessages records := by
  simp [completeMessages, failed]

/-- A call either completes its message or fails with a first part of it. -/
def SendRecord.Possible (record : SendRecord) : Prop :=
  record.encoded ≠ [] ∧ (record.Whole ∨ record.Incomplete)

/-- The wire is longer than the complete messages by the bytes of the failed calls. -/
theorem wireBytes_length (records : List SendRecord) (possible : ∀ record ∈ records, record.Possible) :
    (wireBytes records).length = (completeMessages records).length + brokenLength records := by
  induction records with
  | nil => rfl
  | cons record rest ih =>
      rw [List.forall_mem_cons] at possible
      have later := ih possible.2
      rw [wireBytes_cons, List.length_append, later]
      by_cases success : record.result = 0
      · have written : record.wire = record.encoded := by
          rcases possible.1.2 with (⟨-, written⟩ | ⟨failed, -⟩) | incomplete
          · exact written
          · exact absurd success failed
          · exact absurd success incomplete.1
        rw [brokenLength_success record rest success, completeMessages_success record rest success,
          List.length_append, written]
        omega
      · rw [brokenLength_failed record rest success, completeMessages_failed record rest success]
        omega

/-- Records without bytes of failed calls are all whole. -/
theorem whole_of_brokenLength (records : List SendRecord)
    (possible : ∀ record ∈ records, record.Possible) (none : brokenLength records = 0) :
    ∀ record ∈ records, record.Whole := by
  induction records with
  | nil => simp
  | cons record rest ih =>
      rw [List.forall_mem_cons] at possible ⊢
      rcases possible.1.2 with whole | incomplete
      · constructor
        · exact whole
        · apply ih possible.2
          by_cases success : record.result = 0
          · rwa [brokenLength_success record rest success] at none
          · rw [brokenLength_failed record rest success] at none
            omega
      · rw [brokenLength_failed record rest incomplete.1] at none
        have empty : record.wire = [] := List.eq_nil_of_length_eq_zero (by omega)
        exact absurd empty incomplete.2.2.1

theorem InOrder.append (before after : List SendRecord) (whole : ∀ record ∈ before, record.Whole)
    (ordered : InOrder after) : InOrder (before ++ after) := by
  induction before with
  | nil => exact ordered
  | cons record before ih =>
      rw [List.forall_mem_cons] at whole
      exact .inl ⟨whole.1, ih whole.2⟩

/-- A record without bytes is a silent one. -/
theorem SendRecord.Possible.silent {record : SendRecord} (possible : record.Possible)
    (empty : record.wire = []) : record.Silent := by
  obtain ⟨present, (⟨-, written⟩ | silent) | incomplete⟩ := possible
  · exact absurd (written.symm.trans empty) present
  · exact silent
  · exact absurd empty incomplete.2.2.1

/-- What an intact wire says about the records one by one. -/
theorem WireIntact.inOrder {records : List SendRecord} (intact : WireIntact records)
    (possible : ∀ record ∈ records, record.Possible) : InOrder records := by
  obtain ⟨rest, bytes, ending⟩ := intact
  have measured := wireBytes_length records possible
  rw [bytes, List.length_append] at measured
  rcases ending with rfl | ⟨before, record, later, rfl, incomplete, rfl, silent⟩
  · have whole := whole_of_brokenLength records possible (by simp only [List.length_nil] at measured; omega)
    simpa using InOrder.append records [] whole trivial
  · rw [List.forall_mem_append, List.forall_mem_cons] at possible
    rw [brokenLength_append, brokenLength_failed record later incomplete.1] at measured
    apply InOrder.append before _ (whole_of_brokenLength before possible.1 (by omega))
    exact .inr ⟨incomplete, fun other member => (possible.2.2 other member).silent (silent other member)⟩

theorem wireBytes_silent (records : List SendRecord) (silent : ∀ record ∈ records, record.Silent) :
    wireBytes records = [] ∧ completeMessages records = [] := by
  constructor
  · simp only [wireBytes, List.flatMap_eq_nil_iff]
    exact fun record member => (silent record member).2
  · have failed : records.filter (fun record => record.result = 0) = [] := by
      simp only [List.filter_eq_nil_iff, decide_eq_true_eq]
      exact fun record member => (silent record member).1
    simp only [completeMessages, failed, List.flatMap_nil]

/-- Records in this order leave an intact wire. -/
theorem InOrder.wireIntact {records : List SendRecord} (ordered : InOrder records) :
    WireIntact records := by
  induction records with
  | nil => exact ⟨[], rfl, .inl rfl⟩
  | cons record rest ih =>
      rcases ordered with ⟨whole, later⟩ | ⟨incomplete, silent⟩
      · obtain ⟨part, bytes, ending⟩ := ih later
        refine ⟨part, ?_, ?_⟩
        · rw [wireBytes_cons, bytes]
          rcases whole with ⟨success, written⟩ | ⟨failed, empty⟩
          · rw [completeMessages_success record rest success, written, List.append_assoc]
          · rw [completeMessages_failed record rest failed, empty, List.nil_append]
        · rcases ending with empty | ⟨before, broken, after, rfl, behind⟩
          · exact .inl empty
          · exact .inr ⟨record :: before, broken, after, rfl, behind⟩
      · obtain ⟨empty, failed⟩ := wireBytes_silent rest silent
        refine ⟨record.wire, ?_, .inr ⟨[], record, rest, rfl, incomplete, rfl, ?_⟩⟩
        · rw [wireBytes_cons, empty, completeMessages_failed record rest incomplete.1, failed,
            List.append_nil, List.nil_append]
        · exact fun other member => (silent other member).2

end Records

section Calls

theorem encodedCall_length (client : SecureChatClient) (call : SendCall) :
    (encodedCall codec client call).length = headerSize + call.data.length := by
  rw [encodedCall, List.length_append, codec.serialize_length]

/-- The record of one call. -/
def callRecord (client : SecureChatClient) (call : SendCall) : SendRecord :=
  let outcome := sendMessageInternal codec client call.messageType call.data call.results
  ⟨outcome.result, outcome.wire, encodedCall codec client call⟩

/-- A call that does not write is silent. -/
theorem callRecord_silent (client : SecureChatClient) (call : SendCall) (idle : ¬ Writes client call) :
    (callRecord codec client call).Silent := by
  simp only [callRecord, sendMessageInternal]
  split
  · exact ⟨show (-1 : Int) ≠ 0 by decide, rfl⟩
  · rename_i usable
    rw [not_or, Bool.not_eq_true', Bool.not_eq_false] at usable
    have empty : call.results.header ≤ 0 := by
      by_contra positive
      exact idle ⟨usable.1, usable.2, by omega⟩
    have short : call.results.header ≠ headerSize := by
      simp only [headerSize]
      omega
    rw [if_pos short]
    refine ⟨show (-2 : Int) ≠ 0 by decide, ?_⟩
    dsimp only
    rw [Int.toNat_of_nonpos empty, List.take_zero]

/-- A call that writes without a break completes its message. -/
theorem callRecord_whole (client : SecureChatClient) (call : SendCall) (writes : Writes client call)
    (complete : ¬ Breaks client call) :
    (callRecord codec client call).result = 0 ∧
      (callRecord codec client call).wire = (callRecord codec client call).encoded := by
  obtain ⟨active, opened, -⟩ := id writes
  rw [Breaks, not_and, not_or, not_not] at complete
  obtain ⟨header, body⟩ := complete writes
  simp only [callRecord, sendMessageInternal]
  rw [if_neg (by simp [active, opened]), if_neg (not_not.mpr header), if_neg body]
  exact ⟨rfl, rfl⟩

/-- A call that breaks leaves a first part of its message on the wire. -/
theorem callRecord_incomplete (client : SecureChatClient) (call : SendCall) (breaks : Breaks client call) :
    (callRecord codec client call).Incomplete := by
  obtain ⟨⟨active, opened, positive⟩, failure⟩ := breaks
  have measured := codec.serialize_length
    (outgoingHeader codec client call.messageType call.data call.results.timestamp)
  have total := encodedCall_length codec client call
  have headerBound := call.headerBound
  have bodyBound := call.bodyBound
  simp only [callRecord, sendMessageInternal]
  rw [if_neg (by simp [active, opened])]
  by_cases header : call.results.header = headerSize
  · have short := failure.resolve_left (not_not.mpr header)
    have less : call.results.body.toNat < call.data.length := by omega
    rw [if_neg (not_not.mpr header), if_pos short]
    refine ⟨show (-3 : Int) ≠ 0 by decide, ?_, ?_, ?_⟩
    · exact (List.prefix_append_right_inj _).mpr (List.take_prefix _ _)
    · exact List.append_ne_nil_of_left_ne_nil (List.ne_nil_of_length_eq_add_one measured) _
    · intro same
      have equal := congrArg List.length same
      rw [total, List.length_append, measured, List.length_take] at equal
      omega
  · have less : call.results.header.toNat < headerSize := by omega
    rw [if_pos header]
    refine ⟨show (-2 : Int) ≠ 0 by decide, ?_, ?_, ?_⟩
    · exact (List.take_prefix _ _).trans (List.prefix_append _ _)
    · apply List.ne_nil_of_length_pos
      rw [List.length_take, measured]
      omega
    · intro same
      have equal := congrArg List.length same
      rw [total, List.length_take, measured] at equal
      omega

theorem callRecord_possible (client : SecureChatClient) (call : SendCall) :
    (callRecord codec client call).Possible := by
  constructor
  · apply List.ne_nil_of_length_pos
    have total := encodedCall_length codec client call
    simp only [callRecord, total, headerSize]
    omega
  · by_cases breaks : Breaks client call
    · exact .inr (callRecord_incomplete codec client call breaks)
    · by_cases writes : Writes client call
      · exact .inl (.inl (callRecord_whole codec client call writes breaks))
      · exact .inl (.inr (callRecord_silent codec client call writes))

end Calls

section Runs

theorem connectionMachine_send (client : SecureChatClient) (call : SendCall) :
    (connectionMachine codec).step client (.send call) =
      ((sendMessageInternal codec client call.messageType call.data call.results).client,
        [callRecord codec client call]) := rfl

theorem connectionMachine_connectionLost (client : SecureChatClient) :
    (connectionMachine codec).step client .connectionLost =
      ({ client with connectionActive := false }, []) := rfl

/-- Every record of a run is the record of some call. -/
theorem records_possible (client : SecureChatClient) (uses : List ConnectionUse) :
    ∀ record ∈ ((connectionMachine codec).run client uses).2, record.Possible := by
  apply (connectionMachine codec).outputs_always SendRecord.Possible
  intro client use
  cases use with
  | send call =>
      rw [connectionMachine_send]
      intro record member
      rw [List.mem_singleton] at member
      exact member ▸ callRecord_possible codec client call
  | connectionLost => simp [connectionMachine_connectionLost]

/-- The records are all silent exactly when no call of the run writes anything. -/
theorem silent_iff (client : SecureChatClient) (uses : List ConnectionUse) :
    (∀ record ∈ ((connectionMachine codec).run client uses).2, record.Silent) ↔
      (connectionMachine codec).Along WritesNothing client uses := by
  induction uses generalizing client with
  | nil => simp
  | cons use rest ih =>
      rw [Machine.run_cons, Machine.along_cons, List.forall_mem_append, ih]
      apply and_congr_left'
      cases use with
      | send call =>
          rw [connectionMachine_send, List.forall_mem_singleton]
          constructor
          · intro silent writes
            by_cases breaks : Breaks client call
            · exact (callRecord_incomplete codec client call breaks).2.2.1 silent.2
            · exact silent.1 (callRecord_whole codec client call writes breaks).1
          · exact callRecord_silent codec client call
      | connectionLost => simp [connectionMachine_connectionLost, WritesNothing]

/-- The records of a run are in order exactly when no call writes behind a broken message. -/
theorem inOrder_iff (client : SecureChatClient) (uses : List ConnectionUse) :
    InOrder ((connectionMachine codec).run client uses).2 ↔ StopsAtBreak codec client uses := by
  induction uses generalizing client with
  | nil => exact Iff.rfl
  | cons use rest ih =>
      cases use with
      | connectionLost =>
          rw [Machine.run_cons, connectionMachine_connectionLost, List.nil_append, ih]
          rfl
      | send call =>
          rw [Machine.run_cons, StopsAtBreak, ← ih, ← silent_iff, connectionMachine_send,
            List.singleton_append]
          generalize ((connectionMachine codec).run _ rest).2 = records
          by_cases breaks : Breaks client call
          · have incomplete := callRecord_incomplete codec client call breaks
            have broken : ¬ (callRecord codec client call).Whole := by
              rintro (⟨success, -⟩ | ⟨-, empty⟩)
              · exact incomplete.1 success
              · exact incomplete.2.2.1 empty
            rw [forall_prop_of_true breaks]
            constructor
            · rintro (⟨whole, -⟩ | ⟨-, silent⟩)
              · exact absurd whole broken
              · exact ⟨silent, by simpa using InOrder.append records [] (fun record member =>
                  .inr (silent record member)) trivial⟩
            · rintro ⟨silent, -⟩
              exact .inr ⟨incomplete, silent⟩
          · have whole : (callRecord codec client call).Whole := by
              by_cases writes : Writes client call
              · exact .inl (callRecord_whole codec client call writes breaks)
              · exact .inr (callRecord_silent codec client call writes)
            have complete : ¬ (callRecord codec client call).Incomplete := by
              rintro ⟨failed, -, present, -⟩
              rcases whole with ⟨success, -⟩ | ⟨-, empty⟩
              · exact failed success
              · exact present empty
            simp only [InOrder, whole, complete, breaks, true_and, false_and, or_false, false_implies]

/-- Over any sequence of calls the wire stays intact exactly when no call writes anything
after one that has written only a part of its message. -/
theorem wire_intact_iff (client : SecureChatClient) (uses : List ConnectionUse) :
    WireIntact ((connectionMachine codec).run client uses).2 ↔ StopsAtBreak codec client uses := by
  rw [← inOrder_iff]
  constructor
  · intro intact
    exact intact.inOrder (records_possible codec client uses)
  · exact InOrder.wireIntact

/-- A client that has just connected. -/
def freshClient : SecureChatClient where
  sockfd := 3
  connectionActive := true
  threadsRunning := true
  heartbeatThread := true
  heartbeatInterval := 30000
  messageHandlers := []
  errorCallback := false
  lastHeartbeatSent := 0
  lastHeartbeatReceived := 0
  heartbeatMissed := 0
  messagesSent := 0
  bytesSent := 0

/-- An empty notification of which the given number of header bytes is written. -/
def notification (written : Int) (bound : written ≤ headerSize) : SendCall where
  messageType := msgSystemNotification
  data := []
  results := ⟨0, written, 0⟩
  headerBound := bound
  bodyBound := Int.le_refl 0

/-- The header of the first message is cut off, and the second message follows as a whole. -/
theorem wire_not_intact :
    ¬ WireIntact ((connectionMachine networkCodec).run freshClient
      [.send (notification 63 (by decide)), .send (notification 64 (by decide))]).2 := by
  intro intact
  have ordered := intact.inOrder (records_possible networkCodec freshClient _)
  rw [inOrder_iff] at ordered
  have breaks : Breaks freshClient (notification 63 (by decide)) :=
    ⟨⟨rfl, by decide, by decide⟩, .inl (by decide)⟩
  have later := (ordered.1 breaks).1
  exact later ⟨rfl, by decide, by decide⟩

end Runs

end SecureChat.Client
