import SecureChat.Construction.Server.RequestHandlers
import SecureChat.Library.ByteOrder
import SecureChat.Proof.Server.AccessControl

namespace SecureChat.Dispatch
open Library

def UserRecord.foreign (userId : UInt64) (user : UserRecord) : Bool := user.userId ≠ userId

/-- A transfer belongs to its sender and to its receiver. -/
def TransferRecord.foreign (userId : UInt64) (transfer : TransferRecord) : Bool :=
  transfer.senderId ≠ userId ∧ transfer.receiverId ≠ userId

def TransferRow.foreign (userId : UInt64) (row : TransferRow) : Bool :=
  row.senderId ≠ userId ∧ row.receiverId ≠ userId

/-- The records that do not belong to the user. -/
def Records.foreign (userId : UInt64) (records : Records) : Records where
  users := records.users.filter (UserRecord.foreign userId)
  transfers := records.transfers.filter (TransferRecord.foreign userId)
  fileTransfers := records.fileTransfers.filter (TransferRow.foreign userId)

/-- The entry that the server registers for the request. -/
def Request.entry : Request → HandlerEntry
  | .userStatusUpdate => ⟨msgUserStatusUpdate, .userStatusUpdate, true, true⟩
  | .userProfileUpdate => ⟨msgUserProfileUpdate, .userProfileUpdate, true, true⟩
  | .fileTransferCancel => ⟨msgFileTransferCancel, .fileTransferCancel, true, false⟩
  | .fileProgressUpdate => ⟨msgFileProgressUpdate, .fileTransferStatus, true, true⟩

def Request.size (layout : Layout) : Request → Nat
  | .userStatusUpdate => layout.userStatusUpdate
  | .userProfileUpdate => layout.userProfileUpdate
  | .fileTransferCancel => layout.fileTransferCancel
  | .fileProgressUpdate => layout.fileTransferStatus

/-- The request has a handler and a whole body, and the connection has what the handler requires. -/
def Request.Reaches (request : Request) (layout : Layout) (mallocOk : UInt32 → Bool) (conn : ClientConnection)
    (data : List UInt8) : Prop :=
  mallocOk request.messageType = true ∧ data.length ≠ 0 ∧ request.size layout ≤ data.length ∧
    conn.state = .authenticated ∧ (request ≠ .fileTransferCancel → conn.encryptionEnabled = true)

/-- The user manager knows the user. -/
def Records.Knows (records : Records) (userId : UInt64) : Prop := ∃ user ∈ records.users, user.userId = userId

/-- Every record that has the identifier of the request and does not belong to the user has its values already,
or the manager fails, or it does not know a user who wants to change a user. -/
def Request.Harmless (request : Request) (declarations : Declarations) (records : Records) (userId : UInt64)
    (data : List UInt8) (answers : RequestAnswers) : Prop :=
  answers.updateOk = true →
    match request with
    | .userStatusUpdate => records.Knows userId → ∀ user ∈ records.users, user.foreign userId = true →
        user.userId = (declarations.userStatusUpdate data).userId →
          (declarations.userStatusUpdate data).apply user = user
    | .userProfileUpdate => records.Knows userId → ∀ user ∈ records.users, user.foreign userId = true →
        user.userId = (declarations.userProfileUpdate data).userId →
          (declarations.userProfileUpdate data).apply user = user
    | .fileTransferCancel => ∀ transfer ∈ records.transfers, transfer.foreign userId = true →
        transfer.transferId = declarations.fileTransferCancel data → transfer.cancel = transfer
    | .fileProgressUpdate =>
        (∀ transfer ∈ records.transfers, transfer.foreign userId = true →
          transfer.transferId = (declarations.fileTransferStatus data).transferId →
            (declarations.fileTransferStatus data).apply transfer = transfer) ∧
        ((∃ transfer ∈ records.transfers,
            transfer.transferId = (declarations.fileTransferStatus data).transferId) →
          (declarations.fileTransferStatus data).status = transferCompleted → answers.prepareOk = true →
            answers.stepOk = true → ∀ row ∈ records.fileTransfers, row.foreign userId = true →
              row.transferId = (declarations.fileTransferStatus data).transferId →
                (declarations.fileTransferStatus data).store answers.now row = row)

section Registration

variable (mallocOk : UInt32 → Bool)

theorem findHandler_cons (entry : HandlerEntry) (entries : List HandlerEntry) (messageType : UInt32) :
    findHandler (entry :: entries) messageType =
      if entry.messageType = messageType then some entry else findHandler entries messageType := by
  unfold findHandler
  rw [List.find?_cons]
  split
  · rename_i same
    rw [if_pos (beq_iff_eq.mp same)]
  · rename_i apart
    rw [if_neg (beq_eq_false_iff_ne.mp apart)]

/-- A registration counts only if its type has no handler yet. -/
theorem findHandler_register (manager : HandlerManager) (entry : HandlerEntry) (messageType : UInt32) :
    findHandler (messageHandlerRegister manager entry.messageType (some entry.handler) entry.requireAuth
        entry.requireEncryption (mallocOk entry.messageType)).2.handlers messageType =
      (findHandler manager.handlers messageType).or
        (if entry.messageType = messageType ∧ mallocOk messageType = true then some entry else none) := by
  unfold messageHandlerRegister
  dsimp only
  split
  · rename_i known
    split
    · rename_i own
      obtain ⟨there, found⟩ := Option.isSome_iff_exists.mp (own.1 ▸ known)
      rw [found]
      rfl
    · exact Option.or_none.symm
  · rename_i unknown
    rw [Option.not_isSome_iff_eq_none] at unknown
    split
    · rename_i failed
      rw [if_neg, Option.or_none]
      rintro ⟨rfl, allocated⟩
      rw [allocated] at failed
      exact absurd failed (by decide)
    · rename_i allocated
      rw [findHandler_cons]
      dsimp only
      by_cases own : entry.messageType = messageType
      · subst own
        rw [if_pos rfl, unknown, if_pos ⟨rfl, by simpa using allocated⟩]
        rfl
      · rw [if_neg own, if_neg fun both => own both.1, Option.or_none]

theorem findHandler_registerAll (entries : List HandlerEntry) (manager : HandlerManager) (messageType : UInt32) :
    findHandler (entries.foldl (fun manager entry => (messageHandlerRegister manager entry.messageType
        (some entry.handler) entry.requireAuth entry.requireEncryption (mallocOk entry.messageType)).2)
        manager).handlers messageType =
      (findHandler manager.handlers messageType).or
        (if mallocOk messageType = true then findHandler entries messageType else none) := by
  induction entries generalizing manager with
  | nil =>
      have none : findHandler [] messageType = none := rfl
      rw [none, ite_self, Option.or_none]
      rfl
  | cons entry entries ih =>
      rw [List.foldl_cons, ih, findHandler_register, findHandler_cons, Option.or_assoc]
      congr 1
      by_cases allocated : mallocOk messageType = true
      · by_cases own : entry.messageType = messageType
        · simp [allocated, own]
        · simp [allocated, own]
      · simp [allocated]

theorem findHandler_request (request : Request) :
    findHandler (messageHandlerManagerCreate mallocOk).handlers request.messageType =
      if mallocOk request.messageType = true then some request.entry else none := by
  unfold messageHandlerManagerCreate registerDefaultHandlers
  rw [findHandler_registerAll]
  have default : findHandler defaultHandlers request.messageType = some request.entry := by
    cases request <;> decide
  rw [default]
  rfl

end Registration

theorem messageValidateIntegrity_request (layout : Layout) (request : Request) (data : List UInt8) :
    messageValidateIntegrity layout data request.messageType = true ↔
      data.length ≠ 0 ∧ request.size layout ≤ data.length := by
  by_cases empty : data.length = 0
  · unfold messageValidateIntegrity
    rw [if_pos empty]
    exact iff_of_false nofun fun both => both.1 empty
  · have long : messageValidateIntegrity layout data request.messageType =
        decide (request.size layout ≤ data.length) := by
      unfold messageValidateIntegrity
      rw [if_neg empty]
      cases request <;> rfl
    rw [long, decide_eq_true_iff]
    exact (and_iff_right empty).symm

/-- A request is admissible exactly when it reaches its handler. -/
theorem admissible_request_iff (layout : Layout) (mallocOk : UInt32 → Bool) (conn : ClientConnection)
    (request : Request) (data : Option (List UInt8)) (entry : HandlerEntry) (bytes : List UInt8) :
    Admissible layout (messageHandlerManagerCreate mallocOk) (some conn) request.messageType data entry bytes ↔
      entry = request.entry ∧ data = some bytes ∧ request.Reaches layout mallocOk conn bytes := by
  have required : (request.entry.requireAuth = true → conn.state = .authenticated) ∧
      (request.entry.requireEncryption = true → conn.encryptionEnabled = true) ↔
      conn.state = .authenticated ∧ (request ≠ .fileTransferCancel → conn.encryptionEnabled = true) := by
    cases request <;> simp [Request.entry]
  unfold Admissible Request.Reaches
  rw [findHandler_request, messageValidateIntegrity_request]
  constructor
  · rintro ⟨there, same, given, filled, found, ⟨-, long⟩, needs⟩
    cases same
    split at found
    · rename_i allocated
      cases found
      exact ⟨rfl, given, allocated, filled, long, required.mp needs⟩
    · cases found
  · rintro ⟨rfl, given, allocated, filled, long, needs⟩
    exact ⟨conn, rfl, given, filled, if_pos allocated, ⟨filled, long⟩, required.mpr needs⟩

section Handlers

variable (declarations : Declarations) (records : Records) (conn : ClientConnection) (data : List UInt8)
  (answers : RequestAnswers) {userId : UInt64}

/-- A manager that fails changes nothing, and one that finds no record fails. -/
theorem filter_changeRecord_iff {Record : Type} (key : Record → UInt64) (wanted : UInt64)
    (change : Record → Record) (stored : List Record) (keep : Record → Bool)
    (stable : ∀ record, keep (change record) = keep record) (updateOk : Bool) :
    (changeRecord key wanted change stored updateOk).2.filter keep = stored.filter keep ↔
      (updateOk = true → ∀ record ∈ stored, keep record = true → key record = wanted →
        change record = record) := by
  unfold changeRecord
  cases updateOk with
  | false => exact iff_of_true rfl nofun
  | true =>
      rw [Bool.true_and]
      split
      · exact (filter_updateKey_iff key wanted change stored keep stable).trans (by simp)
      · rename_i absent
        refine iff_of_true rfl fun _ record member _ same => absurd ?_ absent
        rw [List.any_eq_true]
        exact ⟨record, member, beq_iff_eq.mpr same⟩

theorem foreign_users_iff (users : List UserRecord) :
    Records.foreign userId { records with users := users } = records.foreign userId ↔
      users.filter (UserRecord.foreign userId) = records.users.filter (UserRecord.foreign userId) := by
  unfold Records.foreign
  rw [Records.mk.injEq]
  exact and_iff_left ⟨rfl, rfl⟩

theorem foreign_transfers_iff (transfers : List TransferRecord) :
    Records.foreign userId { records with transfers := transfers } = records.foreign userId ↔
      transfers.filter (TransferRecord.foreign userId) =
        records.transfers.filter (TransferRecord.foreign userId) := by
  unfold Records.foreign
  rw [Records.mk.injEq]
  exact ⟨fun same => same.2.1, fun same => ⟨rfl, same, rfl⟩⟩

/-- Both permissions are granted to every user that the manager knows. -/
theorem messageCheckPermission_iff (userId : UInt64) (permission : String)
    (granted : permission = "user.status.update" ∨ permission = "user.profile.update") :
    messageCheckPermission declarations records userId permission = true ↔ records.Knows userId := by
  unfold messageCheckPermission Records.Knows
  cases found : records.users.find? fun user => user.userId == userId with
  | none =>
      refine iff_of_false nofun ?_
      rintro ⟨user, member, same⟩
      exact List.find?_eq_none.mp found user member (beq_iff_eq.mpr same)
  | some user =>
      have own := List.find?_some found
      refine iff_of_true ?_ ⟨user, List.mem_of_find?_eq_some found, beq_iff_eq.mp own⟩
      dsimp only
      split
      · rfl
      · rcases granted with rfl | rfl
        · rfl
        · rfl

/-- An update of a user leaves other users alone exactly when the user is unknown or nothing is new. -/
theorem handleUpdate_foreign_iff {size : Nat} (long : size ≤ data.length) {permission : String}
    (granted : permission = "user.status.update" ∨ permission = "user.profile.update") (target : UInt64)
    (change : UserRecord → UserRecord) (stable : ∀ user, (change user).userId = user.userId) (found : Bool) :
    (handleUpdate declarations records conn data size permission target
        (found, { records with
          users := (changeRecord UserRecord.userId target change records.users answers.updateOk).2 })
        answers).2.foreign conn.userId = records.foreign conn.userId ↔
      (answers.updateOk = true → records.Knows conn.userId → ∀ user ∈ records.users,
        user.foreign conn.userId = true → user.userId = target → change user = user) := by
  have known := messageCheckPermission_iff declarations records conn.userId permission granted
  have changed := (foreign_users_iff records _).trans (filter_changeRecord_iff UserRecord.userId target change
    records.users (UserRecord.foreign conn.userId) (fun user => by simp [UserRecord.foreign, stable])
    answers.updateOk)
  unfold handleUpdate
  rw [if_neg (Nat.not_lt.mpr long)]
  split
  · rename_i refused
    have unknown : ¬ records.Knows conn.userId := by
      rw [← known]
      simpa using refused.2
    exact iff_of_true rfl fun _ knows => absurd knows unknown
  · rename_i allowed
    refine changed.trans (forall_congr' fun _ => ?_)
    by_cases knows : records.Knows conn.userId
    · exact ⟨fun all _ => all, fun all => all knows⟩
    · have own : target = conn.userId := by
        by_contra apart
        refine allowed ⟨apart, ?_⟩
        rw [← known] at knows
        simpa using knows
      refine iff_of_true ?_ fun known => absurd known knows
      intro user _ other same
      rw [own] at same
      simp [UserRecord.foreign, same] at other

theorem handleFileTransferCancel_foreign_iff (long : declarations.layout.fileTransferCancel ≤ data.length) :
    (handleFileTransferCancel declarations records data answers).2.foreign userId = records.foreign userId ↔
      (answers.updateOk = true → ∀ transfer ∈ records.transfers, transfer.foreign userId = true →
        transfer.transferId = declarations.fileTransferCancel data → transfer.cancel = transfer) := by
  unfold handleFileTransferCancel
  rw [if_neg (Nat.not_lt.mpr long)]
  exact (foreign_transfers_iff records _).trans (filter_changeRecord_iff TransferRecord.transferId _
    TransferRecord.cancel records.transfers (TransferRecord.foreign userId) (fun _ => rfl) answers.updateOk)

theorem foreign_rows_iff (status : FileTransferStatus) (transfers : List TransferRecord) (now : UInt64) :
    Records.foreign userId { records with
        transfers := transfers
        fileTransfers := updateKey TransferRow.transferId status.transferId (status.store now)
          records.fileTransfers } = records.foreign userId ↔
      transfers.filter (TransferRecord.foreign userId) =
          records.transfers.filter (TransferRecord.foreign userId) ∧
        ∀ row ∈ records.fileTransfers, row.foreign userId = true → row.transferId = status.transferId →
          status.store now row = row := by
  rw [← filter_updateKey_iff TransferRow.transferId status.transferId (status.store now) records.fileTransfers
    (TransferRow.foreign userId) fun _ => rfl]
  unfold Records.foreign
  rw [Records.mk.injEq]
  exact and_iff_right rfl

/-- The database row is written only if the manager has found the transfer and the transfer is complete. -/
theorem handleFileTransferStatus_foreign_iff (long : declarations.layout.fileTransferStatus ≤ data.length) :
    (handleFileTransferStatus declarations records msgFileProgressUpdate data answers).2.foreign userId =
        records.foreign userId ↔
      (answers.updateOk = true →
        (∀ transfer ∈ records.transfers, transfer.foreign userId = true →
          transfer.transferId = (declarations.fileTransferStatus data).transferId →
            (declarations.fileTransferStatus data).apply transfer = transfer) ∧
        ((∃ transfer ∈ records.transfers,
            transfer.transferId = (declarations.fileTransferStatus data).transferId) →
          (declarations.fileTransferStatus data).status = transferCompleted → answers.prepareOk = true →
            answers.stepOk = true → ∀ row ∈ records.fileTransfers, row.foreign userId = true →
              row.transferId = (declarations.fileTransferStatus data).transferId →
                (declarations.fileTransferStatus data).store answers.now row = row)) := by
  unfold handleFileTransferStatus
  rw [if_pos rfl, if_neg (Nat.not_lt.mpr long)]
  generalize declarations.fileTransferStatus data = status
  have changed := filter_updateKey_iff TransferRecord.transferId status.transferId status.apply
    records.transfers (TransferRecord.foreign userId) fun _ => rfl
  unfold fileTransferUpdateStatus changeRecord
  cases answers.updateOk with
  | false => exact iff_of_true rfl nofun
  | true =>
      dsimp only
      rw [Bool.true_and]
      cases known : records.transfers.any fun transfer => transfer.transferId == status.transferId with
      | false =>
          have absent : ∀ transfer ∈ records.transfers, transfer.transferId ≠ status.transferId := by
            simpa using known
          refine iff_of_true rfl fun _ => ⟨fun transfer member _ same => absurd same (absent transfer member), ?_⟩
          rintro ⟨transfer, member, same⟩
          exact absurd same (absent transfer member)
      | true =>
          have present : ∃ transfer ∈ records.transfers, transfer.transferId = status.transferId := by
            simpa using known
          rw [if_pos rfl]
          dsimp only
          by_cases stores : status.status = transferCompleted ∧ answers.prepareOk ∧ answers.stepOk
          · obtain ⟨complete, prepared, stepped⟩ := stores
            rw [if_pos ⟨complete, prepared, stepped⟩]
            refine (foreign_rows_iff records status _ answers.now).trans ?_
            rw [changed]
            constructor
            · rintro ⟨transfers, rows⟩ -
              exact ⟨transfers, fun _ _ _ _ => rows⟩
            · intro both
              obtain ⟨transfers, rows⟩ := both rfl
              exact ⟨transfers, rows present complete prepared stepped⟩
          · rw [if_neg stores]
            refine (foreign_transfers_iff records _).trans (changed.trans ?_)
            constructor
            · intro transfers _
              refine ⟨transfers, fun _ complete prepared stepped => ?_⟩
              exact absurd ⟨complete, prepared, stepped⟩ stores
            · intro both
              exact (both rfl).1

/-- A handler leaves the records of others alone exactly when its request is harmless. -/
theorem callHandler_foreign_iff (request : Request) (long : request.size declarations.layout ≤ data.length) :
    ∃ code next, callHandler declarations records conn request.messageType data answers request.entry.handler =
        some (code, next) ∧
      (next.foreign conn.userId = records.foreign conn.userId ↔
        request.Harmless declarations records conn.userId data answers) := by
  cases request with
  | userStatusUpdate =>
      exact ⟨_, (handleUserStatusUpdate declarations records conn data answers).2, rfl,
        handleUpdate_foreign_iff declarations records conn data answers long (.inl rfl)
          (declarations.userStatusUpdate data).userId (declarations.userStatusUpdate data).apply (fun _ => rfl) _⟩
  | userProfileUpdate =>
      exact ⟨_, (handleUserProfileUpdate declarations records conn data answers).2, rfl,
        handleUpdate_foreign_iff declarations records conn data answers long (.inr rfl)
          (declarations.userProfileUpdate data).userId (declarations.userProfileUpdate data).apply (fun _ => rfl) _⟩
  | fileTransferCancel =>
      exact ⟨_, _, rfl, handleFileTransferCancel_foreign_iff declarations records data answers long⟩
  | fileProgressUpdate =>
      exact ⟨_, _, rfl, handleFileTransferStatus_foreign_iff declarations records data answers long⟩

end Handlers

/-- A request leaves the records of others alone exactly when it does not reach its handler or is harmless. -/
theorem processRequest_foreign_iff (declarations : Declarations) (mallocOk : UInt32 → Bool) (records : Records)
    (conn : ClientConnection) (request : Request) (data : Option (List UInt8)) (answers : RequestAnswers) :
    ∃ code next, processRequest declarations (messageHandlerManagerCreate mallocOk) records conn request data
        answers = some (code, next) ∧
      (next.foreign conn.userId = records.foreign conn.userId ↔
        ∀ bytes, data = some bytes → request.Reaches declarations.layout mallocOk conn bytes →
          request.Harmless declarations records conn.userId bytes answers) := by
  unfold processRequest
  rcases checkMessage_cases declarations.layout (messageHandlerManagerCreate mallocOk) (some conn)
      request.messageType data with ⟨entry, bytes, admitted, admissible⟩ | ⟨none, code, stats, -, rejected⟩
  · obtain ⟨rfl, rfl, reaches⟩ := (admissible_request_iff ..).mp admissible
    obtain ⟨code, next, called, harmless⟩ := callHandler_foreign_iff declarations records conn bytes answers
      request reaches.2.2.1
    rw [admitted]
    refine ⟨code, next, called, harmless.trans ?_⟩
    constructor
    · rintro safe _ same -
      exact Option.some.inj same ▸ safe
    · intro all
      exact all bytes rfl reaches
  · rw [rejected]
    refine ⟨code, records, rfl, iff_of_true rfl ?_⟩
    rintro bytes given reaches
    exact absurd ⟨request.entry, bytes, (admissible_request_iff ..).mpr ⟨rfl, given, reaches⟩⟩ none

/-- Structures that begin with an identifier of eight bytes. -/
def sampleDeclarations : Declarations where
  layout := ⟨160, 320, 128, 512, 32, 8, 13, 16, 137, 248, 264⟩
  userStatusUpdate data :=
    ⟨UInt64.ofNat (littleEndianValue (data.take 8)), data.getD 8 0, (data.drop 9).takeWhile (· ≠ 0)⟩
  userProfileUpdate data :=
    ⟨UInt64.ofNat (littleEndianValue (data.take 8)), (data.drop 8).take 64, (data.drop 72).take 128,
      (data.drop 200).take 48⟩
  fileTransferCancel data := UInt64.ofNat (littleEndianValue (data.take 8))
  fileTransferStatus data :=
    ⟨UInt64.ofNat (littleEndianValue (data.take 8)), UInt32.ofNat (littleEndianValue ((data.drop 8).take 4)),
      data.getD 12 0⟩
  userRoleModerator := 1
  userRoleAdmin := 2

/-- Two ordinary users, and a transfer of the second one. -/
def sampleRecords : Records where
  users := [⟨7, 0, 1, [], [], [], []⟩, ⟨8, 0, 1, [], [], [], []⟩]
  transfers := [⟨5, 8, 9, 40, 1⟩]
  fileTransfers := []

/-- The first user on an encrypted connection. -/
def sampleConnection : ClientConnection := ⟨1, 6, .authenticated, true, true, 7, [], []⟩

def sampleAnswers : RequestAnswers := ⟨true, -1, true, true, 1700000000, 0⟩

/-- The status of the second user becomes the third one. -/
def forgedStatus : List UInt8 := littleEndian 8 8 ++ [3] ++ List.replicate 128 0

/-- The first user sets the status of the second one and cancels a transfer of the second one. -/
theorem processRequest_changes_foreign :
    (∀ user ∈ sampleRecords.users, user.role ≠ sampleDeclarations.userRoleAdmin) ∧
      processRequest sampleDeclarations (messageHandlerManagerCreate fun _ => true) sampleRecords sampleConnection
          .userStatusUpdate (some forgedStatus) sampleAnswers =
        some (0, { sampleRecords with users := [⟨7, 0, 1, [], [], [], []⟩, ⟨8, 0, 3, [], [], [], []⟩] }) ∧
      processRequest sampleDeclarations (messageHandlerManagerCreate fun _ => true) sampleRecords sampleConnection
          .fileTransferCancel (some (littleEndian 8 5)) sampleAnswers =
        some (0, { sampleRecords with transfers := [⟨5, 8, 9, 40, 4⟩] }) ∧
      ¬ ∀ request data code next,
        processRequest sampleDeclarations (messageHandlerManagerCreate fun _ => true) sampleRecords
            sampleConnection request data sampleAnswers = some (code, next) →
          next.foreign sampleConnection.userId = sampleRecords.foreign sampleConnection.userId := by
  have forged : processRequest sampleDeclarations (messageHandlerManagerCreate fun _ => true) sampleRecords
      sampleConnection .userStatusUpdate (some forgedStatus) sampleAnswers =
      some (0, { sampleRecords with users := [⟨7, 0, 1, [], [], [], []⟩, ⟨8, 0, 3, [], [], [], []⟩] }) := by
    decide +kernel
  refine ⟨by decide, forged, by decide +kernel, fun kept => ?_⟩
  exact absurd (kept _ _ _ _ forged) (by decide +kernel)

end SecureChat.Dispatch
