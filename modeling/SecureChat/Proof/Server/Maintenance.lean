import SecureChat.Construction.Server.Maintenance
import Mathlib.Tactic.Common
import SecureChat.Library.MachineInt

namespace SecureChat.Server.Restore

variable {Content : Type}

/-- The content that the server reads through its handle. -/
def openContent (host : Host Content) : Option Content :=
  host.server.dbConn.bind fun handle => if handle.usable then host.files handle.path else none

/-- The server works on the backup, and it runs if it did before. -/
structure Restored (before after : Host Content) (backupPath : Path) : Prop where
  content : openContent after = before.files backupPath
  running : after.server.running = before.server.running

/-- The database is in its place and as open as it was, and the server runs if it did before. -/
structure Untouched (before after : Host Content) : Prop where
  inPlace : after.files before.server.databasePath = before.files before.server.databasePath
  opened : openContent after = openContent before
  running : after.server.running = before.server.running

/-- A call that reports success has restored the backup, and any other call has done no harm. -/
structure FaithfulOrHarmless (host : Host Content) (backupPath : Option Path) (answers : RestoreAnswers) :
    Prop where
  faithful : (serverRestoreData host backupPath answers).1 = 0 →
    ∃ path, backupPath = some path ∧ Restored host (serverRestoreData host backupPath answers).2 path
  harmless : (serverRestoreData host backupPath answers).1 ≠ 0 →
    Untouched host (serverRestoreData host backupPath answers).2

/-- A stopped server has a handle for its database, and the steps for it succeed.
When they fail, there was nothing open that could get lost. -/
structure SafeSteps (host : Host Content) (path : Path) (answers : RestoreAnswers) : Prop where
  stopped : host.server.running = false
  handle : host.server.dbConn ≠ none
  steps : (answers.renames = true ∧ answers.opens = true) ∨
    (openContent host = none ∧ (answers.renames = true →
      rename host.files path (dbPath host.server) host.server.databasePath = host.files host.server.databasePath))

section Steps

open ServerInstance

/-- A server that was stopped once cannot be initialized again. -/
theorem serverStart_stopped (server : ServerInstance) (running : server.running = true) (answers : StartAnswers) :
    server.serverStop.2.serverStart answers = (-2, server.serverStop.2) := by
  unfold serverStop
  rw [if_neg (by rw [running]; decide)]
  rfl

theorem serverStop_running (server : ServerInstance) (running : server.running = true) :
    server.serverStop.2.running = false ∧ server.serverStop.2.dbConn = none := by
  unfold serverStop
  rw [if_neg (by rw [running]; decide)]
  exact ⟨rfl, rfl⟩

theorem rename_target (files : Path → Option Content) (source target : Path) :
    rename files source target target = files source := by
  unfold rename
  split
  · rename_i same
    rw [same]
  · rename_i apart
    rw [Function.update_of_ne fun same => apart same.symm, Function.update_self]

variable (host : Host Content) (path : Path) (answers : RestoreAnswers)

theorem restoreDatabase_closed (closed : host.server.dbConn = none) :
    restoreDatabase host path answers = (none, host) := by
  rw [restoreDatabase, closed]

theorem restoreDatabase_unmoved (handle : host.server.dbConn ≠ none) (fails : answers.renames = false) :
    restoreDatabase host path answers = (some (-3), { host with server := { host.server with dbConn := none } }) := by
  obtain ⟨conn, opened⟩ := Option.ne_none_iff_exists'.mp handle
  unfold restoreDatabase
  rw [opened]
  dsimp only
  rw [if_pos fails]

theorem restoreDatabase_moved (handle : host.server.dbConn ≠ none) (moves : answers.renames = true) :
    restoreDatabase host path answers =
      (if answers.opens then none else some (-4),
        ⟨{ host.server with dbConn := some ⟨dbPath host.server, answers.opens⟩ },
          rename host.files path (dbPath host.server)⟩) := by
  obtain ⟨conn, opened⟩ := Option.ne_none_iff_exists'.mp handle
  unfold restoreDatabase
  rw [opened]
  dsimp only
  rw [moves, if_neg (by decide)]
  cases answers.opens <;> rfl

variable (found : host.files path ≠ none)

include found

/-- A running server is stopped for good, and nothing is restored. -/
theorem restore_running (running : host.server.running = true) :
    (serverRestoreData host (some path) answers).1 = 0 ∧
      (serverRestoreData host (some path) answers).2.server.running = false := by
  obtain ⟨stopped, closed⟩ := serverStop_running host.server running
  unfold serverRestoreData
  dsimp only
  rw [if_neg found, running, if_pos rfl, restoreDatabase_closed _ path answers closed]
  dsimp only
  rw [if_pos rfl, serverStart_stopped host.server running]
  exact ⟨rfl, stopped⟩

/-- On a stopped server only the block for the database does something. -/
theorem restore_stopped (stopped : host.server.running = false) :
    serverRestoreData host (some path) answers =
      ((restoreDatabase host path answers).1.getD 0, (restoreDatabase host path answers).2) := by
  have idle : ¬ host.server.running = true := Bool.eq_false_iff.mp stopped
  unfold serverRestoreData
  dsimp only
  rw [if_neg found, if_neg idle]
  split
  · rename_i code after outcome
    rw [outcome, Option.getD_some]
  · rename_i after outcome
    rw [outcome, if_neg idle, Option.getD_none]

/-- What a restore does to a stopped server with a handle, when all steps succeed. -/
theorem restore_opened (stopped : host.server.running = false) (handle : host.server.dbConn ≠ none)
    (moves : answers.renames = true) (opens : answers.opens = true) :
    (serverRestoreData host (some path) answers).1 = 0 ∧
      Restored host (serverRestoreData host (some path) answers).2 path := by
  rw [restore_stopped host path answers found stopped, restoreDatabase_moved host path answers handle moves,
    if_pos opens]
  refine ⟨rfl, ?_, rfl⟩
  rw [openContent, Option.bind_some, if_pos opens]
  exact rename_target host.files path _

/-- A step that fails leaves a stopped server without its database. -/
theorem restore_failed (stopped : host.server.running = false) (handle : host.server.dbConn ≠ none)
    (fails : ¬ (answers.renames = true ∧ answers.opens = true)) :
    (serverRestoreData host (some path) answers).1 ≠ 0 ∧
      (Untouched host (serverRestoreData host (some path) answers).2 ↔
        openContent host = none ∧ (answers.renames = true →
          rename host.files path (dbPath host.server) host.server.databasePath =
            host.files host.server.databasePath)) := by
  rw [restore_stopped host path answers found stopped]
  cases moves : answers.renames with
  | false =>
      rw [restoreDatabase_unmoved host path answers handle moves]
      refine ⟨show (-3 : Int) ≠ 0 by decide, fun untouched => ⟨untouched.opened.symm, nofun⟩, fun nothing => ?_⟩
      exact ⟨rfl, nothing.1.symm, rfl⟩
  | true =>
      have closed : answers.opens = false := Bool.eq_false_iff.mpr fun opens => fails ⟨moves, opens⟩
      rw [restoreDatabase_moved host path answers handle moves, closed]
      refine ⟨show (-4 : Int) ≠ 0 by decide,
        fun untouched => ⟨untouched.opened.symm, fun _ => untouched.inPlace⟩, fun nothing => ?_⟩
      exact ⟨nothing.2 rfl, nothing.1.symm, rfl⟩

end Steps

/-- A running server never comes up again. -/
theorem FaithfulOrHarmless.stopped {host : Host Content} {path : Path} {answers : RestoreAnswers}
    (safe : FaithfulOrHarmless host (some path) answers) (found : host.files path ≠ none) :
    host.server.running = false := by
  by_contra running
  rw [Bool.not_eq_false] at running
  obtain ⟨success, ended⟩ := restore_running host path answers found running
  obtain ⟨_, _, restored⟩ := safe.faithful success
  rw [restored.running, running] at ended
  cases ended

/-- A restore is faithful or harmless exactly when there is no backup to restore,
or when the server is stopped with its database open and the steps for it succeed. -/
theorem restore_iff (host : Host Content) (backupPath : Option Path) (answers : RestoreAnswers) :
    FaithfulOrHarmless host backupPath answers ↔
      ∀ path, backupPath = some path → host.files path ≠ none → SafeSteps host path answers := by
  constructor
  · rintro safe path rfl found
    have stopped := safe.stopped found
    have handle : host.server.dbConn ≠ none := by
      intro closed
      have outcome := restore_stopped host path answers found stopped
      rw [restoreDatabase_closed host path answers closed] at outcome
      obtain ⟨_, same, restored⟩ := safe.faithful (by rw [outcome]; rfl)
      obtain rfl := Option.some.inj same
      have content := restored.content
      rw [outcome, openContent, closed] at content
      exact found content.symm
    refine ⟨stopped, handle, ?_⟩
    by_cases works : answers.renames = true ∧ answers.opens = true
    · exact .inl works
    · obtain ⟨failed, untouched⟩ := restore_failed host path answers found stopped handle works
      exact .inr (untouched.mp (safe.harmless failed))
  · intro safe
    cases backupPath with
    | none => exact ⟨nofun, fun _ => ⟨rfl, rfl, rfl⟩⟩
    | some path =>
        by_cases missing : host.files path = none
        · have refused : serverRestoreData host (some path) answers = (-2, host) := by
            unfold serverRestoreData
            exact if_pos missing
          constructor
          · rw [refused]
            exact fun success => absurd success (show (-2 : Int) ≠ 0 by decide)
          · rw [refused]
            exact fun _ => ⟨rfl, rfl, rfl⟩
        · obtain ⟨stopped, handle, steps⟩ := safe path rfl missing
          by_cases works : answers.renames = true ∧ answers.opens = true
          · obtain ⟨success, restored⟩ := restore_opened host path answers missing stopped handle works.1 works.2
            exact ⟨fun _ => ⟨path, rfl, restored⟩, fun failed => absurd success failed⟩
          · obtain ⟨failed, untouched⟩ := restore_failed host path answers missing stopped handle works
            exact ⟨fun success => absurd success failed, fun _ => untouched.mpr (steps.resolve_left works)⟩

/-- A running server with an open database and a backup beside it. -/
def runningHost : Host Nat where
  server := ⟨[1], .running, true, false, some ⟨[1], true⟩⟩
  files := fun path => if path = [1] then some 10 else if path = [2] then some 20 else none

/-- Every step would succeed. -/
def allSucceed : RestoreAnswers :=
  ⟨true, true, ⟨⟨true, true, true, true, true, true, true, true, true, true, true, true⟩, true, true, true⟩⟩

/-- The server stays down, its database is closed, and the result is success. -/
theorem restore_running_fails : ¬ FaithfulOrHarmless runningHost (some [2]) allSucceed := by
  intro safe
  exact absurd (safe.stopped (by decide)) (by decide)

end SecureChat.Server.Restore

namespace SecureChat.Server.IdleSweeps

open Library

/-- The last activity is not later than the clock, and it is longer ago than the limit. -/
structure Idle (now stamp : UInt64) (limit : Nat) : Prop where
  past : stamp ≤ now
  elapsed : (limit : Int) < now.toNat - stamp.toNat

/-- A stamp from the future is so far ahead that the difference wraps around to something small. -/
def FarAhead (now stamp : UInt64) (limit : Nat) : Prop := 2 ^ 64 ≤ limit + (stamp.toNat - now.toNat)

/-- What the limit as a word cuts off is decided by the stamp alone. -/
theorem elapsed_idle_iff (now stamp limit : UInt64) (wanted : Nat) :
    (now - stamp > limit → Idle now stamp wanted) ↔
      if stamp ≤ now then now.toNat - stamp.toNat ≤ limit.toNat ∨ wanted < now.toNat - stamp.toNat
      else FarAhead now stamp limit.toNat := by
  rw [elapsed_gt_iff]
  split
  · rename_i past
    have order := UInt64.le_iff_toNat_le.mp past
    constructor
    · intro idle
      by_cases early : now.toNat - stamp.toNat ≤ limit.toNat
      · exact .inl early
      · have elapsed := (idle (Nat.lt_of_not_le early)).elapsed
        exact .inr (by omega)
    · rintro (early | late) beyond
      · exact absurd early (Nat.not_le_of_lt beyond)
      · exact ⟨past, by omega⟩
  · rename_i ahead
    constructor
    · intro idle
      by_contra near
      exact ahead (idle (Nat.lt_of_not_le near)).past
    · intro far near
      exact absurd far (Nat.not_le_of_lt near)

section Pool

open ConnectionPool

variable (now timeoutMs : UInt64) (remove : Pool → Nat → Option Pool)

/-- The round removes a connection only if it is idle. -/
def RemovesIdleSlot (state : Option Pool × Nat) (updates : List ActivityUpdate) : Prop :=
  ∀ slot ∈ ((poolSweep now timeoutMs remove).machine.step state updates).2, Idle now slot.lastActivity timeoutMs.toNat

/-- The connection that the round looks at has no stamp from the near future. -/
def NoSlotAhead (state : Option Pool × Nat) (updates : List ActivityUpdate) : Prop :=
  ∀ slot, (poolSweep now timeoutMs remove).looked state updates = some slot → slot.fd ≠ -1 →
    now < slot.lastActivity → FarAhead now slot.lastActivity timeoutMs.toNat

theorem poolSweep_iff (state : Option Pool × Nat) (rounds : List (List ActivityUpdate)) :
    (poolSweep now timeoutMs remove).machine.Along (RemovesIdleSlot now timeoutMs remove) state rounds ↔
      (poolSweep now timeoutMs remove).machine.Along (NoSlotAhead now timeoutMs remove) state rounds := by
  refine ((poolSweep now timeoutMs remove).removes_iff _ state rounds).trans ?_
  refine Machine.along_iff_along _ _ _ (fun _ => True) (fun state updates _ => ?_) (fun _ _ _ _ => trivial)
    state rounds trivial
  refine forall_congr' fun slot => imp_congr_right fun _ => ?_
  show (decide (slot.fd ≠ -1 ∧ now - slot.lastActivity > timeoutMs) = true → _) ↔ _
  rw [decide_eq_true_iff, and_imp, elapsed_idle_iff]
  refine imp_congr_right fun _ => ?_
  split
  · rename_i past
    constructor
    · intro _ ahead
      exact absurd past (UInt64.not_le.mpr ahead)
    · intro _
      exact (Nat.lt_or_ge _ _).symm
  · rename_i ahead
    constructor
    · intro far _
      exact far
    · intro far
      exact far (UInt64.not_le.mp ahead)

theorem poolSweep_round {pool : Pool} (free : pool.blocked = false) (index : Nat) :
    (poolSweep now timeoutMs removeAt).round pool index = cleanupSlot now timeoutMs pool index := by
  have seen : (poolSweep now timeoutMs removeAt).entry pool index = pool.connections[index]? :=
    if_neg (by rw [free]; exact Bool.false_ne_true)
  rw [Sweep.round, seen]
  rfl

theorem poolSweep_foldlM {pool : Pool} (free : pool.blocked = false) (indices : List Nat) :
    indices.foldlM (poolSweep now timeoutMs removeAt).round pool =
      indices.foldlM (cleanupSlot now timeoutMs) pool := by
  induction indices with
  | nil => rfl
  | cons index rest ih =>
      rw [List.foldlM_cons, List.foldlM_cons, poolSweep_round now timeoutMs free]
      unfold cleanupSlot
      split
      · rfl
      · exact ih

/-- Without activity beside it, the sweep is the loop of the pool. -/
theorem poolSweep_quiet (pool : Pool) (free : pool.blocked = false) :
    ((poolSweep now timeoutMs removeAt).machine.run (some pool, 0)
        (List.replicate pool.connections.length [])).1.1 = connectionPoolCleanupExpired pool now timeoutMs := by
  rw [Sweep.run_quiet, Option.bind_some, ← List.range_eq_range', poolSweep_foldlM now timeoutMs free,
    connectionPoolCleanupExpired, free, if_neg Bool.false_ne_true]

end Pool

section Clients

open WebSocket.Clients

variable (currentTime : UInt64) (timeout : UInt32) (remove : Server → Nat → Option Server)

/-- The round removes a client only if it is open and idle for the seconds of the configuration. -/
def RemovesIdleClient (state : Option Server × Nat) (updates : List ActivityUpdate) : Prop :=
  ∀ client ∈ ((clientSweep currentTime timeout remove).machine.step state updates).2,
    client.state = .open ∧ Idle currentTime client.lastActivity (timeout.toNat * 1000)

/-- The open client that the round looks at has no stamp from the near future,
and it is not idle for a time between the wrapped limit and the right one. -/
def NoClientBetween (state : Option Server × Nat) (updates : List ActivityUpdate) : Prop :=
  ∀ client, (clientSweep currentTime timeout remove).looked state updates = some client → client.state = .open →
    (currentTime < client.lastActivity →
      FarAhead currentTime client.lastActivity (timeout.toNat * 1000 % 2 ^ 32)) ∧
    (client.lastActivity ≤ currentTime →
      currentTime.toNat - client.lastActivity.toNat ≤ timeout.toNat * 1000 % 2 ^ 32 ∨
        timeout.toNat * 1000 < currentTime.toNat - client.lastActivity.toNat)

theorem timeoutMs_toNat : (timeoutMs timeout).toNat = timeout.toNat * 1000 % 2 ^ 32 := by
  rw [timeoutMs, UInt32.toNat_toUInt64, UInt32.toNat_mul]
  rfl

theorem clientSweep_iff (state : Option Server × Nat) (rounds : List (List ActivityUpdate)) :
    (clientSweep currentTime timeout remove).machine.Along (RemovesIdleClient currentTime timeout remove)
        state rounds ↔
      (clientSweep currentTime timeout remove).machine.Along (NoClientBetween currentTime timeout remove)
        state rounds := by
  refine ((clientSweep currentTime timeout remove).removes_iff _ state rounds).trans ?_
  refine Machine.along_iff_along _ _ _ (fun _ => True) (fun state updates _ => ?_) (fun _ _ _ _ => trivial)
    state rounds trivial
  refine forall_congr' fun client => imp_congr_right fun _ => ?_
  show (decide (client.state = .open ∧ currentTime - client.lastActivity > timeoutMs timeout) = true → _) ↔ _
  rw [decide_eq_true_iff, and_imp]
  refine imp_congr_right fun isOpen => ?_
  have decided := elapsed_idle_iff currentTime client.lastActivity (timeoutMs timeout) (timeout.toNat * 1000)
  rw [timeoutMs_toNat] at decided
  constructor
  · intro right
    have here := decided.mp fun beyond => (right beyond).2
    constructor
    · intro ahead
      rwa [if_neg (UInt64.not_le.mpr ahead)] at here
    · intro past
      rwa [if_pos past] at here
  · rintro ⟨ahead, past⟩ beyond
    refine ⟨isOpen, decided.mpr ?_ beyond⟩
    split
    · rename_i before
      exact past before
    · rename_i after
      exact ahead (UInt64.not_le.mp after)

/-- The removal in the sweep waits for the lock that the sweep holds. -/
def removeLocked (server : Server) (_index : Nat) : Option Server := some server.removeUnderLock

theorem clientSweep_round (server : Server) (index : Nat) :
    (clientSweep currentTime server.timeout removeLocked).round server index =
      some (Server.checkClient currentTime server index) := by
  unfold Server.checkClient
  split
  · rename_i busy
    have seen : (clientSweep currentTime server.timeout removeLocked).entry server index = none := if_pos busy
    rw [Sweep.round, seen]
    rfl
  · rename_i free
    have seen : (clientSweep currentTime server.timeout removeLocked).entry server index =
      server.clients[index]?.join := if_neg free
    rw [Sweep.round, seen]
    cases server.clients[index]? with
    | none => rfl
    | some slot =>
        cases slot with
        | none => rfl
        | some client =>
            show (if decide (client.state = .open ∧ currentTime - client.lastActivity > timeoutMs server.timeout) = true
              then some server.removeUnderLock else some server) = _
            simp only [decide_eq_true_eq, ite_and, ne_eq, ite_not]
            split
            · exact (apply_ite some _ _ _).symm
            · rfl

theorem checkClient_timeout (server : Server) (index : Nat) :
    (Server.checkClient currentTime server index).timeout = server.timeout := by
  unfold Server.checkClient
  split
  · rfl
  · split
    · split
      · rfl
      · split <;> rfl
    · rfl

theorem clientSweep_foldlM (server : Server) (indices : List Nat) :
    indices.foldlM (clientSweep currentTime server.timeout removeLocked).round server =
      some (indices.foldl (Server.checkClient currentTime) server) := by
  induction indices generalizing server with
  | nil => rfl
  | cons index rest ih =>
      have next := ih (Server.checkClient currentTime server index)
      rw [checkClient_timeout] at next
      rw [List.foldlM_cons, clientSweep_round, List.foldl_cons, ← next]
      rfl

/-- Without activity beside it, the sweep is the loop of the server. -/
theorem clientSweep_quiet (server : Server) :
    ((clientSweep currentTime server.timeout removeLocked).machine.run (some server, 0)
        (List.replicate server.maxClients.toNat [])).1.1 = some (server.checkClientTimeout currentTime) := by
  rw [Sweep.run_quiet, Option.bind_some, ← List.range_eq_range', clientSweep_foldlM]
  rfl

end Clients

/-- Both sweeps remove only what is idle, exactly as long as the unsigned differences and the product
for the limit do not wrap around to the wrong side. -/
theorem idleSweeps_iff (now timeoutMs currentTime : UInt64)
    (removeSlot : ConnectionPool.Pool → Nat → Option ConnectionPool.Pool)
    (removeClient : WebSocket.Clients.Server → Nat → Option WebSocket.Clients.Server)
    (pool : ConnectionPool.Pool) (server : WebSocket.Clients.Server) (rounds : List (List ActivityUpdate)) :
    ((poolSweep now timeoutMs removeSlot).machine.Along (RemovesIdleSlot now timeoutMs removeSlot)
        (some pool, 0) rounds ↔
      (poolSweep now timeoutMs removeSlot).machine.Along (NoSlotAhead now timeoutMs removeSlot)
        (some pool, 0) rounds) ∧
    ((clientSweep currentTime server.timeout removeClient).machine.Along
        (RemovesIdleClient currentTime server.timeout removeClient) (some server, 0) rounds ↔
      (clientSweep currentTime server.timeout removeClient).machine.Along
        (NoClientBetween currentTime server.timeout removeClient) (some server, 0) rounds) :=
  ⟨poolSweep_iff now timeoutMs removeSlot (some pool, 0) rounds,
    clientSweep_iff currentTime server.timeout removeClient (some server, 0) rounds⟩

/-- A pool with one connection, which was used at the time 1000. -/
def usedPool : ConnectionPool.Pool := ConnectionPool.connectionPoolAdd (ConnectionPool.connectionPoolCreate 1) 5 1000 true

/-- The clock is read at the time 1000, and a message comes in one millisecond later. -/
theorem idleSweeps_newer_fails :
    ¬ (poolSweep 1000 60000 ConnectionPool.removeAt).machine.Along
      (RemovesIdleSlot 1000 60000 ConnectionPool.removeAt) (some usedPool, 0) [[⟨0, 1001⟩]] := by
  rw [poolSweep_iff]
  rintro ⟨none, -⟩
  exact absurd (none ⟨1, 5, .new, 1001, true⟩ (by decide) (by decide) (by decide)) (by unfold FarAhead; decide)

end SecureChat.Server.IdleSweeps

namespace SecureChat.Server.Cleanup
open Library

/-- The times for which messages and audit rows are kept, in milliseconds. -/
def thirtyDays : Int := 30 * 24 * 3600 * 1000

def sevenDays : Int := 7 * 24 * 3600 * 1000

/-- The row is from more than this time before now. -/
def Row.olderThan (now : UInt64) (age : Int) (row : Row) : Bool := row.time.any fun time => time.toInt < now.toNat - age

/-- The row lies on different sides of the two cut-off times. -/
def Row.Between (first second : Int) (row : Row) : Prop :=
  ∃ time, row.time = some time ∧ min first second ≤ time.toInt ∧ time.toInt < max first second

/-- Every statement of the clean-up succeeds. -/
def allDone : CleanupAnswers := ⟨⟨true, true⟩, ⟨true, true⟩, ⟨true, true⟩⟩

/-- The rows that are too old are gone, all others are there, and the result counts what is gone. -/
structure Retained (now : UInt64) (before after : Database) (total : UInt64) : Prop where
  messages : after.messages.rows = before.messages.rows.filter fun row => !row.olderThan now thirtyDays
  auditLog : after.auditLog.rows = before.auditLog.rows.filter fun row => !row.olderThan now sevenDays
  counted : total.toNat + after.sessions.rows.length + after.messages.rows.length + after.auditLog.rows.length =
    before.sessions.rows.length + before.messages.rows.length + before.auditLog.rows.length

/-- The clean-up keeps what it promises for this content of the database. -/
def KeepsPromise (sessionTimeout : Int32) (db : Database) (now : UInt64) : Prop :=
  ∃ after, (serverCleanupExpiredData ⟨sessionTimeout, some db⟩ now allDone).1.dbConn = some after ∧
    Retained now db after (serverCleanupExpiredData ⟨sessionTimeout, some db⟩ now allDone).2

/-- No row lies between a cut-off time of the code and the promised one,
and no statement deletes more rows than an `int` can count. -/
structure Unharmed (sessionTimeout : Int32) (db : Database) (now : UInt64) : Prop where
  messages : ∀ row ∈ db.messages.rows, ¬ row.Between (now.toNat - thirtyDays) (messageExpiry now).toInt
  auditLog : ∀ row ∈ db.auditLog.rows, ¬ row.Between (now.toNat - sevenDays) (auditExpiry now).toInt
  fewSessions : db.sessions.rows.countP (Row.before (expiredTime now sessionTimeout)) < 2 ^ 31
  fewMessages : db.messages.rows.countP (Row.before (messageExpiry now)) < 2 ^ 31
  fewAudits : db.auditLog.rows.countP (Row.before (auditExpiry now)) < 2 ^ 31

section CutOffs

theorem minusInt_toNat (now : UInt64) (age : Int32) :
    ((minusInt now age).toNat : Int) = (now.toNat - age.toInt) % 2 ^ 64 := by
  have signed := int32_toUInt64_toNat age
  have difference := UInt64.toNat_sub now age.toInt64.toUInt64
  have bound := age.toInt64.toUInt64.toNat_lt
  rw [minusInt, difference]
  omega

/-- The product of the constants is negative, so the cut-off time of the messages lies in the future. -/
theorem messageExpiry_future (now : UInt64) (small : now.toNat + 1702967296 < 2 ^ 63) :
    (messageExpiry now).toInt = now.toNat + 1702967296 := by
  have shifted := minusInt_toNat now messageAge
  have age : messageAge.toInt = -1702967296 := by decide
  rw [age] at shifted
  rw [messageExpiry, toInt64_toInt_small _ (by omega)]
  omega

/-- The smaller product fits. -/
theorem auditExpiry_past (now : UInt64) (late : 604800000 ≤ now.toNat) (small : now.toNat < 2 ^ 63) :
    (auditExpiry now).toInt = now.toNat - sevenDays := by
  have shifted := minusInt_toNat now auditAge
  have age : auditAge.toInt = 604800000 := by decide
  have promised : sevenDays = 604800000 := by decide
  rw [age] at shifted
  rw [auditExpiry, toInt64_toInt_small _ (by omega), promised]
  omega

end CutOffs

section Rows

/-- A row is judged as promised exactly when it is not between the two times. -/
theorem before_eq_olderThan (row : Row) (cutoff : Int64) (now : UInt64) (age : Int) :
    row.before cutoff = row.olderThan now age ↔ ¬ row.Between (now.toNat - age) cutoff.toInt := by
  unfold Row.before Row.olderThan Row.Between
  cases row.time with
  | none => simp
  | some time =>
      simp only [Option.any_some, decide_eq_decide, Int64.lt_iff_toInt_lt, Option.some.injEq, exists_eq_left']
      omega

theorem filter_eq_filter_iff {Entry : Type*} (entries : List Entry) (first second : Entry → Bool) :
    entries.filter first = entries.filter second ↔ ∀ entry ∈ entries, first entry = second entry := by
  constructor
  · intro same entry member
    have left : entry ∈ entries.filter first ↔ entry ∈ entries ∧ first entry = true := List.mem_filter
    have right : entry ∈ entries.filter second ↔ entry ∈ entries ∧ second entry = true := List.mem_filter
    rw [same] at left
    have agree := left.symm.trans right
    rw [and_iff_right member, and_iff_right member] at agree
    exact Bool.eq_iff_iff.mpr agree
  · exact List.filter_congr

/-- The right rows stay exactly when no row is between the two times. -/
theorem deleteBefore_iff (table : Table) (cutoff : Int64) (now : UInt64) (age : Int) :
    (table.deleteBefore cutoff).rows = table.rows.filter (fun row => !row.olderThan now age) ↔
      ∀ row ∈ table.rows, ¬ row.Between (now.toNat - age) cutoff.toInt := by
  rw [Table.deleteBefore, filter_eq_filter_iff]
  refine forall₂_congr fun row _ => ?_
  rw [← before_eq_olderThan]
  exact Bool.not_inj_iff

theorem deleteBefore_length (table : Table) (cutoff : Int64) :
    (table.deleteBefore cutoff).rows.length + table.rows.countP (Row.before cutoff) = table.rows.length := by
  rw [Table.deleteBefore, List.length_eq_countP_add_countP (Row.before cutoff) (l := table.rows),
    ← List.countP_eq_length_filter, Nat.add_comm]
  simp

end Rows

section Counting

/-- The three results of `sqlite3_changes` add up to the number of deleted rows
exactly when each of them is right. -/
theorem changes_add (first second third : Nat) (bound : first + second + third < 2 ^ 60) :
    (0 + (Int32.ofNat first).toInt64.toUInt64 + (Int32.ofNat second).toInt64.toUInt64 +
        (Int32.ofNat third).toInt64.toUInt64 : UInt64).toNat = first + second + third ↔
      first < 2 ^ 31 ∧ second < 2 ^ 31 ∧ third < 2 ^ 31 := by
  obtain ⟨low, high, same⟩ := int32_ofNat_toInt first
  obtain ⟨low', high', same'⟩ := int32_ofNat_toInt second
  obtain ⟨low'', high'', same''⟩ := int32_ofNat_toInt third
  have word := int32_toUInt64_toNat (Int32.ofNat first)
  have word' := int32_toUInt64_toNat (Int32.ofNat second)
  have word'' := int32_toUInt64_toNat (Int32.ofNat third)
  rw [← same, ← same', ← same'', UInt64.toNat_add, UInt64.toNat_add, UInt64.toNat_add]
  have zero : (0 : UInt64).toNat = 0 := rfl
  rw [zero]
  omega

end Counting

/-- What the three statements leave, and the sum of their counts. -/
theorem cleanup_allDone (sessionTimeout : Int32) (db : Database) (now : UInt64) :
    serverCleanupExpiredData ⟨sessionTimeout, some db⟩ now allDone =
      (⟨sessionTimeout, some ⟨db.sessions.deleteBefore (expiredTime now sessionTimeout),
        db.messages.deleteBefore (messageExpiry now), db.auditLog.deleteBefore (auditExpiry now)⟩⟩,
        0 + (sqlite3Changes db.sessions (expiredTime now sessionTimeout)).toInt64.toUInt64 +
          (sqlite3Changes db.messages (messageExpiry now)).toInt64.toUInt64 +
          (sqlite3Changes db.auditLog (auditExpiry now)).toInt64.toUInt64) := rfl

/-- The result is the number of deleted rows exactly when no count overflows. -/
theorem cleanup_counted_iff (sessionTimeout : Int32) (db : Database) (now : UInt64) :
    (serverCleanupExpiredData ⟨sessionTimeout, some db⟩ now allDone).2.toNat +
          (db.sessions.deleteBefore (expiredTime now sessionTimeout)).rows.length +
          (db.messages.deleteBefore (messageExpiry now)).rows.length +
          (db.auditLog.deleteBefore (auditExpiry now)).rows.length =
        db.sessions.rows.length + db.messages.rows.length + db.auditLog.rows.length ↔
      db.sessions.rows.countP (Row.before (expiredTime now sessionTimeout)) < 2 ^ 31 ∧
        db.messages.rows.countP (Row.before (messageExpiry now)) < 2 ^ 31 ∧
        db.auditLog.rows.countP (Row.before (auditExpiry now)) < 2 ^ 31 := by
  have sessions := deleteBefore_length db.sessions (expiredTime now sessionTimeout)
  have messages := deleteBefore_length db.messages (messageExpiry now)
  have auditLog := deleteBefore_length db.auditLog (auditExpiry now)
  have bounded := db.sessions.bounded
  have bounded' := db.messages.bounded
  have bounded'' := db.auditLog.bounded
  have added := changes_add (db.sessions.rows.countP (Row.before (expiredTime now sessionTimeout)))
    (db.messages.rows.countP (Row.before (messageExpiry now)))
    (db.auditLog.rows.countP (Row.before (auditExpiry now))) (by omega)
  rw [← added, cleanup_allDone]
  dsimp only [sqlite3Changes]
  omega

/-- All statements are executed, so the promise says which rows they delete. -/
theorem KeepsPromise.unharmed {sessionTimeout : Int32} {db : Database} {now : UInt64}
    (keeps : KeepsPromise sessionTimeout db now) : Unharmed sessionTimeout db now := by
  obtain ⟨after, left, retained⟩ := keeps
  rw [cleanup_allDone] at left
  obtain rfl := Option.some.inj left
  obtain ⟨sessions, messages, auditLog⟩ := (cleanup_counted_iff sessionTimeout db now).mp retained.counted
  exact ⟨(deleteBefore_iff _ _ now thirtyDays).mp retained.messages,
    (deleteBefore_iff _ _ now sevenDays).mp retained.auditLog, sessions, messages, auditLog⟩

/-- The clean-up keeps its promise exactly when no row falls between the wrong times and the right ones
and no count overflows. -/
theorem retention_iff (sessionTimeout : Int32) (db : Database) (now : UInt64) :
    KeepsPromise sessionTimeout db now ↔ Unharmed sessionTimeout db now := by
  have counted := cleanup_counted_iff sessionTimeout db now
  constructor
  · exact KeepsPromise.unharmed
  · intro unharmed
    refine ⟨_, rfl, ?_, ?_, ?_⟩
    · exact (deleteBefore_iff _ _ now thirtyDays).mpr unharmed.messages
    · exact (deleteBefore_iff _ _ now sevenDays).mpr unharmed.auditLog
    · exact counted.mpr ⟨unharmed.fewSessions, unharmed.fewMessages, unharmed.fewAudits⟩

/-- On every clock of this age of the world, all messages of the last thirty days are lost,
and no audit row is. -/
theorem unharmed_iff (sessionTimeout : Int32) (db : Database) (now : UInt64) (late : 604800000 ≤ now.toNat)
    (small : now.toNat + 1702967296 < 2 ^ 63) :
    Unharmed sessionTimeout db now ↔
      (∀ row ∈ db.messages.rows, ∀ time, row.time = some time →
        time.toInt < now.toNat - thirtyDays ∨ now.toNat + 1702967296 ≤ time.toInt) ∧
      db.sessions.rows.countP (Row.before (expiredTime now sessionTimeout)) < 2 ^ 31 ∧
      db.messages.rows.countP (Row.before (messageExpiry now)) < 2 ^ 31 ∧
      db.auditLog.rows.countP (Row.before (auditExpiry now)) < 2 ^ 31 := by
  have future := messageExpiry_future now small
  have past := auditExpiry_past now late (by omega)
  have kept : thirtyDays = 2592000000 := by decide
  constructor
  · intro unharmed
    refine ⟨fun row member time known => ?_, unharmed.fewSessions, unharmed.fewMessages, unharmed.fewAudits⟩
    by_contra inside
    exact unharmed.messages row member ⟨time, known, by omega, by omega⟩
  · rintro ⟨outside, sessions, messages, auditLog⟩
    refine ⟨?_, ?_, sessions, messages, auditLog⟩
    · rintro row member ⟨time, known, low, high⟩
      have apart := outside row member time known
      omega
    · rintro row member ⟨time, known, low, high⟩
      omega

/-- A message that has just been sent is deleted. -/
theorem retention_newMessage_fails :
    ¬ KeepsPromise 3600000 ⟨⟨[], by decide⟩, ⟨[⟨1, some 1700000000000⟩], by decide⟩, ⟨[], by decide⟩⟩
      1700000000000 := by
  intro keeps
  refine keeps.unharmed.messages ⟨1, some 1700000000000⟩ List.mem_cons_self ⟨1700000000000, rfl, ?_⟩
  decide

end SecureChat.Server.Cleanup
