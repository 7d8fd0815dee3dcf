import Mathlib.Algebra.Order.BigOperators.Group.List
import Mathlib.Algebra.Order.Ring.Nat
import Mathlib.Data.List.Nodup
import SecureChat.Construction.Database1.Pool
import SecureChat.Library.Slots

namespace SecureChat.Database1
open Library

variable {Handle : Type}

/-- The connections of the slots that are in use. -/
def DatabasePool.lent (pool : DatabasePool Handle) : List (Sqlite3 Handle) :=
  pool.connections.filterMap (lentBy DbConnection.conn DbConnection.inUse)

/-- A slot in use has a connection, and a connection can write. -/
structure SlotReady (slot : DbConnection Handle) : Prop where
  used : slot.inUse = true → slot.conn ≠ none
  write : slot.isWriteConn = slot.conn.isSome
  writable : ∀ conn, slot.conn = some conn → conn.readOnly = false

/-- The pool counts its connections, and no connection lies in two slots.
Without a positive bound no slot is ever used. -/
structure PoolReady (pool : DatabasePool Handle) : Prop where
  size : 0 < pool.maxConnections → pool.connections.length = pool.maxConnections.toNat
  closed : pool.maxConnections ≤ 0 → ∀ slot ∈ pool.connections, slot.inUse = false
  slots : ∀ slot ∈ pool.connections, SlotReady slot
  counted : pool.activeConnections = pool.opened.length
  distinct : (pool.opened.map Sqlite3.handle).Nodup

theorem PoolReady.opened_nodup {pool : DatabasePool Handle} (ready : PoolReady pool) :
    pool.opened.Nodup := List.Nodup.of_map _ ready.distinct

/-- A search through the slots finds a slot of the array. -/
theorem visited_found {pool : DatabasePool Handle} {test : DbConnection Handle → Bool} {index : Nat}
    (found : pool.visited.findIdx? test = some index) :
    0 < pool.maxConnections ∧
      ∃ slot ∈ pool.visited, pool.connections[index]? = some slot ∧ test slot = true := by
  obtain ⟨inside, slot, stored, passes⟩ := findIdx?_take found
  refine ⟨by omega, slot, ?_, stored, passes⟩
  apply List.mem_of_getElem? (i := index)
  rw [DatabasePool.visited, List.getElem?_take_of_lt inside, stored]

/-- A changed slot that is ready keeps the pool ready. -/
theorem PoolReady.set {pool : DatabasePool Handle} (ready : PoolReady pool)
    (positive : 0 < pool.maxConnections) (index : Nat) (new : DbConnection Handle) (slot : SlotReady new)
    (count : Nat) (counted : count = (pool.connections.set index new |>.filterMap DbConnection.conn).length)
    (distinct : ((pool.connections.set index new |>.filterMap DbConnection.conn).map Sqlite3.handle).Nodup) :
    PoolReady { pool with connections := pool.connections.set index new, activeConnections := count } where
  size positive := by
    rw [List.length_set]
    exact ready.size positive
  closed unbounded := by
    exact absurd positive (Int.not_lt.mpr unbounded)
  slots other member := by
    rcases List.mem_or_eq_of_mem_set member with old | rfl
    · exact ready.slots other old
    · exact slot
  counted := counted
  distinct := distinct

/-- A slot that keeps its connection keeps the pool ready. -/
theorem PoolReady.set_same {pool : DatabasePool Handle} (ready : PoolReady pool)
    (positive : 0 < pool.maxConnections) (index : Nat) (old new : DbConnection Handle)
    (found : pool.connections[index]? = some old) (same : new.conn = old.conn) (slot : SlotReady new) :
    PoolReady { pool with connections := pool.connections.set index new } := by
  have moved := set_filterMap pool.connections DbConnection.conn index old new found
  rw [same] at moved
  have kept := (List.perm_append_left_iff _).mp moved
  apply ready.set positive index new slot
  · rw [kept.length_eq]
    exact ready.counted
  · exact (kept.map Sqlite3.handle).nodup_iff.mpr ready.distinct

/-- The loops visit every slot of a pool that has a positive bound. -/
theorem PoolReady.visited_eq {pool : DatabasePool Handle} (ready : PoolReady pool)
    (positive : 0 < pool.maxConnections) : pool.visited = pool.connections := by
  rw [DatabasePool.visited, ← ready.size positive, List.take_length]

/-- A pool with as many connections as it may have has one in each slot. -/
theorem PoolReady.full {pool : DatabasePool Handle} (ready : PoolReady pool)
    (full : pool.maxConnections ≤ pool.activeConnections) :
    ∀ slot ∈ pool.visited, slot.conn ≠ none := by
  intro slot member null
  by_cases positive : 0 < pool.maxConnections
  · rw [ready.visited_eq positive] at member
    have fewer : (pool.connections.filterMap DbConnection.conn).length < pool.connections.length := by
      apply Nat.lt_of_le_of_ne (List.length_filterMap_le _ _)
      intro equal
      have every := List.filterMap_length_eq_length.mp equal slot member
      rw [null] at every
      cases every
    have counted := ready.counted
    have size := ready.size positive
    rw [DatabasePool.opened] at counted
    omega
  · rw [DatabasePool.visited, Int.toNat_of_nonpos (by omega), List.take_zero] at member
    cases member

/-- A pool whose slots are all in use has lent as many connections as it may have. -/
theorem PoolReady.exhausted {pool : DatabasePool Handle} (ready : PoolReady pool)
    (used : ∀ slot ∈ pool.visited, slot.inUse = true) :
    pool.maxConnections ≤ pool.lent.length := by
  by_cases positive : 0 < pool.maxConnections
  · rw [ready.visited_eq positive] at used
    have every : pool.lent.length = pool.connections.length := by
      apply List.filterMap_length_eq_length.mpr
      intro slot member
      rw [lentBy_of_busy _ _ slot (used slot member), Option.isSome_iff_ne_none]
      exact (ready.slots slot member).used (used slot member)
    have size := ready.size positive
    omega
  · omega

/-- What a successful get call does: it lends a connection that can write. -/
structure Grants (pool next : DatabasePool Handle) (conn : Sqlite3 Handle) : Prop where
  ready : PoolReady next
  lent : next.lent.Perm (conn :: pool.lent)
  writable : conn.readOnly = false
  bound : next.maxConnections = pool.maxConnections
  grows : pool.activeConnections ≤ next.activeConnections

/-- An idle slot with a connection lends it. -/
theorem takeConnection_grants (pool : DatabasePool Handle) (ready : PoolReady pool)
    (positive : 0 < pool.maxConnections) (index : Nat) (slot : DbConnection Handle)
    (found : pool.connections[index]? = some slot) (idle : slot.inUse = false) (conn : Sqlite3 Handle)
    (stored : slot.conn = some conn) :
    ∃ next, takeConnection pool index = (next, some conn) ∧ Grants pool next conn := by
  have old := ready.slots slot (List.mem_of_getElem? found)
  have moved := set_filterMap pool.connections (lentBy DbConnection.conn DbConnection.inUse) index slot
    { slot with inUse := true } found
  have before := lentBy_of_idle DbConnection.conn DbConnection.inUse slot idle
  have after : lentBy DbConnection.conn DbConnection.inUse { slot with inUse := true } = some conn := stored
  rw [before, after] at moved
  refine ⟨_, Prod.ext rfl ?_, ?_⟩
  · rw [takeConnection, found]
    exact stored
  · rw [takeConnection, modify_eq_set _ _ _ _ found]
    apply Grants.mk
    · apply ready.set_same positive index slot { slot with inUse := true } found rfl
      exact ⟨fun _ => by rw [stored]; exact Option.some_ne_none conn, old.write, old.writable⟩
    · exact moved
    · exact old.writable conn stored
    · rfl
    · exact Nat.le_refl _

/-- Nothing is available for a call that waits, and the pool has all its connections. -/
structure Exhausted (pool : DatabasePool Handle) : Prop where
  used : ∀ slot ∈ pool.visited, slot.inUse = true
  full : pool.maxConnections ≤ pool.activeConnections

/-- A slot that a ready pool offers has a connection, if it is the slot of a connection that can write. -/
theorem findConnection_spec (pool : DatabasePool Handle) (ready : PoolReady pool) (write : Bool)
    (index : Nat) (found : findConnection pool write = some index)
    (filled : write = false → pool.connections[index]?.bind DbConnection.conn ≠ none) :
    ∃ next conn, takeConnection pool index = (next, some conn) ∧ Grants pool next conn := by
  obtain ⟨positive, slot, -, stored, passes⟩ := visited_found found
  rw [available, Bool.and_eq_true, Bool.or_eq_true, Bool.not_eq_true', Bool.not_eq_true'] at passes
  obtain ⟨kind, idle⟩ := passes
  have opened : slot.conn ≠ none := by
    cases write with
    | false =>
        have filled := filled rfl
        rwa [stored, Option.bind_some] at filled
    | true =>
        rcases kind with kind | kind
        · cases kind
        · have ready := ready.slots slot (List.mem_of_getElem? stored)
          rwa [ready.write, Option.isSome_iff_ne_none] at kind
  obtain ⟨conn, there⟩ := Option.ne_none_iff_exists'.mp opened
  obtain ⟨next, taken, grants⟩ := takeConnection_grants pool ready positive index slot stored idle conn there
  exact ⟨next, conn, taken, grants⟩

/-- A pool with fewer connections than it may have has a slot without one. -/
theorem PoolReady.spare {pool : DatabasePool Handle} (ready : PoolReady pool)
    (spare : (pool.activeConnections : Int) < pool.maxConnections) :
    ∃ index, (pool.visited.findIdx? fun slot => slot.conn.isNone) = some index := by
  by_contra missing
  have positive : 0 < pool.maxConnections := by omega
  have every : pool.opened.length = pool.connections.length := by
    apply List.filterMap_length_eq_length.mpr
    intro slot member
    rw [← ready.visited_eq positive] at member
    have none := Option.eq_none_iff_forall_ne_some.mpr fun index found => missing ⟨index, found⟩
    have filled := List.findIdx?_eq_none_iff.mp none slot member
    rwa [Option.isNone_eq_false_iff] at filled
  have counted := ready.counted
  have size := ready.size positive
  omega

/-- A slot without a connection gets one that can write and that no other slot has. -/
theorem createConnection_ready (sqlite : Sqlite3OpenV2 Handle) (seed : Nat) (pool : DatabasePool Handle)
    (ready : PoolReady pool) (positive : 0 < pool.maxConnections) (index : Nat)
    (slot : DbConnection Handle) (found : pool.connections[index]? = some slot) (null : slot.conn = none) :
    PoolReady { pool with
      connections := pool.connections.set index
        { slot with conn := some (dbOpenConnection sqlite seed pool.opened true), isWriteConn := true }
      activeConnections := pool.activeConnections + 1 } := by
  have moved := set_filterMap pool.connections DbConnection.conn index slot
    { slot with conn := some (dbOpenConnection sqlite seed pool.opened true), isWriteConn := true } found
  rw [null] at moved
  have added : ((pool.connections.set index { slot with
      conn := some (dbOpenConnection sqlite seed pool.opened true), isWriteConn := true }).filterMap
        DbConnection.conn).Perm (dbOpenConnection sqlite seed pool.opened true :: pool.opened) := moved
  apply ready.set positive
  · apply SlotReady.mk
    · exact fun _ => Option.some_ne_none _
    · rfl
    · intro conn same
      obtain rfl := Option.some.inj same
      rfl
  · rw [added.length_eq, List.length_cons, ready.counted]
  · rw [(added.map Sqlite3.handle).nodup_iff]
    exact List.nodup_cons.mpr ⟨sqlite.fresh seed _, ready.distinct⟩

/-- What a get call does when every slot that it might find has a connection. -/
theorem dbGetConnection_spec (sqlite : Sqlite3OpenV2 Handle) (seed : Nat) (pool : DatabasePool Handle)
    (ready : PoolReady pool) (write : Bool)
    (filled : write = false → ∀ index, findConnection pool false = some index →
      pool.connections[index]?.bind DbConnection.conn ≠ none) :
    (dbGetConnection sqlite seed pool write = none ∧ Exhausted pool) ∨
      ∃ next conn, dbGetConnection sqlite seed pool write = some (next, some conn) ∧
        Grants pool next conn := by
  rw [dbGetConnection]
  cases found : findConnection pool write with
  | some index =>
      have filled : write = false → pool.connections[index]?.bind DbConnection.conn ≠ none := by
        rintro rfl
        exact filled rfl index found
      obtain ⟨next, conn, taken, grants⟩ := findConnection_spec pool ready write index found filled
      exact .inr ⟨next, conn, congrArg some taken, grants⟩
  | none =>
      have refused := List.findIdx?_eq_none_iff.mp found
      by_cases full : pool.maxConnections ≤ pool.activeConnections
      · left
        refine ⟨by rw [createConnection, if_neg (by omega)], fun slot member => ?_, full⟩
        have slotReady := ready.slots slot (List.mem_of_mem_take member)
        have passes := refused slot member
        have kind : slot.isWriteConn = true := by
          rw [slotReady.write, Option.isSome_iff_ne_none]
          exact ready.full full slot member
        simpa [available, kind] using passes
      · right
        obtain ⟨index, null⟩ := ready.spare (by omega)
        obtain ⟨positive, slot, place, stored, empty⟩ := visited_found null
        rw [Option.isNone_iff_eq_none] at empty
        have slotReady := ready.slots slot (List.mem_of_getElem? stored)
        have idle : slot.inUse = false := by
          by_contra busy
          rw [Bool.not_eq_false] at busy
          exact slotReady.used busy empty
        obtain rfl : write = true := by
          have passes := refused slot place
          by_contra reads
          simp [available, idle, reads] at passes
        rw [createConnection, if_pos (by omega), null]
        have written := modify_eq_set pool.connections (fun slot => { slot with
          conn := some (dbOpenConnection sqlite seed pool.opened true), isWriteConn := true }) index slot stored
        simp only [Option.map_some, written]
        have created := createConnection_ready sqlite seed pool ready positive index slot stored empty
        have there := List.getElem?_eq_some_iff.mp stored
        obtain ⟨next, taken, grants⟩ := takeConnection_grants _ created positive index _
          (List.getElem?_set_self there.1) idle _ rfl
        refine ⟨next, _, congrArg some taken, grants.ready, grants.lent.trans (List.Perm.cons _ ?_),
          grants.writable, grants.bound, Nat.le_trans (Nat.le_succ _) grants.grows⟩
        have moved := set_filterMap pool.connections (lentBy DbConnection.conn DbConnection.inUse) index slot
          { slot with conn := some (dbOpenConnection sqlite seed pool.opened true), isWriteConn := true }
          stored
        have before := lentBy_of_idle DbConnection.conn DbConnection.inUse slot idle
        have after : lentBy DbConnection.conn DbConnection.inUse { slot with
            conn := some (dbOpenConnection sqlite seed pool.opened true), isWriteConn := true } = none :=
          lentBy_of_idle _ _ _ idle
        rw [before, after] at moved
        exact moved

/-- What one round of the waiting loop does when the pool has all its connections. -/
theorem dbAwaitConnection_spec (pool : DatabasePool Handle) (ready : PoolReady pool)
    (full : pool.maxConnections ≤ pool.activeConnections) (write timedOut : Bool) :
    ((dbAwaitConnection pool write timedOut = none ∨
        dbAwaitConnection pool write timedOut = some (pool, none)) ∧ Exhausted pool) ∨
      ∃ next conn, dbAwaitConnection pool write timedOut = some (next, some conn) ∧
        Grants pool next conn := by
  rw [dbAwaitConnection]
  cases found : findConnection pool write with
  | some index =>
      have filled : write = false → pool.connections[index]?.bind DbConnection.conn ≠ none := by
        intro _
        obtain ⟨-, slot, place, stored, -⟩ := visited_found found
        rw [stored, Option.bind_some]
        exact ready.full full slot place
      obtain ⟨next, conn, taken, grants⟩ := findConnection_spec pool ready write index found filled
      exact .inr ⟨next, conn, congrArg some taken, grants⟩
  | none =>
      have refused := List.findIdx?_eq_none_iff.mp found
      refine .inl ⟨by cases timedOut <;> simp, fun slot member => ?_, full⟩
      have slotReady := ready.slots slot (List.mem_of_mem_take member)
      have passes := refused slot member
      have kind : slot.isWriteConn = true := by
        rw [slotReady.write, Option.isSome_iff_ne_none]
        exact ready.full full slot member
      simpa [available, kind] using passes

/-- A release gives back the named connection, if it has been lent. -/
structure GivesBack (pool next : DatabasePool Handle) (conn : Option (Sqlite3 Handle)) : Prop where
  ready : PoolReady next
  bound : next.maxConnections = pool.maxConnections
  grows : pool.activeConnections ≤ next.activeConnections
  lent : (∃ lentConn, conn = some lentConn ∧ pool.lent.Perm (lentConn :: next.lent)) ∨
    (next.lent.Perm pool.lent ∧ ∀ lentConn, conn = some lentConn → lentConn ∉ pool.lent)

theorem dbReleaseConnection_spec [DecidableEq Handle] (pool : DatabasePool Handle)
    (ready : PoolReady pool) (conn : Option (Sqlite3 Handle)) :
    GivesBack pool (dbReleaseConnection pool conn) conn := by
  rw [dbReleaseConnection]
  split
  · rename_i missing
    refine ⟨ready, rfl, Nat.le_refl _, .inr ⟨List.Perm.refl _, ?_⟩⟩
    rintro lentConn rfl member
    obtain ⟨slot, inside, stored⟩ := List.mem_filterMap.mp member
    have busy : slot.inUse = true := by
      by_contra idle
      rw [lentBy_of_idle _ _ slot (by simpa using idle)] at stored
      cases stored
    have positive : 0 < pool.maxConnections := by
      by_contra unbounded
      rw [ready.closed (by omega) slot inside] at busy
      cases busy
    rw [lentBy_of_busy _ _ slot busy] at stored
    rw [← ready.visited_eq positive] at inside
    have differs := List.findIdx?_eq_none_iff.mp missing slot inside
    rw [stored, decide_eq_false_iff_not] at differs
    exact differs rfl
  · rename_i index found
    obtain ⟨positive, slot, -, stored, same⟩ := visited_found found
    rw [decide_eq_true_eq] at same
    have old := ready.slots slot (List.mem_of_getElem? stored)
    have moved := set_filterMap pool.connections (lentBy DbConnection.conn DbConnection.inUse) index slot
      { slot with inUse := false } stored
    have after := lentBy_of_idle DbConnection.conn DbConnection.inUse { slot with inUse := false } rfl
    rw [after] at moved
    rw [modify_eq_set _ _ _ _ stored]
    apply GivesBack.mk
    · apply ready.set_same positive index slot { slot with inUse := false } stored rfl
      exact ⟨fun busy => (Bool.false_ne_true busy).elim, old.write, old.writable⟩
    · rfl
    · exact Nat.le_refl _
    · cases busy : slot.inUse with
      | true =>
          obtain ⟨lentConn, there⟩ := Option.ne_none_iff_exists'.mp (old.used busy)
          have before := (lentBy_of_busy DbConnection.conn DbConnection.inUse slot busy).trans there
          rw [before] at moved
          exact .inl ⟨lentConn, same.symm.trans there, moved.symm⟩
      | false =>
          have before := lentBy_of_idle DbConnection.conn DbConnection.inUse slot busy
          rw [before] at moved
          refine .inr ⟨moved, ?_⟩
          rintro lentConn rfl member
          have used := busy_of_lent DbConnection.conn DbConnection.inUse pool.connections index slot
            lentConn stored same ready.opened_nodup member
          rw [busy] at used
          cases used

/-- The pool has lent what the callers hold, and a call waits only while every connection is open. -/
structure Ready (state : LendingState Handle) : Prop where
  pool : PoolReady state.pool
  holders : state.held.Perm state.pool.lent
  settled : ∀ caller write, state.waiting caller = some write →
    state.pool.maxConnections ≤ state.pool.activeConnections

/-- The slots of a ready pool that are in use have connections that somebody holds. -/
theorem Ready.marked {state : LendingState Handle} (ready : Ready state) :
    ∀ slot ∈ state.pool.connections, slot.inUse = true → ∃ conn ∈ state.held, slot.conn = some conn := by
  intro slot member busy
  obtain ⟨conn, stored⟩ := Option.ne_none_iff_exists'.mp ((ready.pool.slots slot member).used busy)
  refine ⟨conn, ready.holders.mem_iff.mpr (List.mem_filterMap.mpr ⟨slot, member, ?_⟩), stored⟩
  exact (lentBy_of_busy _ _ slot busy).trans stored

/-- All connections are held when nothing is available. -/
theorem Ready.exhausted {state : LendingState Handle} (ready : Ready state)
    (exhausted : Exhausted state.pool) : state.pool.maxConnections ≤ state.held.length := by
  rw [ready.holders.length_eq]
  exact ready.pool.exhausted exhausted.used

/-- A call wants a connection when it starts and when it wakes up. -/
def Wants (state : LendingState Handle) (caller : Nat) (write : Bool) : LendingInput Handle → Prop
  | .get starting kind _ => starting = caller ∧ kind = write ∧ state.waiting caller = none
  | .wake waking _ => waking = caller ∧ state.waiting caller = some write
  | .release _ => False

/-- A call that wants a connection gets one unless all are held, a write request gets no read-only connection,
and a slot that is marked afterwards has a connection that somebody holds. -/
structure KeepsCapacity [DecidableEq Handle] (sqlite : Sqlite3OpenV2 Handle) (state : LendingState Handle)
    (input : LendingInput Handle) : Prop where
  served : ∀ caller write, Wants state caller write input →
    state.held.length < state.pool.maxConnections →
      ∃ conn, (lendingStep sqlite state input).2 = [⟨caller, write, some conn⟩]
  writable : ∀ granted ∈ (lendingStep sqlite state input).2, granted.write = true →
    ∀ conn, granted.conn = some conn → conn.readOnly = false
  marked : ∀ slot ∈ (lendingStep sqlite state input).1.pool.connections, slot.inUse = true →
    ∃ conn ∈ (lendingStep sqlite state input).1.held, slot.conn = some conn

/-- No read request arrives while the first slot that is not in use has no connection. -/
def ReadsFindOpen (state : LendingState Handle) : LendingInput Handle → Prop
  | .get caller false _ => state.waiting caller = none → ∀ index, findConnection state.pool false = some index →
      state.pool.connections[index]?.bind DbConnection.conn ≠ none
  | _ => True

/-- A step that gives out a connection which can write. -/
theorem Ready.granted {state : LendingState Handle} (ready : Ready state) (caller : Nat) (write : Bool)
    (next : DatabasePool Handle) (conn : Sqlite3 Handle) (grants : Grants state.pool next conn) :
    Ready (grant state caller write (some (next, some conn))).1 where
  pool := grants.ready
  holders := (ready.holders.cons conn).trans grants.lent.symm
  settled other kind waits := by
    have earlier : state.waiting other = some kind := by
      by_cases same : other = caller
      · subst same
        simp only [grant, Function.update_self, reduceCtorEq] at waits
      · simpa only [grant, Function.update_of_ne same] using waits
    have settled := ready.settled other kind earlier
    have grows := grants.grows
    have bound := grants.bound
    change next.maxConnections ≤ next.activeConnections
    omega

/-- A step that gives out nothing while nothing is available. -/
theorem Ready.refused {state : LendingState Handle} (ready : Ready state)
    (full : state.pool.maxConnections ≤ state.pool.activeConnections) (caller : Nat) (write : Bool)
    (result : Option (DatabasePool Handle × Option (Sqlite3 Handle)))
    (nothing : result = none ∨ result = some (state.pool, none)) :
    Ready (grant state caller write result).1 := by
  rcases nothing with rfl | rfl
  · exact ⟨ready.pool, ready.holders, fun _ _ _ => full⟩
  · exact ⟨ready.pool, ready.holders, fun _ _ _ => full⟩

/-- The outcome of a call that wants a connection. -/
theorem Ready.served [DecidableEq Handle] {sqlite : Sqlite3OpenV2 Handle} {state : LendingState Handle}
    (ready : Ready state) (input : LendingInput Handle) (caller : Nat) (write : Bool)
    (result : Option (DatabasePool Handle × Option (Sqlite3 Handle)))
    (step : lendingStep sqlite state input = grant state caller write result)
    (unique : ∀ other kind, Wants state other kind input → other = caller ∧ kind = write)
    (outcome : ((result = none ∨ result = some (state.pool, none)) ∧ Exhausted state.pool) ∨
      ∃ next conn, result = some (next, some conn) ∧ Grants state.pool next conn) :
    Ready (lendingStep sqlite state input).1 ∧ KeepsCapacity sqlite state input := by
  rcases outcome with ⟨nothing, exhausted⟩ | ⟨next, conn, rfl, grants⟩
  · have kept := ready.refused exhausted.full caller write result nothing
    rw [← step] at kept
    refine ⟨kept, ?_, ?_, kept.marked⟩
    · intro other kind _ fewer
      have held := ready.exhausted exhausted
      omega
    · intro granted member _ conn there
      rw [step] at member
      rcases nothing with rfl | rfl
      · cases member
      · rw [grant, List.mem_singleton] at member
        rw [member] at there
        cases there
  · have kept := ready.granted caller write next conn grants
    rw [← step] at kept
    refine ⟨kept, ?_, ?_, kept.marked⟩
    · intro other kind wants _
      obtain ⟨rfl, rfl⟩ := unique other kind wants
      exact ⟨conn, by rw [step]; rfl⟩
    · intro granted member _ found there
      rw [step, grant, List.mem_singleton] at member
      rw [member] at there
      obtain rfl := Option.some.inj there
      exact grants.writable

/-- A step that nobody wants a connection from keeps the capacity of a ready pool. -/
theorem Ready.unasked [DecidableEq Handle] {sqlite : Sqlite3OpenV2 Handle} {state : LendingState Handle}
    (input : LendingInput Handle) (kept : Ready (lendingStep sqlite state input).1)
    (silent : (lendingStep sqlite state input).2 = [])
    (nobody : ∀ caller write, ¬ Wants state caller write input) : KeepsCapacity sqlite state input where
  served caller write wants := absurd wants (nobody caller write)
  writable granted member := by
    rw [silent] at member
    cases member
  marked := kept.marked

/-- Every step that meets the condition keeps the pool ready and its capacity available. -/
theorem lendingStep_ready [DecidableEq Handle] (sqlite : Sqlite3OpenV2 Handle)
    (state : LendingState Handle) (input : LendingInput Handle) (ready : Ready state)
    (opened : ReadsFindOpen state input) :
    Ready (lendingStep sqlite state input).1 ∧ KeepsCapacity sqlite state input := by
  cases input with
  | get caller write seed =>
      cases waits : state.waiting caller with
      | some kind =>
          have idle : lendingStep sqlite state (.get caller write seed) = (state, []) := by
            rw [lendingStep, waits]
          have kept : Ready (lendingStep sqlite state (.get caller write seed)).1 := by rwa [idle]
          refine ⟨kept, Ready.unasked _ kept (by rw [idle]) ?_⟩
          rintro other kind ⟨rfl, -, free⟩
          rw [waits] at free
          cases free
      | none =>
          have filled : write = false → ∀ index, findConnection state.pool false = some index →
              state.pool.connections[index]?.bind DbConnection.conn ≠ none := by
            rintro rfl
            exact opened waits
          apply ready.served (.get caller write seed) caller write
            (dbGetConnection sqlite seed state.pool write)
          · rw [lendingStep, waits]
          · rintro other kind ⟨rfl, rfl, -⟩
            exact ⟨rfl, rfl⟩
          · rcases dbGetConnection_spec sqlite seed state.pool ready.pool write filled with
              ⟨nothing, exhausted⟩ | granted
            · exact .inl ⟨.inl nothing, exhausted⟩
            · exact .inr granted
  | wake caller timedOut =>
      cases waits : state.waiting caller with
      | none =>
          have idle : lendingStep sqlite state (.wake caller timedOut) = (state, []) := by
            rw [lendingStep, waits]
          have kept : Ready (lendingStep sqlite state (.wake caller timedOut)).1 := by rwa [idle]
          refine ⟨kept, Ready.unasked _ kept (by rw [idle]) ?_⟩
          rintro other kind ⟨rfl, asleep⟩
          rw [waits] at asleep
          cases asleep
      | some write =>
          apply ready.served (.wake caller timedOut) caller write
            (dbAwaitConnection state.pool write timedOut)
          · rw [lendingStep, waits]
          · rintro other kind ⟨rfl, asleep⟩
            rw [waits] at asleep
            exact ⟨rfl, (Option.some.inj asleep).symm⟩
          · exact dbAwaitConnection_spec state.pool ready.pool (ready.settled caller write waits) write timedOut
  | release conn =>
      have back := dbReleaseConnection_spec state.pool ready.pool conn
      have kept : Ready (lendingStep sqlite state (.release conn)).1 := by
        apply Ready.mk
        · exact back.ready
        · rcases back.lent with ⟨lentConn, rfl, lent⟩ | ⟨same, absent⟩
          · have member : lentConn ∈ state.held :=
              (ready.holders.trans lent).mem_iff.mpr List.mem_cons_self
            exact ((List.perm_cons_erase member).symm.trans (ready.holders.trans lent)).cons_inv
          · have unchanged : conn.elim state.held state.held.erase = state.held := by
              cases conn with
              | none => rfl
              | some named =>
                  apply List.erase_of_not_mem
                  rw [ready.holders.mem_iff]
                  exact absent named rfl
            rw [lendingStep, unchanged]
            exact ready.holders.trans same.symm
        · intro caller write waits
          have settled := ready.settled caller write waits
          have grows := back.grows
          have bound := back.bound
          change (dbReleaseConnection state.pool conn).maxConnections ≤
            (dbReleaseConnection state.pool conn).activeConnections
          omega
      exact ⟨kept, Ready.unasked _ kept rfl fun _ _ wants => wants⟩

/-- A read request that finds a slot without a connection leaves a marked slot that nobody holds. -/
theorem lendingStep_leaks [DecidableEq Handle] (sqlite : Sqlite3OpenV2 Handle)
    (state : LendingState Handle) (input : LendingInput Handle)
    (keeps : KeepsCapacity sqlite state input) : ReadsFindOpen state input := by
  cases input with
  | get caller write seed =>
      cases write with
      | true => trivial
      | false =>
          intro waits index found null
          obtain ⟨-, slot, -, stored, -⟩ := visited_found found
          rw [stored, Option.bind_some] at null
          have step : (lendingStep sqlite state (.get caller false seed)).1.pool.connections =
              state.pool.connections.set index { slot with inUse := true } := by
            rw [lendingStep, waits, dbGetConnection, found]
            exact modify_eq_set _ _ _ _ stored
          have inside := (List.getElem?_eq_some_iff.mp stored).1
          have member : { slot with inUse := true } ∈
              (lendingStep sqlite state (.get caller false seed)).1.pool.connections := by
            rw [step]
            exact List.mem_of_getElem? (List.getElem?_set_self inside)
          obtain ⟨conn, -, there⟩ := keeps.marked _ member rfl
          rw [null] at there
          cases there
  | wake caller timedOut => trivial
  | release conn => trivial

theorem lendingStart_ready [DecidableEq Handle] (sqlite : Sqlite3OpenV2 Handle) (maxConnections : Int)
    (seed : Nat) : Ready (lendingStart sqlite maxConnections seed) := by
  have idle : ∀ slot ∈ (databaseInit sqlite maxConnections seed).connections, slot.inUse = false := by
    intro slot member
    rcases List.mem_cons.mp member with rfl | rest
    · rfl
    · rw [(List.mem_replicate.mp rest).2]
  have lent : (databaseInit sqlite maxConnections seed).lent = [] := by
    apply List.filterMap_eq_nil_iff.mpr
    intro slot member
    exact lentBy_of_idle _ _ slot (idle slot member)
  have opened : (databaseInit sqlite maxConnections seed).opened =
      [dbOpenConnection sqlite seed [] true] := by
    simp [databaseInit, DatabasePool.opened]
  refine ⟨⟨?_, fun _ => idle, ?_, ?_, ?_⟩, ?_, fun _ _ waits => by cases waits⟩
  · intro positive
    have positive : 0 < maxConnections := positive
    simp only [lendingStart, databaseInit, List.length_cons, List.length_replicate, if_pos positive]
    omega
  · intro slot member
    rcases List.mem_cons.mp member with rfl | rest
    · refine ⟨fun busy => (Bool.false_ne_true busy).elim, rfl, ?_⟩
      intro conn same
      obtain rfl := Option.some.inj same
      rfl
    · rw [(List.mem_replicate.mp rest).2]
      exact ⟨fun busy => (Bool.false_ne_true busy).elim, rfl, fun conn same => by cases same⟩
  · rw [lendingStart, opened]
    rfl
  · rw [lendingStart, opened]
    exact List.nodup_singleton _
  · rw [lendingStart, lent]

/-- The pool keeps its capacity over a run exactly as long as
no read request arrives while the first slot that is not in use has no connection. -/
theorem lendingMachine_keepsCapacity [DecidableEq Handle] (sqlite : Sqlite3OpenV2 Handle)
    (maxConnections : Int) (seed : Nat) (inputs : List (LendingInput Handle)) :
    (lendingMachine sqlite).Along (KeepsCapacity sqlite) (lendingStart sqlite maxConnections seed) inputs ↔
      (lendingMachine sqlite).Along ReadsFindOpen (lendingStart sqlite maxConnections seed) inputs := by
  apply (lendingMachine sqlite).along_iff_along _ _ Ready
  · intro state input ready
    exact ⟨lendingStep_leaks sqlite state input, fun opened => (lendingStep_ready sqlite state input ready opened).2⟩
  · intro state input ready opened
    exact (lendingStep_ready sqlite state input ready opened).1
  · exact lendingStart_ready sqlite maxConnections seed

/-- A number above the numbers of all open connections. -/
def sampleOpenV2 : Sqlite3OpenV2 Nat where
  answer _ opened := opened.sum + 1
  fresh _ opened member := by
    have bound := List.le_sum_of_mem member
    omega

/-- A read request after a write request gets nothing and takes the second slot of two away. -/
theorem lendingMachine_read_leaks :
    ¬ (lendingMachine sampleOpenV2).Along (KeepsCapacity sampleOpenV2) (lendingStart sampleOpenV2 2 0)
      [.get 0 true 0, .get 1 false 0] := by
  rintro ⟨-, keeps, -⟩
  obtain ⟨conn, granted⟩ := keeps.served 1 false ⟨rfl, rfl, rfl⟩ (by decide)
  have nothing : (lendingStep sampleOpenV2 ((lendingMachine sampleOpenV2).step (lendingStart sampleOpenV2 2 0)
      (.get 0 true 0)).1 (.get 1 false 0)).2 = [⟨1, false, none⟩] := by decide
  rw [nothing] at granted
  cases granted

end SecureChat.Database1
