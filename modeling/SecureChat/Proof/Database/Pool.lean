import SecureChat.Construction.Database.Pool
import SecureChat.Library.Slots

namespace SecureChat.Database
open Library

variable {Handle : Type}

/-- The connections of the slots that are in use. -/
def DbPool.lent (pool : DbPool Handle) : List Handle :=
  pool.slots.filterMap (lentBy DbSlot.connection DbSlot.inUse)

/-- The slots behind the bound are never opened, a slot in use has a connection,
and no connection lies in two slots. -/
structure PoolSound (pool : DbPool Handle) : Prop where
  unopened : ∀ slot ∈ pool.slots.drop pool.maxConnections, slot.connection = none
  used : ∀ slot ∈ pool.slots, slot.inUse = true → slot.connection ≠ none
  counted : pool.activeCount = pool.opened.length
  distinct : pool.opened.Nodup

namespace PoolSound

variable {pool : DbPool Handle}

theorem init (configured : Int) : PoolSound (dbInitPool configured : DbPool Handle) where
  unopened slot member := by
    have new := List.mem_of_mem_drop member
    rw [dbInitPool, List.mem_replicate] at new
    rw [new.2]
  used slot member busy := by
    rw [dbInitPool, List.mem_replicate] at member
    rw [member.2] at busy
    cases busy
  counted := by simp [dbInitPool, DbPool.opened]
  distinct := by simp [dbInitPool, DbPool.opened]

/-- Only the slots in front of the bound have connections. -/
theorem activeCount_le (sound : PoolSound pool) : pool.activeCount ≤ pool.maxConnections := by
  have behind : (pool.slots.drop pool.maxConnections).filterMap DbSlot.connection = [] :=
    List.filterMap_eq_nil_iff.mpr sound.unopened
  have front := List.length_filterMap_le DbSlot.connection (pool.slots.take pool.maxConnections)
  have split : pool.opened = (pool.slots.take pool.maxConnections).filterMap DbSlot.connection := by
    rw [DbPool.opened, ← List.append_nil (List.filterMap _ (pool.slots.take _)), ← behind,
      ← List.filterMap_append, List.take_append_drop]
  rw [sound.counted, split]
  rw [List.length_take] at front
  omega

/-- A slot in front of the bound that gets the given handle keeps the pool sound. -/
theorem set (sound : PoolSound pool) (index : Nat) (inside : index < pool.maxConnections)
    (new : DbSlot Handle) (used : new.inUse = true → new.connection ≠ none) (count : Nat)
    (counted : count = (pool.slots.set index new |>.filterMap DbSlot.connection).length)
    (distinct : (pool.slots.set index new |>.filterMap DbSlot.connection).Nodup) :
    PoolSound { pool with slots := pool.slots.set index new, activeCount := count } where
  unopened := by
    rw [List.drop_set_of_lt inside]
    exact sound.unopened
  used slot member := by
    rcases List.mem_or_eq_of_mem_set member with old | rfl
    · exact sound.used slot old
    · exact used
  counted := counted
  distinct := distinct

/-- A slot that keeps its connection keeps the pool sound. -/
theorem set_same (sound : PoolSound pool) (index : Nat) (inside : index < pool.maxConnections)
    (old new : DbSlot Handle) (found : pool.slots[index]? = some old)
    (same : new.connection = old.connection) (used : new.inUse = true → new.connection ≠ none) :
    PoolSound { pool with slots := pool.slots.set index new } := by
  have moved := set_filterMap pool.slots DbSlot.connection index old new found
  rw [same] at moved
  have kept := (List.perm_append_left_iff _).mp moved
  apply sound.set index inside new used
  · rw [kept.length_eq]
    exact sound.counted
  · exact kept.nodup_iff.mpr sound.distinct

end PoolSound

/-- What a call does that gets a connection: the handle was lent to nobody, and it is lent now. -/
structure Lends (pool next : DbPool Handle) (handle : Handle) : Prop where
  sound : PoolSound next
  lent : next.lent.Perm (handle :: pool.lent)

theorem takeSlot_spec (sqlite : Sqlite3Open Handle) (seed : Nat) (pool : DbPool Handle) (index : Nat)
    (sound : PoolSound pool) (inside : index < pool.maxConnections) (slot : DbSlot Handle)
    (found : pool.slots[index]? = some slot) (idle : slot.inUse = false) :
    ((takeSlot sqlite seed pool index).1 = pool ∧ (takeSlot sqlite seed pool index).2 = (.connection, none)) ∨
      ∃ handle, (takeSlot sqlite seed pool index).2 = (.success, some handle) ∧
        Lends pool (takeSlot sqlite seed pool index).1 handle := by
  have lends : ∀ handle, ((pool.slots.set index ⟨some handle, true⟩).filterMap
      (lentBy DbSlot.connection DbSlot.inUse)).Perm (handle :: pool.lent) := by
    intro handle
    have moved := set_filterMap pool.slots (lentBy DbSlot.connection DbSlot.inUse) index slot
      ⟨some handle, true⟩ found
    rw [lentBy_of_idle _ _ slot idle] at moved
    exact moved
  have moved := fun handle => set_filterMap pool.slots DbSlot.connection index slot ⟨some handle, true⟩ found
  rw [takeSlot, found]
  cases stored : slot.connection with
  | some handle =>
      simp only [Option.bind_some, stored]
      refine .inr ⟨handle, rfl, ?_, lends handle⟩
      exact sound.set_same index inside slot _ found stored.symm (fun _ => Option.some_ne_none handle)
  | none =>
      simp only [Option.bind_some, stored]
      split
      · exact .inl ⟨rfl, rfl⟩
      · rename_i handle opened
        have added : ((pool.slots.set index ⟨some handle, true⟩).filterMap DbSlot.connection).Perm
            (handle :: pool.opened) := by
          have moved := moved handle
          rw [stored] at moved
          exact moved
        refine .inr ⟨handle, rfl, ?_, lends handle⟩
        apply sound.set index inside ⟨some handle, true⟩ (fun _ => Option.some_ne_none handle)
        · rw [added.length_eq, List.length_cons, sound.counted]
        · rw [added.nodup_iff, List.nodup_cons]
          exact ⟨sqlite.fresh seed _ handle opened, sound.distinct⟩

/-- The slot that a get call chooses is not in use. -/
theorem chooseSlot_idle (pool : DbPool Handle) (sound : PoolSound pool) (index : Nat)
    (chosen : chooseSlot pool = some index) :
    index < pool.maxConnections ∧ ∃ slot, pool.slots[index]? = some slot ∧ slot.inUse = false := by
  rw [chooseSlot] at chosen
  split at chosen
  · rename_i found
    obtain rfl := Option.some.inj chosen
    obtain ⟨inside, slot, stored, idle⟩ := findIdx?_take found
    exact ⟨inside, slot, stored, by simpa using idle⟩
  · split at chosen
    · obtain ⟨inside, slot, stored, null⟩ := findIdx?_take chosen
      refine ⟨inside, slot, stored, ?_⟩
      by_contra busy
      rw [Bool.not_eq_false] at busy
      exact sound.used slot (List.mem_of_getElem? stored) busy (by simpa using null)
    · cases chosen

/-- What a get call may do when it returns. -/
theorem dbGetConnection_spec (sqlite : Sqlite3Open Handle) (seed : Nat) (pool : DbPool Handle)
    (sound : PoolSound pool) (result : DbPool Handle × DbErrorCode × Option Handle)
    (returned : dbGetConnection sqlite seed pool = some result) :
    (result.1 = pool ∧ result.2 = (.connection, none)) ∨
      ∃ handle, result.2 = (.success, some handle) ∧ Lends pool result.1 handle := by
  rw [dbGetConnection, Option.map_eq_some_iff] at returned
  obtain ⟨index, chosen, rfl⟩ := returned
  obtain ⟨inside, slot, stored, idle⟩ := chooseSlot_idle pool sound index chosen
  exact takeSlot_spec sqlite seed pool index sound inside slot stored idle

/-- What a get call may do behind its wait. -/
theorem dbRetryConnection_spec (sqlite : Sqlite3Open Handle) (seed : Nat) (pool : DbPool Handle)
    (sound : PoolSound pool) :
    ((dbRetryConnection sqlite seed pool).1 = pool ∧
        ((dbRetryConnection sqlite seed pool).2 = (.busy, none) ∨
          (dbRetryConnection sqlite seed pool).2 = (.connection, none))) ∨
      ∃ handle, (dbRetryConnection sqlite seed pool).2 = (.success, some handle) ∧
        Lends pool (dbRetryConnection sqlite seed pool).1 handle := by
  rw [dbRetryConnection]
  split
  · exact .inl ⟨rfl, .inl rfl⟩
  · rename_i index found
    obtain ⟨inside, slot, stored, idle⟩ := findIdx?_take found
    rcases takeSlot_spec sqlite seed pool index sound inside slot stored (by simpa using idle) with
      ⟨same, failed⟩ | lends
    · exact .inl ⟨same, .inr failed⟩
    · exact .inr lends

/-- A release gives back a connection that has been lent, and no other one. -/
theorem dbReleaseConnection_spec [DecidableEq Handle] (pool : DbPool Handle) (sound : PoolSound pool)
    (handle : Handle) (lent : handle ∈ pool.lent) :
    PoolSound (dbReleaseConnection pool (some handle)).1 ∧
      (handle :: (dbReleaseConnection pool (some handle)).1.lent).Perm pool.lent := by
  have front : ∃ slot ∈ pool.slots.take pool.maxConnections, slot.connection = some handle := by
    obtain ⟨slot, member, stored⟩ := List.mem_filterMap.mp
      ((lent_sublist DbSlot.connection DbSlot.inUse _).subset lent)
    rw [← List.take_append_drop pool.maxConnections pool.slots, List.mem_append] at member
    rcases member with front | behind
    · exact ⟨slot, front, stored⟩
    · rw [sound.unopened slot behind] at stored
      cases stored
  rw [dbReleaseConnection]
  split
  · rename_i missing
    obtain ⟨slot, member, stored⟩ := front
    have refused := List.findIdx?_eq_none_iff.mp missing slot member
    simp [stored] at refused
  · rename_i index found
    obtain ⟨inside, slot, place, stored⟩ := findIdx?_take found
    rw [decide_eq_true_eq] at stored
    have busy := busy_of_lent DbSlot.connection DbSlot.inUse pool.slots index slot handle place stored
      sound.distinct lent
    have moved := set_filterMap pool.slots (lentBy DbSlot.connection DbSlot.inUse) index slot
      { slot with inUse := false } place
    have before := (lentBy_of_busy DbSlot.connection DbSlot.inUse slot busy).trans stored
    rw [before] at moved
    rw [modify_eq_set pool.slots _ index slot place]
    exact ⟨sound.set_same index inside slot _ place rfl (fun busy => by cases busy), moved⟩

/-- The holders have exactly the connections that the pool has lent. -/
structure PoolKeeps (state : PoolState Handle) : Prop where
  sound : PoolSound state.pool
  holders : (state.held.map Prod.snd).Perm state.pool.lent

namespace PoolKeeps

variable {state : PoolState Handle}

/-- No connection has two holders. -/
theorem exclusive (keeps : PoolKeeps state) : (state.held.map Prod.snd).Nodup := by
  rw [keeps.holders.nodup_iff]
  exact List.Nodup.sublist (lent_sublist _ _ _) keeps.sound.distinct

/-- An answer without a connection leaves the pool as it is. -/
theorem answer_refused (keeps : PoolKeeps state) (caller : Nat) (code : DbErrorCode) :
    PoolKeeps (answerCall state caller (state.pool, code, none)).1 where
  sound := keeps.sound
  holders := keeps.holders

theorem answer_lent (keeps : PoolKeeps state) (caller : Nat) (next : DbPool Handle) (code : DbErrorCode)
    (handle : Handle) (lends : Lends state.pool next handle) :
    PoolKeeps (answerCall state caller (next, code, some handle)).1 where
  sound := lends.sound
  holders := (keeps.holders.cons handle).trans lends.lent.symm

end PoolKeeps

/-- The callers release only what they hold. -/
def ReleasesOwn (state : PoolState Handle) : PoolInput Handle → Prop
  | .release caller conn => ∃ handle, conn = some handle ∧ (caller, handle) ∈ state.held
  | _ => True

/-- An answer that reports success carries a connection. -/
def Answered : PoolOutput Handle → Prop
  | .got _ code conn => code = .success → conn ≠ none
  | .released _ _ => True

/-- Every step of the callers keeps the holders apart. -/
theorem poolStep_keeps [DecidableEq Handle] (sqlite : Sqlite3Open Handle) (state : PoolState Handle)
    (input : PoolInput Handle) (keeps : PoolKeeps state) (own : ReleasesOwn state input) :
    PoolKeeps (poolStep sqlite state input).1 ∧
      ∀ output ∈ (poolStep sqlite state input).2, Answered output := by
  have idle : PoolKeeps state ∧ ∀ output ∈ ([] : List (PoolOutput Handle)), Answered output :=
    ⟨keeps, fun _ member => absurd member List.not_mem_nil⟩
  have refused : ∀ caller code, code ≠ .success →
      PoolKeeps (answerCall state caller (state.pool, code, none)).1 ∧
        ∀ output ∈ (answerCall state caller (state.pool, code, none)).2, Answered output := by
    intro caller code failed
    refine ⟨keeps.answer_refused caller code, fun output member => ?_⟩
    rw [answerCall, List.mem_singleton] at member
    rw [member]
    exact fun success => absurd success failed
  have lent : ∀ caller next handle, Lends state.pool next handle →
      PoolKeeps (answerCall state caller (next, .success, some handle)).1 ∧
        ∀ output ∈ (answerCall state caller (next, .success, some handle)).2, Answered output := by
    intro caller next handle lends
    refine ⟨keeps.answer_lent caller next .success handle lends, fun output member => ?_⟩
    rw [answerCall, List.mem_singleton] at member
    rw [member]
    exact fun _ => Option.some_ne_none handle
  cases input with
  | get caller seed =>
      rw [poolStep]
      split
      · exact idle
      · split
        · exact ⟨⟨keeps.sound, keeps.holders⟩, fun _ member => absurd member List.not_mem_nil⟩
        · rename_i result returned
          obtain ⟨next, outcome⟩ := result
          rcases dbGetConnection_spec sqlite seed state.pool keeps.sound _ returned with
            ⟨same, failed⟩ | ⟨handle, success, lends⟩
          · obtain rfl : next = state.pool := same
            obtain rfl : outcome = (.connection, none) := failed
            exact refused caller .connection (by decide)
          · obtain rfl : outcome = (.success, some handle) := success
            exact lent caller next handle lends
  | wake caller seed =>
      rw [poolStep]
      split
      · generalize answer : dbRetryConnection sqlite seed state.pool = result
        obtain ⟨next, outcome⟩ := result
        have spec := dbRetryConnection_spec sqlite seed state.pool keeps.sound
        rw [answer] at spec
        rcases spec with ⟨same, failed | failed⟩ | ⟨handle, success, lends⟩
        · obtain rfl : next = state.pool := same
          obtain rfl : outcome = (.busy, none) := failed
          exact refused caller .busy (by decide)
        · obtain rfl : next = state.pool := same
          obtain rfl : outcome = (.connection, none) := failed
          exact refused caller .connection (by decide)
        · obtain rfl : outcome = (.success, some handle) := success
          exact lent caller next handle lends
      · exact idle
  | expire caller =>
      rw [poolStep]
      split
      · exact refused caller .timeout (by decide)
      · exact idle
  | release caller conn =>
      obtain ⟨handle, rfl, member⟩ := own
      rw [poolStep]
      split
      · exact idle
      · have lentOut : handle ∈ state.pool.lent :=
          keeps.holders.mem_iff.mp (List.mem_map.mpr ⟨(caller, handle), member, rfl⟩)
        obtain ⟨sound, back⟩ := dbReleaseConnection_spec state.pool keeps.sound handle lentOut
        have left := (List.perm_cons_erase member).map Prod.snd
        refine ⟨⟨sound, ?_⟩, fun output shown => ?_⟩
        · exact (left.symm.trans (keeps.holders.trans back.symm)).cons_inv
        · rw [List.mem_singleton] at shown
          rw [shown]
          trivial

/-- The pool lends each connection to one holder over every interleaving of its callers. -/
theorem poolMachine_exclusive [DecidableEq Handle] (sqlite : Sqlite3Open Handle) (configured : Int)
    (inputs : List (PoolInput Handle))
    (own : (poolMachine sqlite).Along ReleasesOwn (poolStart configured) inputs) :
    (∀ state ∈ (poolMachine sqlite).states (poolStart configured) inputs,
      (state.held.map Prod.snd).Nodup ∧
        (∀ slot ∈ state.pool.slots, slot.inUse = true → slot.connection ≠ none) ∧
        state.pool.activeCount = state.pool.slots.countP (fun slot => slot.connection.isSome) ∧
        state.pool.activeCount ≤ state.pool.maxConnections) ∧
      ∀ caller code conn, .got caller code conn ∈
        ((poolMachine sqlite).run (poolStart configured) inputs).2 → code = .success → conn ≠ none := by
  have start : PoolKeeps (poolStart configured : PoolState Handle) := by
    refine ⟨PoolSound.init configured, ?_⟩
    simp [poolStart, DbPool.lent, dbInitPool, lentBy]
  have visited := (poolMachine sqlite).states_invariant ReleasesOwn PoolKeeps
    (fun state input keeps own => (poolStep_keeps sqlite state input keeps own).1) _ inputs start own
  have answered := (poolMachine sqlite).run_outputs ReleasesOwn PoolKeeps Answered
    (fun state input keeps own => (poolStep_keeps sqlite state input keeps own).1)
    (fun state input keeps own => (poolStep_keeps sqlite state input keeps own).2) _ inputs start own
  refine ⟨fun state member => ?_, fun caller code conn member => answered _ member⟩
  have keeps := visited state member
  refine ⟨keeps.exclusive, keeps.sound.used, ?_, keeps.sound.activeCount_le⟩
  rw [keeps.sound.counted, DbPool.opened, List.length_filterMap_eq_countP]

/-- The handle that the seed names, if no open connection has it. -/
def sampleOpen : Sqlite3Open Nat where
  answer seed opened := if seed = 0 ∨ seed ∈ opened then none else some seed
  fresh seed opened handle answered := by
    split at answered
    · cases answered
    · rename_i new
      obtain rfl := Option.some.inj answered
      exact fun member => new (.inr member)

/-- Two callers share a pool of one connection. The first open fails, and the second caller has to wait. -/
theorem poolMachine_exclusive_sharing :
    (poolMachine sampleOpen).Along ReleasesOwn (poolStart 1)
      [.get 0 0, .get 0 5, .get 1 6, .release 0 (some 5), .wake 1 7] ∧
      ∀ caller code conn, .got caller code conn ∈ ((poolMachine sampleOpen).run (poolStart 1)
        [.get 0 0, .get 0 5, .get 1 6, .release 0 (some 5), .wake 1 7]).2 →
          code = .success → conn ≠ none := by
  have own : (poolMachine sampleOpen).Along ReleasesOwn (poolStart 1)
      [.get 0 0, .get 0 5, .get 1 6, .release 0 (some 5), .wake 1 7] :=
    ⟨trivial, trivial, trivial, ⟨5, rfl, by decide⟩, trivial, trivial⟩
  exact ⟨own, (poolMachine_exclusive sampleOpen 1 _ own).2⟩

end SecureChat.Database
