import SecureChat.Library.MachineInt
import SecureChat.Construction.Server.ConnectionPool
import SecureChat.Library.Slots

namespace SecureChat.Server.ConnectionPool
open Library

/-- The connection in an occupied slot. -/
def Slot.occupied (slot : Slot) : Option Slot := if slot.fd = -1 then none else some slot

def Pool.occupied (pool : Pool) : List Slot := pool.connections.filterMap Slot.occupied

/-- Both counters are the number of occupied slots, no identifier is used twice,
and a closed connection can still be removed or has released its buffers. -/
structure Accounted (pool : Pool) : Prop where
  counted : pool.count.toNat = pool.occupied.length
  active : pool.activeConnections.toNat = pool.occupied.length
  distinct : (pool.occupied.map (·.id)).Nodup
  released : ∀ slot ∈ pool.connections, slot.state = .closed → slot.fd ≠ -1 ∨ slot.buffers = false

/-- Free slots hold no buffers, and no connection in an occupied slot was closed. -/
structure Tidy (pool : Pool) : Prop where
  slots : pool.connections.length = pool.capacity.toNat
  free : ∀ slot ∈ pool.connections, slot.fd = -1 → slot.buffers = false
  used : ∀ slot ∈ pool.connections, slot.fd ≠ -1 → slot.state ≠ .closing ∧ slot.state ≠ .closed

/-- No connection in an occupied slot is closed, removed or cleaned up,
and a new connection gets an identifier that no other connection has. -/
def Harmless (pool : Pool) : PoolCall → Prop
  | .add fd _ initialized => 0 ≤ fd → pool.blocked = false → pool.count < pool.capacity → initialized = true →
      pool.nextConnectionId ∉ pool.occupied.map (·.id)
  | .close index => ∀ slot, pool.connections[index]? = some slot → slot.fd = -1
  | .remove connectionId => pool.blocked = false → connectionId ∉ pool.occupied.map (·.id)
  | .cleanupExpired now timeoutMs => pool.blocked = false →
      ∀ slot ∈ pool.occupied, ¬ now - slot.lastActivity > timeoutMs
  | _ => True

section Slots

variable {pool : Pool}

theorem Tidy.set (tidy : Tidy pool) (index : Nat) (new : Slot) (free : new.fd = -1 → new.buffers = false)
    (used : new.fd ≠ -1 → new.state ≠ .closing ∧ new.state ≠ .closed) {later : Pool}
    (stored : later.connections = pool.connections.set index new) (same : later.capacity = pool.capacity) :
    Tidy later := by
  refine ⟨?_, fun slot member hidden => ?_, fun slot member shown => ?_⟩
  · rw [stored, same, List.length_set]
    exact tidy.slots
  · rw [stored] at member
    rcases List.mem_or_eq_of_mem_set member with old | rfl
    · exact tidy.free slot old hidden
    · exact free hidden
  · rw [stored] at member
    rcases List.mem_or_eq_of_mem_set member with old | rfl
    · exact tidy.used slot old shown
    · exact used shown

end Slots

section Calls

variable {pool : Pool}

/-- The pool after the addition, when the connection gets the slot with the index. -/
def added (pool : Pool) (index : Nat) (fd : Int) (now : UInt64) : Pool :=
  { pool with
    nextConnectionId := pool.nextConnectionId + 1
    connections := pool.connections.set index ⟨pool.nextConnectionId, fd, .new, now, true⟩
    count := pool.count + 1
    totalConnections := pool.totalConnections + 1
    activeConnections := pool.activeConnections + 1
    maxConcurrentConnections := max pool.maxConcurrentConnections (pool.activeConnections + 1) }

/-- The pool after a connection that could not be initialized. -/
def cleared (pool : Pool) (index : Nat) : Pool :=
  { pool with
    nextConnectionId := pool.nextConnectionId + 1
    connections := pool.connections.set index freeSlot }

/-- A new slot shows itself beside the occupied ones, if a free slot was taken. -/
theorem occupied_set {index : Nat} {slot : Slot} (found : pool.connections[index]? = some slot)
    (hidden : slot.occupied = none) (new : Slot) :
    ((pool.connections.set index new).filterMap Slot.occupied).Perm (new.occupied.toList ++ pool.occupied) := by
  have moved := set_filterMap pool.connections Slot.occupied index slot new found
  rwa [hidden] at moved

theorem cleared_step {index : Nat} {slot : Slot} (found : pool.connections[index]? = some slot)
    (hidden : slot.occupied = none) (tidy : Tidy pool) (accounted : Accounted pool) :
    Accounted (cleared pool index) ∧ Tidy (cleared pool index) := by
  have same := occupied_set found hidden freeSlot
  have length := same.length_eq
  constructor
  · refine ⟨accounted.counted.trans length.symm, accounted.active.trans length.symm, ?_, ?_⟩
    · exact (same.map _).nodup_iff.mpr accounted.distinct
    · intro other member closed
      rcases List.mem_or_eq_of_mem_set member with old | rfl
      · exact accounted.released other old closed
      · exact Or.inr rfl
  · exact tidy.set index freeSlot (fun _ => rfl) (fun used => absurd rfl used) rfl rfl

end Calls

end SecureChat.Server.ConnectionPool
