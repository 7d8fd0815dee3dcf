import SecureChat.Library.ChainTable

namespace SecureChat.Library

variable {Value Index : Type*}

/-- Disjoint chains with one tail pointer for all of them.
The tail pointer is null or points at the last cell of one chain. -/
structure SharedTail (heap : Heap Value) (head : Index → Option Nat) (tail : Option Nat)
    (cells : Index → List Nat) : Prop where
  chain : ∀ index, Chain heap (head index) (cells index)
  distinct : ∀ index, (cells index).Nodup
  disjoint : ∀ index other, index ≠ other → (cells index).Disjoint (cells other)
  last : ∀ address, tail = some address → ∃ index, (cells index).getLast? = some address

namespace SharedTail

variable {heap : Heap Value} {head : Index → Option Nat} {tail : Option Nat}
  {cells : Index → List Nat}

/-- Without the tail pointer there is a table of chains. -/
theorem table (queues : SharedTail heap head tail cells) : ChainTable heap head cells :=
  ⟨queues.chain, queues.distinct, queues.disjoint⟩

/-- A write outside all chains keeps them. -/
theorem update (queues : SharedTail heap head tail cells) (address : Nat)
    (entry : Option (Cell Value)) (outside : ∀ index, address ∉ cells index) :
    SharedTail (Function.update heap address entry) head tail cells where
  chain index := (queues.chain index).update address entry (outside index)
  distinct := queues.distinct
  disjoint := queues.disjoint
  last := queues.last

variable [DecidableEq Index]

/-- An empty chain starts with a cell that points nowhere, and the tail moves there. -/
theorem start (queues : SharedTail heap head tail cells) (index : Index) (address : Nat)
    (cell : Cell Value) (stored : heap address = some cell) (terminal : cell.next = none)
    (outside : ∀ other, address ∉ cells other) :
    SharedTail heap (Function.update head index (some address)) (some address)
      (Function.update cells index [address]) := by
  obtain ⟨distinct, disjoint⟩ := queues.table.replace index [address] (List.nodup_singleton address) (by
    intro other member target _
    rw [List.mem_singleton] at member
    exact member ▸ outside target)
  have single : Chain heap (some address) [address] := .cons stored (by rw [terminal]; exact .nil)
  apply SharedTail.mk _ distinct disjoint
  · intro last same
    obtain rfl := Option.some.inj same
    exact ⟨index, by rw [Function.update_self]; rfl⟩
  · intro other
    exact ChainTable.chain_update other index _ _ single fun _ => queues.chain other

/-- A cell that is linked behind the tail joins the chain of the tail. -/
theorem append (queues : SharedTail heap head tail cells) (index : Index) (last address : Nat)
    (ends : (cells index).getLast? = some last) (cell added : Cell Value)
    (stored : heap last = some cell) (present : heap address = some added)
    (terminal : added.next = none) (outside : ∀ other, address ∉ cells other) :
    SharedTail (Function.update heap last (some { cell with next := some address })) head
      (some address) (Function.update cells index (cells index ++ [address])) := by
  have joined : (cells index ++ [address]).Nodup := by
    rw [List.nodup_append]
    refine ⟨queues.distinct index, List.nodup_singleton address, ?_⟩
    intro first member second single
    rw [List.mem_singleton] at single
    rintro rfl
    exact outside index (single ▸ member)
  obtain ⟨distinct, disjoint⟩ := queues.table.replace index (cells index ++ [address]) joined (by
    intro other member target different
    rw [List.mem_append, List.mem_singleton] at member
    rcases member with member | rfl
    · exact queues.table.elsewhere different member
    · exact outside target)
  apply SharedTail.mk _ distinct disjoint
  · intro newest same
    obtain rfl := Option.some.inj same
    exact ⟨index, by rw [Function.update_self]; simp⟩
  · intro other
    have extended := (queues.chain index).append (queues.distinct index) last address ends cell added
      stored present terminal (outside index)
    have moved : Chain _ (Function.update head index (head index) other)
        (Function.update cells index (cells index ++ [address]) other) :=
      ChainTable.chain_update other index _ _ extended fun different =>
        (queues.chain other).update last _ (queues.table.elsewhere different (List.mem_of_getLast? ends))
    rw [Function.update_eq_self] at moved
    exact moved

/-- A cell that points at the head of a chain becomes its head. -/
theorem push (queues : SharedTail heap head tail cells) (index : Index) (address : Nat)
    (cell : Cell Value) (stored : heap address = some cell) (points : cell.next = head index)
    (outside : ∀ other, address ∉ cells other) (idle : tail = none → cells index = []) :
    SharedTail heap (Function.update head index (some address))
      (if tail = none then some address else tail)
      (Function.update cells index (address :: cells index)) := by
  obtain ⟨distinct, disjoint⟩ := queues.table.replace index (address :: cells index)
    (List.nodup_cons.mpr ⟨outside index, queues.distinct index⟩) (by
      intro other member target different
      rw [List.mem_cons] at member
      rcases member with rfl | member
      · exact outside target
      · exact queues.table.elsewhere different member)
  apply SharedTail.mk _ distinct disjoint
  · intro last same
    split at same
    · rename_i missing
      obtain rfl := Option.some.inj same
      exact ⟨index, by rw [Function.update_self, idle missing]; rfl⟩
    · obtain ⟨owner, ends⟩ := queues.last last same
      refine ⟨owner, ?_⟩
      by_cases here : owner = index
      · subst here
        rw [Function.update_self, List.getLast?_cons, ends]
        rfl
      · rw [Function.update_of_ne here]
        exact ends
  · intro other
    exact ChainTable.chain_update other index _ _ (.cons stored (by rw [points]; exact queues.chain index))
      fun _ => queues.chain other

/-- The head of a chain is unlinked and freed. -/
theorem pop (queues : SharedTail heap head tail cells) (index : Index) (address : Nat)
    (next : Option Nat) (rest : List Nat) (front : cells index = address :: rest)
    (later : Chain heap next rest) :
    SharedTail (Function.update heap address none) (Function.update head index next)
      (if tail = some address then none else tail) (Function.update cells index rest) := by
  have whole := queues.distinct index
  rw [front, List.nodup_cons] at whole
  have member : address ∈ cells index := by rw [front]; exact List.mem_cons_self
  obtain ⟨distinct, disjoint⟩ := queues.table.replace index rest whole.2 (by
    intro other inside target different
    apply queues.table.elsewhere different
    rw [front]
    exact List.mem_cons_of_mem _ inside)
  apply SharedTail.mk _ distinct disjoint
  · intro last same
    split at same
    · cases same
    · rename_i other
      obtain ⟨owner, ends⟩ := queues.last last same
      refine ⟨owner, ?_⟩
      by_cases here : owner = index
      · subst here
        rw [Function.update_self]
        rw [front] at ends
        cases rest with
        | nil =>
            simp only [List.getLast?_singleton, Option.some.injEq] at ends
            subst ends
            exact absurd same other
        | cons second rest => exact ends
      · rw [Function.update_of_ne here]
        exact ends
  · intro other
    exact ChainTable.chain_update other index _ _ (later.update address none whole.1) fun different =>
      (queues.chain other).update address none (queues.table.elsewhere different member)

end SharedTail

end SecureChat.Library
