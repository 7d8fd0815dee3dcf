import Mathlib.Data.List.Nodup
import SecureChat.Library.PointerChain

namespace SecureChat.Library

variable {Value Index : Type*}

namespace Chain

variable {heap : Heap Value} {head : Option Nat} {cells : List Nat}

/-- A chain goes on behind each of its cells. -/
theorem behind (before after : List Nat) {address : Nat} {cell : Cell Value}
    (chain : Chain heap head (before ++ address :: after)) (stored : heap address = some cell) :
    Chain heap cell.next after := by
  induction before generalizing head with
  | nil =>
      cases chain with
      | cons held later =>
          obtain rfl := Option.some.inj (held.symm.trans stored)
          exact later
  | cons first before ih =>
      cases chain with
      | cons held later => exact ih later

/-- A write to a value keeps the chain. -/
theorem setValue (chain : Chain heap head cells) (address : Nat) (cell : Cell Value)
    (stored : heap address = some cell) (value : Value) :
    Chain (Function.update heap address (some { cell with value := value })) head cells := by
  induction chain with
  | nil => exact .nil
  | @cons other found rest held later ih =>
      by_cases same : other = address
      · subst same
        obtain rfl := Option.some.inj (held.symm.trans stored)
        exact .cons (Function.update_self _ _ _) ih
      · exact .cons (by rw [Function.update_of_ne same]; exact held) ih

/-- A cell in the middle of a chain is bypassed and freed. -/
theorem bypass {before after : List Nat} {prev address : Nat} {front cell : Cell Value}
    (chain : Chain heap head (before ++ prev :: address :: after))
    (distinct : (before ++ prev :: address :: after).Nodup) (held : heap prev = some front)
    (stored : heap address = some cell) :
    Chain (Function.update (Function.update heap prev (some { front with next := cell.next })) address none)
      head (before ++ prev :: after) := by
  induction before generalizing head with
  | nil =>
      rw [List.nil_append, List.nodup_cons, List.nodup_cons] at distinct
      obtain ⟨apart, outside, -⟩ := distinct
      rw [List.mem_cons, not_or] at apart
      have later := (chain.behind [prev] after stored).update prev
        (some { front with next := cell.next }) apart.2
      cases chain with
      | cons found rest =>
          apply Chain.cons
          · rw [Function.update_of_ne apart.1, Function.update_self]
          · exact later.update address none outside
  | cons first before ih =>
      rw [List.cons_append, List.nodup_cons] at distinct
      have member : prev ∈ before ++ prev :: address :: after := by simp
      have next : address ∈ before ++ prev :: address :: after := by simp
      cases chain with
      | cons found rest =>
          apply Chain.cons _ (ih rest distinct.2)
          rw [Function.update_of_ne, Function.update_of_ne]
          · exact found
          · rintro rfl
            exact distinct.1 member
          · rintro rfl
            exact distinct.1 next

end Chain

/-- A write to a value changes the contents there. -/
theorem contents_setValue (heap : Heap Value) (before after : List Nat) (address : Nat) (cell : Cell Value)
    (distinct : (before ++ address :: after).Nodup) :
    contents (Function.update heap address (some cell)) (before ++ address :: after) =
      contents heap before ++ cell.value :: contents heap after := by
  rw [List.nodup_middle, List.nodup_cons, List.mem_append, not_or] at distinct
  rw [contents_append, contents_update _ _ _ _ distinct.1.1,
    contents_cons _ _ _ _ (Function.update_self address (some cell) heap),
    contents_update _ _ _ _ distinct.1.2]

/-- Disjoint chains, one for each index. -/
structure ChainTable (heap : Heap Value) (head : Index → Option Nat) (cells : Index → List Nat) : Prop where
  chain : ∀ index, Chain heap (head index) (cells index)
  distinct : ∀ index, (cells index).Nodup
  disjoint : ∀ index other, index ≠ other → (cells index).Disjoint (cells other)

namespace ChainTable

variable {heap : Heap Value} {head : Index → Option Nat} {cells : Index → List Nat}

/-- A dead address belongs to no chain. -/
theorem outside (table : ChainTable heap head cells) (address : Nat)
    (dead : heap address = none) (index : Index) : address ∉ cells index := by
  intro member
  obtain ⟨cell, stored⟩ := (table.chain index).live address member
  rw [dead] at stored
  cases stored

/-- A cell of one chain belongs to no other one. -/
theorem elsewhere (table : ChainTable heap head cells) {index other : Index} (different : other ≠ index)
    {address : Nat} (member : address ∈ cells index) : address ∉ cells other :=
  fun shared => table.disjoint other index different shared member

/-- A write to a value keeps the chains. -/
theorem setValue (table : ChainTable heap head cells) (address : Nat) (cell : Cell Value)
    (stored : heap address = some cell) (value : Value) :
    ChainTable (Function.update heap address (some { cell with value := value })) head cells where
  chain index := (table.chain index).setValue address cell stored value
  distinct := table.distinct
  disjoint := table.disjoint

variable [DecidableEq Index]

/-- The chains stay distinct and disjoint when one of them gets cells that no chain had. -/
theorem replace (table : ChainTable heap head cells) (index : Index) (list : List Nat)
    (distinct : list.Nodup)
    (known : ∀ address ∈ list, ∀ other, other ≠ index → address ∉ cells other) :
    (∀ other, (Function.update cells index list other).Nodup) ∧
      ∀ first second, first ≠ second →
        (Function.update cells index list first).Disjoint (Function.update cells index list second) := by
  constructor
  · intro other
    by_cases same : other = index
    · subst same
      rw [Function.update_self]
      exact distinct
    · rw [Function.update_of_ne same]
      exact table.distinct other
  · intro first second different address member shared
    by_cases here : first = index
    · subst here
      rw [Function.update_self] at member
      rw [Function.update_of_ne (Ne.symm different)] at shared
      exact known address member second (Ne.symm different) shared
    · rw [Function.update_of_ne here] at member
      by_cases there : second = index
      · subst there
        rw [Function.update_self] at shared
        exact known address shared first here member
      · rw [Function.update_of_ne there] at shared
        exact table.disjoint first second different member shared

/-- The chains of the other indices are untouched. -/
theorem chain_update (other : Index) (index : Index) (pointer : Option Nat) (list : List Nat)
    (here : Chain heap pointer list) (there : other ≠ index → Chain heap (head other) (cells other)) :
    Chain heap (Function.update head index pointer other) (Function.update cells index list other) := by
  by_cases same : other = index
  · subst same
    rw [Function.update_self, Function.update_self]
    exact here
  · rw [Function.update_of_ne same, Function.update_of_ne same]
    exact there same

/-- A new cell becomes the head of a chain. -/
theorem push (table : ChainTable heap head cells) (index : Index) (address : Nat) (value : Value)
    (outside : ∀ other, address ∉ cells other) :
    ChainTable (Function.update heap address (some ⟨value, head index⟩))
      (Function.update head index (some address)) (Function.update cells index (address :: cells index)) := by
  obtain ⟨distinct, disjoint⟩ := table.replace index (address :: cells index)
    (List.nodup_cons.mpr ⟨outside index, table.distinct index⟩) (by
      intro other member target different
      rw [List.mem_cons] at member
      rcases member with rfl | member
      · exact outside target
      · exact table.elsewhere different member)
  apply ChainTable.mk _ distinct disjoint
  intro other
  apply chain_update other index
  · exact .cons (Function.update_self _ _ _) ((table.chain index).update address _ (outside index))
  · exact fun _ => (table.chain other).update address _ (outside other)

/-- The head of a chain is unlinked and freed. -/
theorem removeHead (table : ChainTable heap head cells) (index : Index) (address : Nat) (cell : Cell Value)
    (after : List Nat) (front : cells index = address :: after) (stored : heap address = some cell) :
    ChainTable (Function.update heap address none) (Function.update head index cell.next)
      (Function.update cells index after) := by
  have whole := table.distinct index
  have chain := table.chain index
  rw [front] at whole chain
  have member : address ∈ cells index := by rw [front]; exact List.mem_cons_self
  obtain ⟨distinct, disjoint⟩ := table.replace index after (List.nodup_cons.mp whole).2 (by
    intro other inside target different
    apply table.elsewhere different
    rw [front]
    exact List.mem_cons_of_mem _ inside)
  apply ChainTable.mk _ distinct disjoint
  intro other
  apply chain_update other index
  · exact (chain.behind [] after stored).update address none (List.nodup_cons.mp whole).1
  · exact fun different => (table.chain other).update address none (table.elsewhere different member)

/-- A cell behind another one is bypassed and freed. -/
theorem removeBehind (table : ChainTable heap head cells) (index : Index) (prev address : Nat)
    (front cell : Cell Value) (before after : List Nat)
    (split : cells index = before ++ prev :: address :: after) (held : heap prev = some front)
    (stored : heap address = some cell) :
    ChainTable (Function.update (Function.update heap prev (some { front with next := cell.next })) address none)
      head (Function.update cells index (before ++ prev :: after)) := by
  have whole := table.distinct index
  have chain := table.chain index
  rw [split] at whole chain
  have first : prev ∈ cells index := by rw [split]; simp
  have second : address ∈ cells index := by rw [split]; simp
  have shorter : (before ++ prev :: after).Sublist (before ++ prev :: address :: after) :=
    ((List.sublist_cons_self address after).cons_cons prev).append_left before
  obtain ⟨distinct, disjoint⟩ := table.replace index (before ++ prev :: after) (whole.sublist shorter) (by
    intro other inside target different
    apply table.elsewhere different
    rw [split]
    exact shorter.subset inside)
  apply ChainTable.mk _ distinct disjoint
  intro other
  have moved : Chain
      (Function.update (Function.update heap prev (some { front with next := cell.next })) address none)
      (Function.update head index (head index) other)
      (Function.update cells index (before ++ prev :: after) other) := by
    apply chain_update other index
    · exact chain.bypass whole held stored
    · intro different
      exact ((table.chain other).update prev _ (table.elsewhere different first)).update address none
        (table.elsewhere different second)
  rw [Function.update_eq_self] at moved
  exact moved

end ChainTable

end SecureChat.Library
