import Mathlib.Data.List.Basic
import Mathlib.Logic.Function.Basic
import Mathlib.Tactic.Common

namespace SecureChat.Library

/-- A heap cell holds a value and the address of the next cell. -/
structure Cell (Value : Type*) where
  value : Value
  next : Option Nat

/-- An address is live when it holds a cell. -/
abbrev Heap (Value : Type*) := Nat → Option (Cell Value)

/-- An allocator may refuse any call. An address that it returns is never live.
The seed lets it answer differently each time. -/
structure Allocator (Value : Type*) where
  malloc : Nat → Heap Value → Option Nat
  fresh : ∀ seed heap address, malloc seed heap = some address → heap address = none

variable {Value : Type*}

/-- This allocator returns the address that the seed names, if it is free. -/
def Allocator.atSeed (Value : Type*) : Allocator Value where
  malloc seed heap := if (heap seed).isNone then some seed else none
  fresh seed heap address given := by
    by_cases free : (heap seed).isNone
    · simp only [free, if_true, Option.some.injEq] at given
      subst given
      exact Option.isNone_iff_eq_none.mp free
    · simp [free] at given

/-- The cells that one meets on the way from a pointer to the null pointer. -/
inductive Chain (heap : Heap Value) : Option Nat → List Nat → Prop where
  | nil : Chain heap none []
  | cons {address : Nat} {cell : Cell Value} {rest : List Nat} (stored : heap address = some cell)
      (later : Chain heap cell.next rest) : Chain heap (some address) (address :: rest)

/-- A pointer reaches its own cell and all cells that the next pointer reaches. -/
inductive Reaches (heap : Heap Value) : Option Nat → Nat → Prop where
  | here {address : Nat} {cell : Cell Value} (stored : heap address = some cell) :
      Reaches heap (some address) address
  | there {address target : Nat} {cell : Cell Value} (stored : heap address = some cell)
      (later : Reaches heap cell.next target) : Reaches heap (some address) target

/-- The values of the cells at the given addresses. -/
def contents (heap : Heap Value) (cells : List Nat) : List Value :=
  cells.filterMap fun address => (heap address).map Cell.value

namespace Chain

variable {heap : Heap Value} {head : Option Nat} {cells : List Nat}

theorem mem_iff_reaches (chain : Chain heap head cells) (target : Nat) :
    target ∈ cells ↔ Reaches heap head target := by
  induction chain with
  | nil =>
      constructor
      · intro member
        cases member
      · intro reaches
        cases reaches
  | cons stored later ih =>
      rw [List.mem_cons, ih]
      constructor
      · rintro (rfl | reaches)
        · exact .here stored
        · exact .there stored reaches
      · intro reaches
        cases reaches with
        | here => exact .inl rfl
        | there found reaches =>
            obtain rfl := Option.some.inj (stored.symm.trans found)
            exact .inr reaches

/-- Every cell of a chain is live. -/
theorem live (chain : Chain heap head cells) : ∀ address ∈ cells, ∃ cell, heap address = some cell := by
  induction chain with
  | nil => simp
  | cons stored later ih => exact List.forall_mem_cons.mpr ⟨⟨_, stored⟩, ih⟩

/-- A write outside the chain keeps the chain. -/
theorem update (chain : Chain heap head cells) (address : Nat) (entry : Option (Cell Value))
    (outside : address ∉ cells) : Chain (Function.update heap address entry) head cells := by
  induction chain with
  | nil => exact .nil
  | cons stored later ih =>
      rw [List.mem_cons, not_or] at outside
      apply Chain.cons _ (ih outside.2)
      rw [Function.update_of_ne (Ne.symm outside.1)]
      exact stored

theorem eq_nil (chain : Chain heap none cells) : cells = [] := by
  cases chain
  rfl

/-- A chain starts at its head and goes on behind it. -/
theorem uncons {address : Nat} (chain : Chain heap (some address) cells) :
    ∃ cell rest, cells = address :: rest ∧ heap address = some cell ∧ Chain heap cell.next rest := by
  cases chain with
  | cons stored later => exact ⟨_, _, rfl, stored, later⟩

/-- A pointer has only one chain. -/
theorem unique {others : List Nat} (chain : Chain heap head cells) (again : Chain heap head others) :
    cells = others := by
  induction chain generalizing others with
  | nil => exact again.eq_nil.symm
  | @cons address cell rest stored later ih =>
      obtain ⟨found, more, rfl, same, further⟩ := again.uncons
      obtain rfl := Option.some.inj (stored.symm.trans same)
      rw [ih further]

/-- A write to the next field of the last cell appends a cell that points nowhere. -/
theorem append (chain : Chain heap head cells) (distinct : cells.Nodup) (last fresh : Nat)
    (ends : cells.getLast? = some last) (cell added : Cell Value) (stored : heap last = some cell)
    (present : heap fresh = some added) (terminal : added.next = none) (outside : fresh ∉ cells) :
    Chain (Function.update heap last (some { cell with next := some fresh })) head
      (cells ++ [fresh]) := by
  have kept : Function.update heap last (some { cell with next := some fresh }) fresh = some added := by
    have other : fresh ≠ last := by
      rintro rfl
      exact outside (List.mem_of_getLast? ends)
    rw [Function.update_of_ne other]
    exact present
  have single : Chain (Function.update heap last (some { cell with next := some fresh })) (some fresh)
      [fresh] := .cons kept (by rw [terminal]; exact .nil)
  induction chain with
  | nil => cases ends
  | @cons address found rest held later ih =>
      cases rest with
      | nil =>
          simp only [List.getLast?_singleton, Option.some.injEq] at ends
          subst ends
          exact .cons (Function.update_self _ _ _) single
      | cons second rest =>
          rw [List.nodup_cons] at distinct
          rw [List.getLast?_cons_cons] at ends
          have other : address ≠ last := by
            rintro rfl
            exact distinct.1 (List.mem_of_getLast? ends)
          apply Chain.cons
          · rw [Function.update_of_ne other]
            exact held
          · exact ih distinct.2 ends fun member => outside (List.mem_cons_of_mem _ member)

end Chain

/-- A write outside the cells keeps their contents. -/
theorem contents_update (heap : Heap Value) (cells : List Nat) (address : Nat)
    (entry : Option (Cell Value)) (outside : address ∉ cells) :
    contents (Function.update heap address entry) cells = contents heap cells := by
  unfold contents
  apply List.filterMap_congr
  intro other member
  have different : other ≠ address := by
    rintro rfl
    exact outside member
  rw [Function.update_of_ne different]

/-- A write to a next field keeps all contents. -/
theorem contents_link (heap : Heap Value) (cells : List Nat) (address : Nat) (cell : Cell Value)
    (next : Option Nat) (stored : heap address = some cell) :
    contents (Function.update heap address (some { cell with next := next })) cells =
      contents heap cells := by
  unfold contents
  apply List.filterMap_congr
  intro other _
  by_cases same : other = address
  · subst same
    rw [Function.update_self, stored]
    rfl
  · rw [Function.update_of_ne same]

theorem contents_append (heap : Heap Value) (cells more : List Nat) :
    contents heap (cells ++ more) = contents heap cells ++ contents heap more :=
  List.filterMap_append

theorem contents_cons (heap : Heap Value) (address : Nat) (cells : List Nat) (cell : Cell Value)
    (stored : heap address = some cell) :
    contents heap (address :: cells) = cell.value :: contents heap cells := by
  simp [contents, stored]

/-- A chain has one value for each cell. -/
theorem Chain.contents_length {heap : Heap Value} {head : Option Nat} {cells : List Nat}
    (chain : Chain heap head cells) : (contents heap cells).length = cells.length := by
  induction chain with
  | nil => rfl
  | cons stored later ih => simp [contents_cons _ _ _ _ stored, ih]

end SecureChat.Library
