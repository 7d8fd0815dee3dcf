import Mathlib.Algebra.Ring.Nat
import Mathlib.Algebra.BigOperators.Group.Finset.Piecewise
import Mathlib.Algebra.Order.BigOperators.Group.Finset

namespace SecureChat.Library
open Finset

/-- The length of one chunk, if a whole is cut into chunks of one size. The last chunk may be shorter. -/
def chunkLength (total size index : Nat) : Nat := min size (total - index * size)

/-- The weight of all items of one class. -/
def classWeight {Item : Type*} (kind weight : Item → Nat) (items : List Item) (index : Nat) : Nat :=
  ((items.filter fun item => kind item = index).map weight).sum

theorem sum_chunkLength (total size count : Nat) :
    ∑ index ∈ range count, chunkLength total size index = min (count * size) total := by
  induction count with
  | zero => simp
  | succ count ih =>
      rw [sum_range_succ, ih, chunkLength, Nat.succ_mul]
      omega

/-- Every chunk that is counted has at least one element. -/
theorem chunkLength_pos (total size index : Nat) (inside : index < (total + size - 1) / size) :
    0 < chunkLength total size index := by
  have positive : 0 < size := by
    rcases Nat.eq_zero_or_pos size with rfl | positive
    · simp at inside
    · exact positive
  have before := (Nat.le_div_iff_mul_le positive).mp inside
  rw [Nat.succ_mul] at before
  unfold chunkLength
  omega

/-- Chunks that never hold more than their length hold at most the whole. -/
theorem sum_amount_le {total size count : Nat} {amount : Nat → Nat}
    (within : ∀ index < count, amount index ≤ chunkLength total size index) :
    ∑ index ∈ range count, amount index ≤ total := by
  calc ∑ index ∈ range count, amount index
      ≤ ∑ index ∈ range count, chunkLength total size index :=
        sum_le_sum fun index member => within index (mem_range.mp member)
    _ = min (count * size) total := sum_chunkLength total size count
    _ ≤ total := Nat.min_le_right _ _

/-- Chunks that never hold more than their length are full once the whole is reached. -/
theorem chunks_full (total size count : Nat) (amount : Nat → Nat)
    (within : ∀ index < count, amount index ≤ chunkLength total size index)
    (reached : total ≤ ∑ index ∈ range count, amount index) :
    ∀ index < count, amount index = chunkLength total size index := by
  have bounded : ∀ index ∈ range count, amount index ≤ chunkLength total size index :=
    fun index member => within index (mem_range.mp member)
  have below := sum_le_sum bounded
  have whole := sum_chunkLength total size count
  have equal := (sum_eq_sum_iff_of_le bounded).mp (by omega)
  exact fun index inside => equal index (mem_range.mpr inside)

section Classes

variable {Item : Type*} (kind weight : Item → Nat)

@[simp] theorem classWeight_nil (index : Nat) : classWeight kind weight [] index = 0 := rfl

/-- A further item adds to the weight of its own class. -/
theorem classWeight_append (items : List Item) (item : Item) (index : Nat) :
    classWeight kind weight (items ++ [item]) index =
      classWeight kind weight items index + if kind item = index then weight item else 0 := by
  unfold classWeight
  rw [List.filter_append, List.map_append, List.sum_append]
  by_cases same : kind item = index <;> simp [same]

/-- The weights of all classes are the weight of all items. -/
theorem sum_classWeight (count : Nat) (items : List Item) (inside : ∀ item ∈ items, kind item < count) :
    ∑ index ∈ range count, classWeight kind weight items index = (items.map weight).sum := by
  induction items using List.reverseRecOn with
  | nil => simp
  | append_singleton items item ih =>
      rw [List.forall_mem_append, List.forall_mem_singleton] at inside
      have single : ∑ index ∈ range count, (if kind item = index then weight item else 0) = weight item := by
        rw [sum_ite_eq, if_pos (mem_range.mpr inside.2)]
      simp only [classWeight_append, sum_add_distrib, single, ih inside.1, List.map_append, List.sum_append,
        List.map_singleton, List.sum_singleton]

/-- A class with some weight has an item. -/
theorem exists_of_classWeight (items : List Item) (index : Nat)
    (positive : 0 < classWeight kind weight items index) : ∃ item ∈ items, kind item = index := by
  by_contra missing
  push Not at missing
  have empty : (items.filter fun item => kind item = index) = [] :=
    List.filter_eq_nil_iff.mpr fun item member same => missing item member (of_decide_eq_true same)
  rw [classWeight, empty] at positive
  cases positive

end Classes

end SecureChat.Library
