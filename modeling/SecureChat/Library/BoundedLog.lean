import Mathlib.Algebra.Order.BigOperators.Group.Finset
import Mathlib.Algebra.BigOperators.Group.Finset.Basic
import Mathlib.Data.Fintype.Card
import Mathlib.Data.Finset.Sort

namespace SecureChat.Library

section Recent

variable {Entry : Type*}

/-- The last entries of a history, as many as there is place for. -/
def recent (capacity : Nat) (history : List Entry) : List Entry := history.drop (history.length - capacity)

theorem recent_length (capacity : Nat) (history : List Entry) :
    (recent capacity history).length = min history.length capacity := by
  rw [recent, List.length_drop]
  omega

theorem recent_sublist (capacity : Nat) (history : List Entry) : (recent capacity history).Sublist history :=
  List.drop_sublist _ _

@[simp] theorem recent_nil (capacity : Nat) : recent capacity ([] : List Entry) = [] := List.drop_nil

theorem recent_of_trim (capacity : Nat) (history : List Entry) :
    (if history.length > capacity then history.drop (history.length - capacity) else history) =
      recent capacity history := by
  rw [recent]
  split
  · rfl
  · rename_i few
    rw [Nat.sub_eq_zero_of_le (Nat.le_of_not_gt few), List.drop_zero]

/-- A back that fills the place is all that counts. -/
theorem recent_append (capacity : Nat) (front back : List Entry) (full : capacity ≤ back.length) :
    recent capacity (front ++ back) = recent capacity back := by
  have place : (front ++ back).length - capacity = front.length + (back.length - capacity) := by
    rw [List.length_append]
    omega
  rw [recent, place, List.drop_length_add_append, recent]

/-- What was dropped before does not come back with a new entry. -/
theorem recent_recent_concat (capacity : Nat) (history : List Entry) (entry : Entry) :
    recent capacity (recent capacity history ++ [entry]) = recent capacity (history ++ [entry]) := by
  have size := recent_length capacity history
  rcases Nat.le_total history.length capacity with few | many
  · have all : recent capacity history = history := by
      rw [recent, Nat.sub_eq_zero_of_le few, List.drop_zero]
    rw [all]
  · have whole : history.take (history.length - capacity) ++ recent capacity history = history :=
      List.take_append_drop _ _
    have full : capacity ≤ (recent capacity history ++ [entry]).length := by
      rw [List.length_append, size]
      omega
    rw [← recent_append capacity (history.take (history.length - capacity)) _ full, ← List.append_assoc, whole]

/-- The first entry makes place for a new one when there is no other place. -/
theorem recent_push (capacity : Nat) (positive : 0 < capacity) (history : List Entry) (entry : Entry) :
    recent capacity (history ++ [entry]) =
      (if capacity ≤ (recent capacity history).length then (recent capacity history).tail
        else recent capacity history) ++ [entry] := by
  rw [recent_length, recent, List.length_append, List.length_singleton]
  split
  · rename_i full
    have place : history.length + 1 - capacity = history.length - capacity + 1 := by omega
    rw [place, List.drop_append_of_le_length (by omega), recent, List.tail_drop]
  · rename_i free
    have none : history.length - capacity = 0 := by omega
    have later : history.length + 1 - capacity = 0 := by omega
    rw [later, List.drop_zero, recent, none, List.drop_zero]

end Recent

section Shifting

variable {Slot : Type*}

/-- Each of the first slots is copied to the place in front of it. -/
def shiftDown (slots : List Slot) (count : Nat) : List Slot :=
  (List.range' 1 (count - 1)).foldl (fun slots index =>
    match slots[index]? with
    | some slot => slots.set (index - 1) slot
    | none => slots) slots

/-- After some rounds the slots up to there have moved, and the others have not. -/
theorem shiftDown_succ (slots : List Slot) (rounds : Nat) (inside : rounds < slots.length) :
    shiftDown slots (rounds + 1) = slots.tail.take rounds ++ slots.drop rounds := by
  induction rounds with
  | zero => rfl
  | succ rounds ih =>
      have before := ih (by omega)
      have moved : (slots.tail.take rounds).length = rounds := by
        rw [List.length_take, List.length_tail]
        omega
      rw [shiftDown, Nat.add_sub_cancel] at before ⊢
      rw [List.range'_1_concat, List.foldl_append, before, List.foldl_cons, List.foldl_nil]
      have found : (slots.tail.take rounds ++ slots.drop rounds)[1 + rounds]? = some slots[rounds + 1] := by
        rw [List.getElem?_append_right (by omega), moved, List.getElem?_drop, Nat.add_comm 1 rounds,
          Nat.add_sub_cancel_left, List.getElem?_eq_getElem inside]
      have next : slots.tail.take (rounds + 1) = slots.tail.take rounds ++ [slots[rounds + 1]] := by
        have short : rounds < slots.tail.length := by
          rw [List.length_tail]
          omega
        rw [List.take_succ_eq_append_getElem short, List.getElem_tail]
      rw [found]
      dsimp only
      rw [Nat.add_sub_cancel_left, List.set_append_right _ _ (by omega), moved, Nat.sub_self,
        List.drop_eq_getElem_cons (by omega), List.set_cons_zero, next, List.append_assoc]
      rfl

theorem shiftDown_length (slots : List Slot) (count : Nat) : (shiftDown slots count).length = slots.length := by
  have kept : ∀ (indices : List Nat) (start : List Slot), (indices.foldl (fun slots index =>
      match slots[index]? with
      | some slot => slots.set (index - 1) slot
      | none => slots) start).length = start.length := by
    intro indices
    induction indices with
    | nil => exact fun _ => rfl
    | cons index rest ih =>
        intro start
        rw [List.foldl_cons, ih]
        split
        · exact List.length_set ..
        · rfl
  exact kept _ _

/-- The first of the slots in use is gone. -/
theorem shiftDown_take (slots : List Slot) (count : Nat) (inside : count ≤ slots.length) :
    (shiftDown slots count).take (count - 1) = (slots.take count).tail := by
  cases count with
  | zero => rfl
  | succ rounds =>
      have moved : (slots.tail.take rounds).length = rounds := by
        rw [List.length_take, List.length_tail]
        omega
      rw [shiftDown_succ slots rounds inside, Nat.add_sub_cancel, List.take_left' moved]
      cases slots <;> simp

end Shifting

section Counting

/-- Values with a gap between them need place. -/
theorem spaced_length (gap bound low : Nat) (values : List Nat)
    (spaced : values.Pairwise fun first second => first + gap ≤ second)
    (inside : ∀ value ∈ values, low ≤ value ∧ value < bound) (some : values ≠ []) :
    low + (values.length - 1) * gap < bound := by
  induction values generalizing low with
  | nil => exact absurd rfl some
  | cons value rest ih =>
      obtain ⟨first, others⟩ := List.pairwise_cons.mp spaced
      have here := inside value List.mem_cons_self
      cases rest with
      | nil =>
          rw [List.length_singleton]
          omega
      | cons next rest =>
          have later := ih (value + gap) others
            (fun other member => ⟨first other member, (inside other (List.mem_cons_of_mem _ member)).2⟩)
            (List.cons_ne_nil _ _)
          simp only [List.length_cons, Nat.add_sub_cancel, Nat.add_mul] at later ⊢
          omega

/-- A list is as long as its parts of each kind. -/
theorem length_le_kinds {Entry Kind : Type*} [Fintype Kind] [DecidableEq Kind] (kind : Entry → Kind)
    (entries : List Entry) (most : Nat)
    (few : ∀ one, (entries.filter fun entry => kind entry = one).length ≤ most) :
    entries.length ≤ Fintype.card Kind * most := by
  have total := Multiset.sum_count_eq_card (s := Finset.univ) (m := (entries.map kind : Multiset Kind))
    fun one _ => Finset.mem_univ one
  rw [Multiset.coe_card, List.length_map] at total
  rw [← total]
  refine Finset.sum_le_card_nsmul Finset.univ _ most fun one _ => ?_
  rw [Multiset.coe_count, List.count_eq_countP, List.countP_map, List.countP_eq_length_filter]
  refine Nat.le_trans (Nat.le_of_eq ?_) (few one)
  congr 1

end Counting

variable {Entry : Type*} [LinearOrder Entry]

/-- The kept ones are greater than the others, and as many as there is place for. -/
structure Greatest (count : Nat) (whole kept : Finset Entry) : Prop where
  inside : kept ⊆ whole
  card : kept.card = min whole.card count
  greater : ∀ entry ∈ kept, ∀ other ∈ whole, other ∉ kept → other < entry

/-- The greatest ones are a single set. -/
theorem Greatest.unique {count : Nat} {whole kept kept' : Finset Entry} (one : Greatest count whole kept)
    (other : Greatest count whole kept') : kept = kept' := by
  have same : kept.card = kept'.card := one.card.trans other.card.symm
  by_contra apart
  have missing : ∃ entry ∈ kept, entry ∉ kept' := by
    by_contra none
    push Not at none
    exact apart (Finset.eq_of_subset_of_card_le none same.ge)
  have missing' : ∃ entry ∈ kept', entry ∉ kept := by
    by_contra none
    push Not at none
    exact apart (Finset.eq_of_subset_of_card_le none same.le).symm
  obtain ⟨entry, here, absent⟩ := missing
  obtain ⟨entry', here', absent'⟩ := missing'
  have less := one.greater entry here entry' (other.inside here') absent'
  have more := other.greater entry' here' entry (one.inside here) absent
  exact less.asymm more

variable [DecidableEq Entry]

/-- The last entries of an increasing list are the greatest. -/
theorem greatest_recent (count : Nat) (entries : List Entry) (increasing : entries.Pairwise (· < ·)) :
    Greatest count entries.toFinset (recent count entries).toFinset := by
  have distinct : entries.Nodup := increasing.imp fun less => less.ne
  have split : entries.take (entries.length - count) ++ recent count entries = entries :=
    List.take_append_drop _ _
  refine ⟨fun entry member => ?_, ?_, fun entry kept other member dropped => ?_⟩
  · rw [List.mem_toFinset] at member ⊢
    exact (recent_sublist count entries).subset member
  · rw [List.toFinset_card_of_nodup ((recent_sublist count entries).nodup distinct),
      List.toFinset_card_of_nodup distinct, recent_length]
  · rw [List.mem_toFinset] at kept member dropped
    rw [← split] at increasing member
    have front := (List.mem_append.mp member).resolve_right dropped
    exact (List.pairwise_append.mp increasing).2.2 other front entry kept

/-- Without the first of its sorted entries, a set has the greatest left. -/
theorem greatest_sdiff (count : Nat) (whole : Finset Entry) :
    Greatest count whole (whole \ (whole.sort.take (whole.card - count)).toFinset) := by
  have greatest := greatest_recent count whole.sort whole.sortedLT_sort.pairwise
  rw [Finset.sort_toFinset] at greatest
  have split : whole.sort.take (whole.card - count) ++ recent count whole.sort = whole.sort := by
    rw [recent, Finset.length_sort]
    exact List.take_append_drop _ _
  have distinct := whole.sort_nodup (· ≤ ·)
  rw [← split] at distinct
  have rest : whole \ (whole.sort.take (whole.card - count)).toFinset = (recent count whole.sort).toFinset := by
    ext entry
    rw [Finset.mem_sdiff, ← whole.mem_sort (· ≤ ·), List.mem_toFinset, List.mem_toFinset]
    constructor
    · rintro ⟨member, kept⟩
      rw [← split] at member
      exact (List.mem_append.mp member).resolve_left kept
    · intro member
      refine ⟨(recent_sublist count whole.sort).subset member, fun dropped => ?_⟩
      exact (List.nodup_append.mp distinct).2.2 entry dropped entry member rfl
  rw [rest]
  exact greatest

/-- A greater entry that joins those kept is kept in place of the least. -/
theorem greatest_push (count : Nat) (entries : List Entry) (entry : Entry)
    (increasing : (entries ++ [entry]).Pairwise (· < ·)) :
    Greatest count (insert entry (recent count entries).toFinset) (recent count (entries ++ [entry])).toFinset := by
  have kept : (recent count entries ++ [entry]).Pairwise (· < ·) :=
    increasing.sublist ((recent_sublist count entries).append (.refl _))
  have greatest := greatest_recent count _ kept
  rwa [recent_recent_concat, List.toFinset_append, Finset.union_comm, List.toFinset_cons, List.toFinset_nil,
    insert_empty_eq, ← Finset.insert_eq] at greatest

end SecureChat.Library
