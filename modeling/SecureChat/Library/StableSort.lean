import SecureChat.Library.BoundedLog
import Mathlib.Order.Defs.LinearOrder

namespace SecureChat.Library.StableSort

variable {Entry Key : Type*} [LinearOrder Key] (key : Entry → Key)

def atMost (first second : Entry) : Bool := decide (key first ≤ key second)

/-- Entries in the order of their keys, and those with the same key as they came. -/
def byKey (entries : List Entry) : List Entry := entries.mergeSort (atMost key)

/-- The new entry stands in front of the first one with a greater key. -/
def insertAfter (new : Entry) : List Entry → List Entry
  | [] => [new]
  | entry :: rest => if key new < key entry then new :: entry :: rest else entry :: insertAfter new rest

theorem atMost_trans (first second third : Entry) (before : atMost key first second = true)
    (after : atMost key second third = true) : atMost key first third = true :=
  decide_eq_true ((of_decide_eq_true before).trans (of_decide_eq_true after))

theorem atMost_total (first second : Entry) : (atMost key first second || atMost key second first) = true := by
  rw [Bool.or_eq_true, atMost, atMost, decide_eq_true_eq, decide_eq_true_eq]
  exact le_total _ _

theorem byKey_perm (entries : List Entry) : (byKey key entries).Perm entries := List.mergeSort_perm _ _

theorem byKey_sorted (entries : List Entry) :
    (byKey key entries).Pairwise fun first second => key first ≤ key second :=
  (List.pairwise_mergeSort (atMost_trans key) (atMost_total key) entries).imp of_decide_eq_true

/-- Entries with one key keep their order. -/
theorem byKey_filter (entries : List Entry) (wanted : Key) :
    (byKey key entries).filter (fun entry => key entry = wanted) =
      entries.filter fun entry => key entry = wanted := by
  have equal : (entries.filter fun entry => key entry = wanted).Pairwise fun first second =>
      atMost key first second = true := by
    refine List.pairwise_of_forall_mem_list fun first one second other => ?_
    have here := of_decide_eq_true (List.mem_filter.mp one).2
    have there := of_decide_eq_true (List.mem_filter.mp other).2
    exact decide_eq_true (here.trans there.symm).le
  have inside := List.sublist_mergeSort (atMost_trans key) (atMost_total key) equal List.filter_sublist
  have filtered := inside.filter fun entry => decide (key entry = wanted)
  rw [List.filter_filter] at filtered
  simp only [Bool.and_self] at filtered
  exact (filtered.eq_of_length ((byKey_perm key entries).filter _).length_eq.symm).symm

/-- A sorted list is known by the order of the entries with each key. -/
theorem sorted_unique (first second : List Entry)
    (sorted : first.Pairwise fun one other => key one ≤ key other)
    (other : second.Pairwise fun one other => key one ≤ key other)
    (same : ∀ wanted, first.filter (fun entry => key entry = wanted) =
      second.filter fun entry => key entry = wanted) : first = second := by
  have members : ∀ entry, entry ∈ first ↔ entry ∈ second := by
    intro entry
    have here := congrArg (entry ∈ ·) (same (key entry))
    simpa only [List.mem_filter, decide_true, and_true, eq_iff_iff] using here
  induction first generalizing second with
  | nil =>
      refine (List.eq_nil_iff_forall_not_mem.mpr fun entry inside => ?_).symm
      cases (members entry).mpr inside
  | cons head rest ih =>
      cases second with
      | nil => cases (members head).mp List.mem_cons_self
      | cons top below =>
          obtain ⟨least, ordered⟩ := List.pairwise_cons.mp sorted
          obtain ⟨lowest, arranged⟩ := List.pairwise_cons.mp other
          have up : key head ≤ key top := by
            rcases List.mem_cons.mp ((members top).mpr List.mem_cons_self) with equal | later
            · exact (congrArg key equal).ge
            · exact least top later
          have down : key top ≤ key head := by
            rcases List.mem_cons.mp ((members head).mp List.mem_cons_self) with equal | later
            · exact (congrArg key equal).ge
            · exact lowest head later
          have level := le_antisymm up down
          have front := same (key head)
          rw [List.filter_cons, List.filter_cons, if_pos (decide_eq_true rfl),
            if_pos (decide_eq_true level.symm)] at front
          obtain rfl := (List.cons.inj front).1
          have tails : ∀ wanted, rest.filter (fun entry => key entry = wanted) =
              below.filter fun entry => key entry = wanted := by
            intro wanted
            have whole := same wanted
            rw [List.filter_cons, List.filter_cons] at whole
            split at whole
            · exact (List.cons.inj whole).2
            · exact whole
          refine congrArg _ (ih below ordered arranged tails fun entry => ?_)
          have here := congrArg (entry ∈ ·) (tails (key entry))
          simpa only [List.mem_filter, decide_true, and_true, eq_iff_iff] using here

/-- An entry that is not greater than the others stays the first one. -/
theorem byKey_cons (first : Entry) (rest : List Entry) (least : ∀ entry ∈ rest, key first ≤ key entry) :
    byKey key (first :: rest) = first :: byKey key rest := by
  have sorted : (first :: byKey key rest).Pairwise fun first second => key first ≤ key second := by
    refine List.pairwise_cons.mpr ⟨fun entry member => ?_, byKey_sorted key rest⟩
    exact least entry ((byKey_perm key rest).mem_iff.mp member)
  refine sorted_unique key _ _ (byKey_sorted key _) sorted fun wanted => ?_
  rw [byKey_filter, List.filter_cons, List.filter_cons, byKey_filter]

end SecureChat.Library.StableSort
