import Mathlib.Data.List.Perm.Basic

namespace SecureChat.Library

variable {Slot : Type*}

/-- A slot that changes replaces one value among the values of all slots. -/
theorem set_perm (slots : List Slot) (index : Nat) (old new : Slot) (found : slots[index]? = some old) :
    (old :: slots.set index new).Perm (new :: slots) := by
  obtain ⟨inside, rfl⟩ := List.getElem?_eq_some_iff.mp found
  have changed := (List.set_perm_cons_eraseIdx inside new).cons slots[index]
  have swapped := List.Perm.swap new slots[index] (slots.eraseIdx index)
  exact changed.trans (swapped.trans ((List.getElem_cons_eraseIdx_perm inside).cons new))

/-- The number of slots with a property changes by the changed slot. -/
theorem set_countP (slots : List Slot) (property : Slot → Bool) (index : Nat) (old new : Slot)
    (found : slots[index]? = some old) :
    (slots.set index new).countP property + (if property old then 1 else 0) =
      slots.countP property + (if property new then 1 else 0) := by
  have counted := (set_perm slots index old new found).countP_eq property
  rwa [List.countP_cons, List.countP_cons] at counted

/-- What the slots show changes by what the changed slot shows. -/
theorem set_filterMap {Shown : Type*} (slots : List Slot) (view : Slot → Option Shown) (index : Nat)
    (old new : Slot) (found : slots[index]? = some old) :
    ((view old).toList ++ (slots.set index new).filterMap view).Perm
      ((view new).toList ++ slots.filterMap view) := by
  have shown : ∀ slot rest, (slot :: rest).filterMap view = (view slot).toList ++ rest.filterMap view := by
    intro slot rest
    cases seen : view slot <;> simp [seen]
  have moved := (set_perm slots index old new found).filterMap view
  rwa [shown, shown] at moved

/-- As long as not all slots show something, a search finds a free one. -/
theorem exists_free {Shown : Type*} (slots : List Slot) (view : Slot → Option Shown)
    (room : (slots.filterMap view).length < slots.length) :
    ∃ index slot, slots.findIdx? (fun slot => (view slot).isNone) = some index ∧
      slots[index]? = some slot ∧ view slot = none := by
  cases found : slots.findIdx? (fun slot => (view slot).isNone) with
  | some index =>
      obtain ⟨inside, passes, -⟩ := List.findIdx?_eq_some_iff_getElem.mp found
      exact ⟨index, _, rfl, List.getElem?_eq_getElem inside, Option.isNone_iff_eq_none.mp passes⟩
  | none =>
      have full := List.findIdx?_eq_none_iff.mp found
      have same : (slots.filterMap view).length = slots.length := by
        rw [List.length_filterMap_eq_countP, List.countP_eq_length]
        intro slot member
        have shown := full slot member
        rwa [Option.isNone_eq_false_iff] at shown
      omega

theorem modify_eq_set (slots : List Slot) (change : Slot → Slot) (index : Nat) (slot : Slot)
    (found : slots[index]? = some slot) : slots.modify index change = slots.set index (change slot) := by
  rw [List.modify_eq_set_getElem?, found]
  rfl

/-- A search among the first slots finds a slot that passes the test. -/
theorem findIdx?_take {slots : List Slot} {bound : Nat} {test : Slot → Bool} {index : Nat}
    (found : (slots.take bound).findIdx? test = some index) :
    index < bound ∧ ∃ slot, slots[index]? = some slot ∧ test slot = true := by
  obtain ⟨inside, passes, -⟩ := List.findIdx?_eq_some_iff_getElem.mp found
  rw [List.length_take] at inside
  rw [List.getElem_take] at passes
  exact ⟨by omega, _, List.getElem?_eq_getElem (by omega), passes⟩

section Lending

variable {Handle : Type*} (connection : Slot → Option Handle) (busy : Slot → Bool)

/-- The connection of a slot that is in use. -/
def lentBy (slot : Slot) : Option Handle := if busy slot then connection slot else none

theorem lentBy_of_busy (slot : Slot) (used : busy slot = true) :
    lentBy connection busy slot = connection slot := by
  rw [lentBy, if_pos used]

theorem lentBy_of_idle (slot : Slot) (idle : busy slot = false) : lentBy connection busy slot = none := by
  rw [lentBy, idle]
  rfl

/-- The slots lend some of their connections, in their order. -/
theorem lent_sublist (slots : List Slot) :
    (slots.filterMap (lentBy connection busy)).Sublist (slots.filterMap connection) := by
  induction slots with
  | nil => exact List.Sublist.refl _
  | cons slot slots ih =>
      cases used : busy slot with
      | false =>
          rw [List.filterMap_cons_none (lentBy_of_idle connection busy slot used)]
          exact ih.trans ((List.sublist_cons_self slot slots).filterMap _)
      | true =>
          rw [List.filterMap_cons, List.filterMap_cons, lentBy_of_busy connection busy slot used]
          split
          · exact ih
          · exact ih.cons_cons _

/-- The slot of a lent connection is in use, if no connection lies in two slots. -/
theorem busy_of_lent (slots : List Slot) (index : Nat) (slot : Slot) (handle : Handle)
    (found : slots[index]? = some slot) (stored : connection slot = some handle)
    (distinct : (slots.filterMap connection).Nodup)
    (lent : handle ∈ slots.filterMap (lentBy connection busy)) : busy slot = true := by
  obtain ⟨bound, rfl⟩ := List.getElem?_eq_some_iff.mp found
  have erased := List.getElem_cons_eraseIdx_perm bound
  have once := (erased.filterMap connection).nodup_iff.mpr distinct
  rw [List.filterMap_cons_some stored, List.nodup_cons] at once
  by_contra idle
  rw [Bool.not_eq_true] at idle
  have elsewhere := (erased.filterMap (lentBy connection busy)).mem_iff.mpr lent
  rw [List.filterMap_cons_none (lentBy_of_idle connection busy _ idle)] at elsewhere
  exact once.1 ((lent_sublist connection busy _).subset elsewhere)

end Lending

end SecureChat.Library
