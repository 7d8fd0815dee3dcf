import Mathlib.Data.List.Basic
import Mathlib.Tactic.Common
import SecureChat.Library.Machine
import Mathlib.Data.List.Range

namespace SecureChat.Library

section Records

variable {Record Key : Type*} [DecidableEq Key]

/-- Every record with the key is changed. -/
def updateKey (key : Record → Key) (wanted : Key) (change : Record → Record) (records : List Record) :
    List Record :=
  records.map fun record => if key record = wanted then change record else record

variable (key : Record → Key) (wanted : Key) (change : Record → Record) (records : List Record)
  (keep : Record → Bool)

/-- The records that are kept stay the same exactly when the change does nothing to those with the key. -/
theorem filter_updateKey_iff (stable : ∀ record, keep (change record) = keep record) :
    (updateKey key wanted change records).filter keep = records.filter keep ↔
      ∀ record ∈ records, keep record = true → key record = wanted → change record = record := by
  have choice : ∀ record, keep (if key record = wanted then change record else record) = keep record := by
    intro record
    split
    · exact stable record
    · rfl
  unfold updateKey
  induction records with
  | nil =>
      apply iff_of_true rfl
      rintro record ⟨⟩
  | cons record records ih =>
      rw [List.map_cons, List.filter_cons, List.filter_cons, choice, List.forall_mem_cons]
      cases kept : keep record with
      | false =>
          simp only [Bool.false_eq_true, if_false, false_implies, true_and]
          exact ih
      | true =>
          simp only [if_true, true_implies, List.cons.injEq]
          refine and_congr ?_ ih
          split
          · rename_i same
            exact ⟨fun fixed _ => fixed, fun fixed => fixed same⟩
          · rename_i apart
            exact iff_of_true rfl fun same => absurd same apart

end Records

/-- A change of one entry that a view does not show. -/
theorem map_modify_of_unseen {Entry Shown : Type*} (entries : List Entry) (change : Entry → Entry)
    (view : Entry → Shown) (unseen : ∀ entry, view (change entry) = view entry) (index : Nat) :
    (entries.modify index change).map view = entries.map view := by
  apply List.ext_getElem?
  intro place
  rw [List.getElem?_map, List.getElem?_map, List.getElem?_modify]
  cases entries[place]? with
  | none => split <;> rfl
  | some entry =>
      split
      · exact congrArg some (unseen entry)
      · rfl

theorem modify_middle {Entry : Type*} (before after : List Entry) (entry : Entry) (change : Entry → Entry) :
    (before ++ entry :: after).modify before.length change = before ++ change entry :: after := by
  induction before with
  | nil => rfl
  | cons head before ih =>
      rw [List.cons_append, List.length_cons, List.modify_succ_cons, ih]
      rfl

/-- A sweep looks at one place after another and removes what is due. Others may write to the store
between its rounds. Nothing more happens once a removal leaves no store. -/
structure Sweep (Store Entry Update : Type*) where
  write : Store → Update → Store
  entry : Store → Nat → Option Entry
  due : Entry → Bool
  remove : Store → Nat → Option Store

namespace Sweep

variable {Store Entry Update : Type*} (sweep : Sweep Store Entry Update)

def written (store : Store) (updates : List Update) : Store := updates.foldl sweep.write store

/-- One round without updates. -/
def round (store : Store) (place : Nat) : Option Store :=
  if (sweep.entry store place).any sweep.due then sweep.remove store place else some store

/-- The entry that the next round looks at. -/
def looked (state : Option Store × Nat) (updates : List Update) : Option Entry :=
  state.1.bind fun store => sweep.entry (sweep.written store updates) state.2

/-- Each input holds what the others write before the round. The outputs are the removed entries. -/
def machine : Machine (Option Store × Nat) (List Update) Entry where
  step state updates :=
    ((state.1.bind fun store => sweep.round (sweep.written store updates) state.2, state.2 + 1),
      ((sweep.looked state updates).filter sweep.due).toList)

theorem mem_removed (state : Option Store × Nat) (updates : List Update) (entry : Entry) :
    entry ∈ (sweep.machine.step state updates).2 ↔
      sweep.looked state updates = some entry ∧ sweep.due entry = true := by
  show entry ∈ ((sweep.looked state updates).filter sweep.due).toList ↔ _
  rw [Option.mem_toList, Option.filter_eq_some_iff]

/-- A sweep removes only what it should exactly as long as all that it finds due should be removed. -/
theorem removes_iff (wanted : Entry → Prop) (state : Option Store × Nat) (rounds : List (List Update)) :
    sweep.machine.Along (fun state updates => ∀ entry ∈ (sweep.machine.step state updates).2, wanted entry)
        state rounds ↔
      sweep.machine.Along
        (fun state updates => ∀ entry, sweep.looked state updates = some entry → sweep.due entry = true →
          wanted entry) state rounds := by
  refine Machine.along_iff_along _ _ _ (fun _ => True) (fun state updates _ => ?_) (fun _ _ _ _ => trivial)
    state rounds trivial
  constructor
  · intro right entry found due
    exact right entry ((sweep.mem_removed state updates entry).mpr ⟨found, due⟩)
  · intro right entry removed
    obtain ⟨found, due⟩ := (sweep.mem_removed state updates entry).mp removed
    exact right entry found due

/-- Without updates, a sweep is a loop over its rounds. -/
theorem run_quiet (store : Option Store) (start count : Nat) :
    (sweep.machine.run (store, start) (List.replicate count [])).1.1 =
      store.bind fun store => (List.range' start count).foldlM sweep.round store := by
  induction count generalizing store start with
  | zero => cases store <;> rfl
  | succ count ih =>
      rw [List.replicate_succ, Machine.run_cons, List.range'_succ]
      show (sweep.machine.run (store.bind fun store => sweep.round (sweep.written store []) start, start + 1)
        (List.replicate count [])).1.1 = _
      rw [ih]
      cases store <;> rfl

end Sweep

end SecureChat.Library
