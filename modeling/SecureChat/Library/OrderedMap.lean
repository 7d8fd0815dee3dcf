import Mathlib.Data.List.Nodup
import Mathlib.Tactic.Common

namespace SecureChat.Library

/-- A map that is walked in the order in which its keys came. -/
structure OrderedMap (Key Value : Type*) where
  entries : List (Key × Value)
  distinct : (entries.map Prod.fst).Nodup
  deriving DecidableEq

namespace OrderedMap

variable {Key Value : Type*}

def keys (map : OrderedMap Key Value) : List Key := map.entries.map Prod.fst

def values (map : OrderedMap Key Value) : List Value := map.entries.map Prod.snd

def empty : OrderedMap Key Value := ⟨[], List.nodup_nil⟩

variable [DecidableEq Key] (map : OrderedMap Key Value)

def get (key : Key) : Option Value := (map.entries.find? fun entry => entry.1 = key).map Prod.snd

/-- The value of a present key is changed in its place. -/
def modify (key : Key) (change : Value → Value) : OrderedMap Key Value where
  entries := map.entries.map fun entry => if entry.1 = key then (entry.1, change entry.2) else entry
  distinct := by
    have kept : (Prod.fst ∘ fun entry : Key × Value => if entry.1 = key then (entry.1, change entry.2) else entry) =
        Prod.fst := by
      funext entry
      rw [Function.comp_apply]
      split <;> rfl
    rw [List.map_map, kept]
    exact map.distinct

/-- A new key comes last, and a present key keeps its place. -/
def set (key : Key) (value : Value) : OrderedMap Key Value :=
  if fresh : key ∉ map.keys then
    ⟨map.entries ++ [(key, value)], by
      rw [List.map_append, List.nodup_append]
      refine ⟨map.distinct, List.nodup_singleton _, fun other member last same appended => ?_⟩
      rw [appended, List.mem_singleton.mp same] at member
      exact fresh member⟩
  else map.modify key fun _ => value

def delete (key : Key) : OrderedMap Key Value where
  entries := map.entries.filter fun entry => entry.1 ≠ key
  distinct := map.distinct.sublist (List.filter_sublist.map _)

variable {map} {key other : Key} {value : Value}

@[simp] theorem get_empty (key : Key) : (empty : OrderedMap Key Value).get key = none := rfl

/-- A value is found exactly where the walk meets it. -/
theorem get_eq_some_iff : map.get key = some value ↔ (key, value) ∈ map.entries := by
  constructor
  · intro found
    obtain ⟨entry, here, rfl⟩ := Option.map_eq_some_iff.mp found
    have same : entry.1 = key := by simpa using List.find?_some here
    exact same ▸ List.mem_of_find?_eq_some here
  · intro member
    cases here : map.entries.find? (fun entry => entry.1 = key) with
    | none => simpa using List.find?_eq_none.mp here _ member
    | some entry =>
        have same : entry.1 = key := by simpa using List.find?_some here
        have unique := List.inj_on_of_nodup_map map.distinct (List.mem_of_find?_eq_some here) member same
        rw [get, here, unique]
        rfl

theorem mem_keys_iff : key ∈ map.keys ↔ ∃ value, map.get key = some value := by
  simp only [get_eq_some_iff, keys, List.mem_map, Prod.exists, exists_and_right, exists_eq_right]

theorem get_eq_none_iff : map.get key = none ↔ key ∉ map.keys := by
  rw [mem_keys_iff, Option.eq_none_iff_forall_ne_some, not_exists]

@[simp] theorem keys_modify (map : OrderedMap Key Value) (key : Key) (change : Value → Value) :
    (map.modify key change).keys = map.keys := by
  rw [keys, modify, List.map_map, keys]
  congr 1
  funext entry
  rw [Function.comp_apply]
  split <;> rfl

theorem get_modify (map : OrderedMap Key Value) (key other : Key) (change : Value → Value) :
    (map.modify key change).get other = if other = key then (map.get other).map change else map.get other := by
  have find : ∀ entries : List (Key × Value),
      ((entries.map fun entry => if entry.1 = key then (entry.1, change entry.2) else entry).find?
          fun entry => entry.1 = other).map Prod.snd =
        if other = key then ((entries.find? fun entry => entry.1 = other).map Prod.snd).map change
        else (entries.find? fun entry => entry.1 = other).map Prod.snd := by
    intro entries
    induction entries with
    | nil => simp
    | cons entry entries ih =>
        rw [List.map_cons, List.find?_cons, List.find?_cons]
        by_cases here : entry.1 = other
        · by_cases same : other = key
          · simp [here, same]
          · simp [here, same]
        · by_cases same : entry.1 = key
          · have apart : ¬ key = other := fun equal => here (same.trans equal)
            simpa [same, apart] using ih
          · simpa [here, same] using ih
  exact find map.entries

theorem get_set (map : OrderedMap Key Value) (key other : Key) (value : Value) :
    (map.set key value).get other = if other = key then some value else map.get other := by
  unfold set
  split
  · rename_i fresh
    have absent : map.entries.find? (fun entry => entry.1 = key) = none := by
      rw [List.find?_eq_none]
      intro entry member equal
      exact fresh (List.mem_map.mpr ⟨entry, member, of_decide_eq_true equal⟩)
    unfold get
    rw [List.find?_append, List.find?_singleton]
    by_cases same : other = key
    · subst same
      simp [absent]
    · simp [same, Ne.symm same]
  · rename_i present
    rw [get_modify]
    split
    · rename_i same
      obtain ⟨old, found⟩ := mem_keys_iff.mp (not_not.mp present)
      rw [same, found, Option.map_some]
    · rfl

@[simp] theorem get_set_self (map : OrderedMap Key Value) (key : Key) (value : Value) :
    (map.set key value).get key = some value := by rw [get_set, if_pos rfl]

theorem get_set_of_ne (map : OrderedMap Key Value) (value : Value) (different : other ≠ key) :
    (map.set key value).get other = map.get other := by rw [get_set, if_neg different]

theorem get_delete (map : OrderedMap Key Value) (key other : Key) :
    (map.delete key).get other = if other = key then none else map.get other := by
  unfold get delete
  rw [List.find?_filter]
  by_cases same : other = key
  · subst same
    rw [if_pos rfl, Option.map_eq_none_iff, List.find?_eq_none]
    intro entry _ both
    simp at both
  · rw [if_neg same]
    congr 2
    funext entry
    by_cases here : entry.1 = other
    · simp [here, same]
    · simp [here]

theorem mem_keys_set : other ∈ (map.set key value).keys ↔ other = key ∨ other ∈ map.keys := by
  rw [mem_keys_iff, mem_keys_iff]
  by_cases same : other = key
  · simp [same]
  · simp [get_set_of_ne _ _ same, same]

end OrderedMap

end SecureChat.Library
