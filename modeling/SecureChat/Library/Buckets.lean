import Mathlib.Data.Finmap
import Mathlib.Data.Finset.Card

namespace SecureChat.Library

variable {Key Value Index : Type*}

section Middle

variable {key : Key} {value : Value} {before after : List (Key × Value)}

/-- A key that differs from all others has one value. -/
theorem mem_middle_self (distinct : ((before ++ (key, value) :: after).map Prod.fst).Nodup) (found : Value) :
    (key, found) ∈ before ++ (key, value) :: after ↔ found = value := by
  rw [List.map_append, List.map_cons, List.nodup_middle, List.nodup_cons, ← List.map_append] at distinct
  have outside : (key, found) ∉ before ++ after := fun member =>
    distinct.1 (List.mem_map.mpr ⟨(key, found), member, rfl⟩)
  rw [List.mem_append, not_or] at outside
  simp [outside]

/-- The entry of one key says nothing about the other keys. -/
theorem mem_middle_other {other : Key} (different : other ≠ key) (found : Value) :
    (other, found) ∈ before ++ (key, value) :: after ↔ (other, found) ∈ before ++ after := by
  simp [different]

end Middle

variable [DecidableEq Key]

theorem keys_insert (map : Finmap fun _ : Key => Value) (key : Key) (value : Value) :
    (map.insert key value).keys = insert key map.keys := by
  ext other
  rw [Finmap.mem_keys, Finmap.mem_insert, Finset.mem_insert, Finmap.mem_keys]

/-- The buckets hold the entries of a finite map, each in the bucket of its key. -/
structure BucketMap (index : Key → Index) (entries : Index → List (Key × Value))
    (map : Finmap fun _ : Key => Value) : Prop where
  placed : ∀ bucket, ∀ key ∈ (entries bucket).map Prod.fst, index key = bucket
  distinct : ∀ bucket, ((entries bucket).map Prod.fst).Nodup
  stored : ∀ key value, (key, value) ∈ entries (index key) ↔ map.lookup key = some value

namespace BucketMap

variable {index : Key → Index} {entries : Index → List (Key × Value)} {map : Finmap fun _ : Key => Value}

theorem empty (index : Key → Index) :
    BucketMap index (fun _ => []) (∅ : Finmap fun _ : Key => Value) where
  placed := by simp
  distinct := by simp
  stored := by simp

/-- A key is present when its bucket holds it. -/
theorem mem_iff (table : BucketMap index entries map) (key : Key) :
    key ∈ (entries (index key)).map Prod.fst ↔ key ∈ map := by
  rw [Finmap.mem_iff, List.mem_map]
  constructor
  · rintro ⟨⟨found, value⟩, member, rfl⟩
    exact ⟨value, (table.stored found value).mp member⟩
  · rintro ⟨value, found⟩
    exact ⟨(key, value), (table.stored key value).mpr found, rfl⟩

/-- No bucket is longer than the map. -/
theorem length_le (table : BucketMap index entries map) (bucket : Index) :
    (entries bucket).length ≤ map.keys.card := by
  have within : ((entries bucket).map Prod.fst).toFinset ⊆ map.keys := by
    intro key member
    rw [List.mem_toFinset] at member
    have placed := table.placed bucket key member
    rw [Finmap.mem_keys, ← table.mem_iff, placed]
    exact member
  have bound := Finset.card_le_card within
  rwa [List.toFinset_card_of_nodup (table.distinct bucket), List.length_map] at bound

variable [DecidableEq Index]

/-- One bucket changes, and the map changes only at the keys of this bucket. -/
theorem replace (table : BucketMap index entries map) (bucket : Index) (list : List (Key × Value))
    (next : Finmap fun _ : Key => Value) (placed : ∀ key ∈ list.map Prod.fst, index key = bucket)
    (distinct : (list.map Prod.fst).Nodup)
    (stored : ∀ key value, index key = bucket → ((key, value) ∈ list ↔ next.lookup key = some value))
    (others : ∀ key, index key ≠ bucket → next.lookup key = map.lookup key) :
    BucketMap index (Function.update entries bucket list) next where
  placed other key member := by
    by_cases same : other = bucket
    · subst same
      rw [Function.update_self] at member
      exact placed key member
    · rw [Function.update_of_ne same] at member
      exact table.placed other key member
  distinct other := by
    by_cases same : other = bucket
    · subst same
      rw [Function.update_self]
      exact distinct
    · rw [Function.update_of_ne same]
      exact table.distinct other
  stored key value := by
    by_cases same : index key = bucket
    · rw [same, Function.update_self]
      exact stored key value same
    · rw [Function.update_of_ne same, others key same]
      exact table.stored key value

/-- The bucket of a key gets an entry for it and keeps its other entries. -/
theorem put (table : BucketMap index entries map) (key : Key) (value : Value)
    (before after : List (Key × Value))
    (placed : ∀ other ∈ (before ++ (key, value) :: after).map Prod.fst, index other = index key)
    (distinct : ((before ++ (key, value) :: after).map Prod.fst).Nodup)
    (kept : ∀ other found, other ≠ key →
      ((other, found) ∈ entries (index key) ↔ (other, found) ∈ before ++ after)) :
    BucketMap index (Function.update entries (index key) (before ++ (key, value) :: after))
      (map.insert key value) := by
  apply table.replace (index key) _ _ placed distinct
  · intro other found same
    by_cases here : other = key
    · subst here
      rw [mem_middle_self distinct, Finmap.lookup_insert, Option.some.injEq, eq_comm]
    · rw [mem_middle_other here, ← kept other found here, Finmap.lookup_insert_of_ne _ here, ← same]
      exact table.stored other found
  · intro other elsewhere
    apply Finmap.lookup_insert_of_ne
    rintro rfl
    exact elsewhere rfl

/-- The entry of a present key gets another value. -/
theorem overwrite (table : BucketMap index entries map) (key : Key) (old value : Value)
    (before after : List (Key × Value)) (split : entries (index key) = before ++ (key, old) :: after) :
    BucketMap index (Function.update entries (index key) (before ++ (key, value) :: after))
      (map.insert key value) := by
  have placed := table.placed (index key)
  have distinct := table.distinct (index key)
  have keys : (before ++ (key, old) :: after).map Prod.fst = (before ++ (key, value) :: after).map Prod.fst := by
    simp
  rw [split, keys] at placed distinct
  apply table.put key value before after placed distinct
  intro other found different
  rw [split, mem_middle_other different]

/-- A new key gets an entry in front of its bucket. -/
theorem push (table : BucketMap index entries map) (key : Key) (value : Value) (absent : key ∉ map) :
    BucketMap index (Function.update entries (index key) ((key, value) :: entries (index key)))
      (map.insert key value) := by
  rw [← table.mem_iff] at absent
  apply table.put key value [] (entries (index key))
  · rw [List.nil_append, List.map_cons]
    exact List.forall_mem_cons.mpr ⟨rfl, table.placed (index key)⟩
  · exact List.nodup_cons.mpr ⟨absent, table.distinct (index key)⟩
  · simp

/-- The entry of a present key is taken out. -/
theorem remove (table : BucketMap index entries map) (key : Key) (old : Value)
    (before after : List (Key × Value)) (split : entries (index key) = before ++ (key, old) :: after) :
    BucketMap index (Function.update entries (index key) (before ++ after)) (map.erase key) := by
  have placed := table.placed (index key)
  have distinct := table.distinct (index key)
  rw [split, List.map_append, List.map_cons] at placed distinct
  rw [List.nodup_middle, List.nodup_cons, ← List.map_append] at distinct
  apply table.replace (index key) _ _ _ distinct.2
  · intro other found same
    by_cases here : other = key
    · subst here
      rw [Finmap.lookup_erase]
      apply iff_of_false _ nofun
      exact fun member => distinct.1 (List.mem_map.mpr ⟨(other, found), member, rfl⟩)
    · rw [Finmap.lookup_erase_ne here, ← table.stored other found, same, split, mem_middle_other here]
  · intro other elsewhere
    apply Finmap.lookup_erase_ne
    rintro rfl
    exact elsewhere rfl
  · intro other member
    apply placed
    rw [List.map_append, List.mem_append] at member
    rw [List.mem_append]
    exact member.imp_right fun later => List.mem_cons_of_mem _ later

end BucketMap

end SecureChat.Library

namespace SecureChat.Library

variable {Key Value : Type*} [DecidableEq Key]

/-- The value of the first entry with the key is replaced, if there is one. -/
def replaceEntry (key : Key) (value : Value) : List (Key × Value) → Option (List (Key × Value))
  | [] => none
  | entry :: rest =>
      if entry.1 = key then some ((entry.1, value) :: rest) else (replaceEntry key value rest).map (entry :: ·)

/-- The first entry with the key is taken out, if there is one. -/
def removeEntry (key : Key) : List (Key × Value) → Option (List (Key × Value))
  | [] => none
  | entry :: rest => if entry.1 = key then some rest else (removeEntry key rest).map (entry :: ·)

/-- The array of a hash table, whose chains are given by their entries in order. -/
structure Buckets (Key Value : Type*) where
  lists : List (List (Key × Value))
  deriving DecidableEq

namespace Buckets

variable (hash : Key → Nat) (buckets : Buckets Key Value)

def empty (size : Nat) : Buckets Key Value := ⟨List.replicate size []⟩

/-- The bucket of a key. -/
def home (key : Key) : Nat := hash key % buckets.lists.length

def bucket (index : Nat) : List (Key × Value) := buckets.lists.getD index []

def lookup (key : Key) : Option Value :=
  ((buckets.bucket (buckets.home hash key)).find? fun entry => entry.1 = key).map Prod.snd

/-- A present key gets the value in its place, and a new key comes in front of its bucket. -/
def insert (key : Key) (value : Value) : Buckets Key Value :=
  let bucket := buckets.bucket (buckets.home hash key)
  ⟨buckets.lists.set (buckets.home hash key) ((replaceEntry key value bucket).getD ((key, value) :: bucket))⟩

/-- The removal of an absent key fails. -/
def remove (key : Key) : Option (Buckets Key Value) :=
  (removeEntry key (buckets.bucket (buckets.home hash key))).map fun bucket =>
    ⟨buckets.lists.set (buckets.home hash key) bucket⟩

/-- A walk over the array and over each of its chains. -/
def entries : List (Key × Value) := buckets.lists.flatten

end Buckets

section Chains

variable (key : Key) (value : Value)

theorem replaceEntry_absent (list : List (Key × Value)) (absent : key ∉ list.map Prod.fst) :
    replaceEntry key value list = none := by
  induction list with
  | nil => rfl
  | cons entry rest ih =>
      rw [List.map_cons, List.mem_cons, not_or] at absent
      rw [replaceEntry, if_neg (Ne.symm absent.1), ih absent.2, Option.map_none]

theorem replaceEntry_middle (old : Value) (before after : List (Key × Value))
    (fresh : key ∉ before.map Prod.fst) :
    replaceEntry key value (before ++ (key, old) :: after) = some (before ++ (key, value) :: after) := by
  induction before with
  | nil => simp [replaceEntry]
  | cons entry before ih =>
      rw [List.map_cons, List.mem_cons, not_or] at fresh
      rw [List.cons_append, replaceEntry, if_neg (Ne.symm fresh.1), ih fresh.2, Option.map_some, List.cons_append]

/-- A key is absent, or the list is cut at its first entry. -/
theorem first_entry (list : List (Key × Value)) :
    key ∉ list.map Prod.fst ∨
      ∃ before old after, list = before ++ (key, old) :: after ∧ key ∉ before.map Prod.fst := by
  induction list with
  | nil => exact Or.inl List.not_mem_nil
  | cons entry rest ih =>
      by_cases here : entry.1 = key
      · exact Or.inr ⟨[], entry.2, rest, by simp [← here], List.not_mem_nil⟩
      · simp only [List.map_cons, List.mem_cons, not_or]
        rcases ih with fresh | ⟨before, old, after, rfl, fresh⟩
        · exact Or.inl ⟨Ne.symm here, fresh⟩
        · refine Or.inr ⟨entry :: before, old, after, rfl, ?_⟩
          simpa using ⟨Ne.symm here, by simpa using fresh⟩

theorem replaceEntry_split (list : List (Key × Value)) :
    (replaceEntry key value list = none ∧ key ∉ list.map Prod.fst) ∨
      ∃ before old after, list = before ++ (key, old) :: after ∧
        replaceEntry key value list = some (before ++ (key, value) :: after) := by
  rcases first_entry key list with absent | ⟨before, old, after, rfl, fresh⟩
  · exact Or.inl ⟨replaceEntry_absent key value list absent, absent⟩
  · exact Or.inr ⟨before, old, after, rfl, replaceEntry_middle key value old before after fresh⟩

theorem removeEntry_split (list : List (Key × Value)) :
    (removeEntry key list = none ∧ key ∉ list.map Prod.fst) ∨
      ∃ before old after, list = before ++ (key, old) :: after ∧
        removeEntry key list = some (before ++ after) := by
  induction list with
  | nil => exact Or.inl ⟨rfl, List.not_mem_nil⟩
  | cons entry rest ih =>
      by_cases here : entry.1 = key
      · exact Or.inr ⟨[], entry.2, rest, by simp [← here], by simp [removeEntry, here]⟩
      · rcases ih with ⟨absent, fresh⟩ | ⟨before, old, after, rfl, removed⟩
        · refine Or.inl ⟨by simp [removeEntry, here, absent], ?_⟩
          rw [List.map_cons, List.mem_cons, not_or]
          exact ⟨Ne.symm here, fresh⟩
        · exact Or.inr ⟨entry :: before, old, after, rfl, by simp [removeEntry, here, removed]⟩

/-- A second replacement overrides the first one. -/
theorem replaceEntry_twice (first second : Value) (list : List (Key × Value)) :
    replaceEntry key second ((replaceEntry key first list).getD ((key, first) :: list)) =
      some ((replaceEntry key second list).getD ((key, second) :: list)) := by
  rcases first_entry key list with absent | ⟨before, old, after, rfl, fresh⟩
  · rw [replaceEntry_absent key first list absent, replaceEntry_absent key second list absent, Option.getD_none,
      Option.getD_none, replaceEntry, if_pos rfl]
  · rw [replaceEntry_middle key first old before after fresh, replaceEntry_middle key second old before after fresh,
      Option.getD_some, Option.getD_some, replaceEntry_middle key second first before after fresh]

end Chains

namespace Buckets

/-- Every bucket holds its own keys only, each once, and the table as a whole is a finite map. -/
structure Holds (hash : Key → Nat) (buckets : Buckets Key Value) (map : Finmap fun _ : Key => Value) :
    Prop where
  size : 0 < buckets.lists.length
  table : BucketMap (buckets.home hash) buckets.bucket map

/-- A table that holds some finite map. -/
def Sound (hash : Key → Nat) (buckets : Buckets Key Value) : Prop := ∃ map, buckets.Holds hash map

variable {hash : Key → Nat} {buckets : Buckets Key Value} {map : Finmap fun _ : Key => Value}

section Places

omit [DecidableEq Key]

theorem home_lt (size : 0 < buckets.lists.length) (key : Key) : buckets.home hash key < buckets.lists.length :=
  Nat.mod_lt _ size

@[simp] theorem home_set (hash : Key → Nat) (index : Nat) (list : List (Key × Value)) :
    (⟨buckets.lists.set index list⟩ : Buckets Key Value).home hash = buckets.home hash := by
  funext key
  simp [home]

theorem bucket_set (index : Nat) (list : List (Key × Value)) (within : index < buckets.lists.length) :
    (⟨buckets.lists.set index list⟩ : Buckets Key Value).bucket = Function.update buckets.bucket index list := by
  funext other
  by_cases same : other = index
  · subst same
    rw [Function.update_self]
    simp [bucket, within]
  · rw [Function.update_of_ne same]
    simp [bucket, List.getElem?_set_ne (Ne.symm same)]

end Places

theorem holds_empty (hash : Key → Nat) (size : Nat) (positive : 0 < size) :
    (empty size : Buckets Key Value).Holds hash ∅ where
  size := by simpa [empty] using positive
  table := by
    have none_stored : (empty size : Buckets Key Value).bucket = fun _ => [] := by
      funext index
      simp only [bucket, empty, List.getD_eq_getElem?_getD, List.getElem?_replicate]
      split <;> rfl
    rw [none_stored]
    exact BucketMap.empty _

theorem lookup_eq (holds : buckets.Holds hash map) (key : Key) : buckets.lookup hash key = map.lookup key := by
  unfold lookup
  cases found : (buckets.bucket (buckets.home hash key)).find? (fun entry => entry.1 = key) with
  | none =>
      have absent : key ∉ map := by
        rw [← holds.table.mem_iff]
        intro member
        obtain ⟨entry, member, same⟩ := List.mem_map.mp member
        exact absurd same (by simpa using List.find?_eq_none.mp found entry member)
      exact (Finmap.lookup_eq_none.mpr absent).symm
  | some entry =>
      have same : entry.1 = key := by simpa using List.find?_some found
      have member := List.mem_of_find?_eq_some found
      rw [← same] at member ⊢
      exact ((holds.table.stored entry.1 entry.2).mp member).symm

theorem holds_insert (holds : buckets.Holds hash map) (key : Key) (value : Value) :
    (buckets.insert hash key value).Holds hash (map.insert key value) where
  size := by simpa [insert] using holds.size
  table := by
    unfold insert
    dsimp only
    rw [bucket_set _ _ (home_lt holds.size key), home_set]
    rcases replaceEntry_split key value (buckets.bucket (buckets.home hash key)) with
      ⟨absent, fresh⟩ | ⟨before, old, after, split, replaced⟩
    · rw [absent, Option.getD_none]
      apply holds.table.push key value
      rwa [← holds.table.mem_iff]
    · rw [replaced, Option.getD_some]
      exact holds.table.overwrite key old value before after split

theorem holds_remove (holds : buckets.Holds hash map) (key : Key) :
    (buckets.remove hash key = none ∧ key ∉ map) ∨
      ∃ next, buckets.remove hash key = some next ∧ next.Holds hash (map.erase key) := by
  unfold remove
  rcases removeEntry_split key (buckets.bucket (buckets.home hash key)) with
    ⟨absent, fresh⟩ | ⟨before, old, after, split, removed⟩
  · rw [absent]
    rw [holds.table.mem_iff] at fresh
    exact Or.inl ⟨rfl, fresh⟩
  · rw [removed]
    refine Or.inr ⟨_, rfl, by simpa using holds.size, ?_⟩
    rw [bucket_set _ _ (home_lt holds.size key), home_set]
    exact holds.table.remove key old before after split

/-- The walk visits exactly the entries that a lookup finds. -/
theorem mem_entries (holds : buckets.Holds hash map) (key : Key) (value : Value) :
    (key, value) ∈ buckets.entries ↔ map.lookup key = some value := by
  rw [← holds.table.stored key value, entries, List.mem_flatten]
  constructor
  · rintro ⟨list, listed, member⟩
    obtain ⟨index, within, rfl⟩ := List.getElem_of_mem listed
    have here : buckets.bucket index = buckets.lists[index] := by simp [bucket, within]
    rw [← here] at member
    rwa [holds.table.placed index key (List.mem_map.mpr ⟨_, member, rfl⟩)]
  · intro member
    have within : buckets.home hash key < buckets.lists.length := home_lt holds.size key
    refine ⟨buckets.lists[buckets.home hash key], List.getElem_mem within, ?_⟩
    simpa [bucket, within] using member

/-- The walk visits each key once. -/
theorem entries_nodup (holds : buckets.Holds hash map) : (buckets.entries.map Prod.fst).Nodup := by
  rw [entries, List.map_flatten, List.nodup_flatten]
  constructor
  · intro keys member
    obtain ⟨list, listed, rfl⟩ := List.mem_map.mp member
    obtain ⟨index, within, rfl⟩ := List.getElem_of_mem listed
    have distinct := holds.table.distinct index
    simpa [bucket, within] using distinct
  · rw [List.pairwise_map, List.pairwise_iff_getElem]
    intro first second left right before key inFirst inSecond
    have placed := fun index (within : index < buckets.lists.length) member =>
      holds.table.placed index key (by simpa [bucket, within] using member)
    have home := (placed first left (by simpa using inFirst)).symm.trans (placed second right (by simpa using inSecond))
    omega

section Sound

theorem sound_empty (hash : Key → Nat) (size : Nat) (positive : 0 < size) :
    (empty size : Buckets Key Value).Sound hash := ⟨∅, holds_empty hash size positive⟩

theorem Sound.insert (sound : buckets.Sound hash) (key : Key) (value : Value) :
    (buckets.insert hash key value).Sound hash := by
  obtain ⟨map, holds⟩ := sound
  exact ⟨_, holds_insert holds key value⟩

theorem Sound.remove (sound : buckets.Sound hash) (key : Key) (next : Buckets Key Value)
    (removed : buckets.remove hash key = some next) : next.Sound hash := by
  obtain ⟨map, holds⟩ := sound
  rcases holds_remove holds key with ⟨absent, -⟩ | ⟨found, same, holds⟩
  · rw [removed] at absent
    exact nomatch absent
  · obtain rfl : next = found := Option.some.inj (removed.symm.trans same)
    exact ⟨_, holds⟩

theorem lookup_empty (hash : Key → Nat) (size : Nat) (positive : 0 < size) (key : Key) :
    (empty size : Buckets Key Value).lookup hash key = none := by
  rw [lookup_eq (holds_empty hash size positive), Finmap.lookup_empty]

/-- An insertion changes what is found under its own key only. -/
theorem Sound.lookup_insert (sound : buckets.Sound hash) (key other : Key) (value : Value) :
    (buckets.insert hash key value).lookup hash other =
      if other = key then some value else buckets.lookup hash other := by
  obtain ⟨map, holds⟩ := sound
  rw [lookup_eq (holds_insert holds key value), lookup_eq holds]
  split
  · rename_i same
    rw [same, Finmap.lookup_insert]
  · rename_i apart
    exact Finmap.lookup_insert_of_ne _ apart

/-- A removal fails for an absent key, and takes away what is found under its own key otherwise. -/
theorem Sound.lookup_remove (sound : buckets.Sound hash) (key : Key) :
    (buckets.remove hash key = none ∧ buckets.lookup hash key = none) ∨
      ∃ next, buckets.remove hash key = some next ∧
        ∀ other, next.lookup hash other = if other = key then none else buckets.lookup hash other := by
  obtain ⟨map, holds⟩ := sound
  rcases holds_remove holds key with ⟨absent, fresh⟩ | ⟨next, removed, after⟩
  · exact Or.inl ⟨absent, by rw [lookup_eq holds, Finmap.lookup_eq_none.mpr fresh]⟩
  · refine Or.inr ⟨next, removed, fun other => ?_⟩
    rw [lookup_eq after, lookup_eq holds]
    split
    · rename_i same
      rw [same, Finmap.lookup_erase]
    · rename_i apart
      exact Finmap.lookup_erase_ne apart

theorem Sound.mem_entries (sound : buckets.Sound hash) (key : Key) (value : Value) :
    (key, value) ∈ buckets.entries ↔ buckets.lookup hash key = some value := by
  obtain ⟨map, holds⟩ := sound
  rw [Buckets.mem_entries holds, lookup_eq holds]

theorem Sound.entries_nodup (sound : buckets.Sound hash) : (buckets.entries.map Prod.fst).Nodup := by
  obtain ⟨map, holds⟩ := sound
  exact Buckets.entries_nodup holds

/-- A second insertion under a key overrides the first one. -/
theorem Sound.insert_insert (sound : buckets.Sound hash) (key : Key) (first second : Value) :
    (buckets.insert hash key first).insert hash key second = buckets.insert hash key second := by
  obtain ⟨map, holds⟩ := sound
  unfold Buckets.insert
  dsimp only
  rw [home_set, bucket_set _ _ (home_lt holds.size key), Function.update_self, replaceEntry_twice,
    Option.getD_some, List.set_set]

/-- Entries with distinct keys are found after their insertion, whatever the order of the walk. -/
theorem Sound.lookup_insertAll (sound : buckets.Sound hash) (list : List (Key × Value))
    (distinct : (list.map Prod.fst).Nodup) :
    (list.foldl (fun table entry => table.insert hash entry.1 entry.2) buckets).Sound hash ∧
      ∀ key, (list.foldl (fun table entry => table.insert hash entry.1 entry.2) buckets).lookup hash key =
        ((list.find? fun entry => entry.1 = key).map Prod.snd).or (buckets.lookup hash key) := by
  induction list generalizing buckets with
  | nil => exact ⟨sound, fun key => rfl⟩
  | cons entry rest ih =>
      rw [List.map_cons, List.nodup_cons] at distinct
      obtain ⟨kept, found⟩ := ih (sound.insert entry.1 entry.2) distinct.2
      refine ⟨kept, fun key => ?_⟩
      rw [List.foldl_cons, found, sound.lookup_insert]
      by_cases same : entry.1 = key
      · have later : rest.find? (fun entry => entry.1 = key) = none := by
          rw [List.find?_eq_none]
          intro other member equal
          apply distinct.1
          rw [same, ← of_decide_eq_true equal]
          exact List.mem_map_of_mem member
        rw [later, List.find?_cons_of_pos (by simpa using same), if_pos same.symm]
        rfl
      · rw [List.find?_cons_of_neg (by simpa using same), if_neg (Ne.symm same)]

/-- The walk as a list finds what the table finds. -/
theorem Sound.find_entries (sound : buckets.Sound hash) (key : Key) :
    (buckets.entries.find? fun entry => entry.1 = key).map Prod.snd = buckets.lookup hash key := by
  cases found : buckets.entries.find? (fun entry => entry.1 = key) with
  | none =>
      cases stored : buckets.lookup hash key with
      | none => rfl
      | some value =>
          have member := (sound.mem_entries key value).mpr stored
          simpa using List.find?_eq_none.mp found _ member
  | some entry =>
      have same : entry.1 = key := by simpa using List.find?_some found
      have member := List.mem_of_find?_eq_some found
      rw [← same]
      exact ((sound.mem_entries entry.1 entry.2).mp member).symm

end Sound

end Buckets

end SecureChat.Library
