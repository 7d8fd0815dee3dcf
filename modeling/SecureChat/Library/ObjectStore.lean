import Mathlib.Order.Lattice
import Mathlib.Order.Basic
import Mathlib.Data.List.Basic
import Mathlib.Tactic.Common

namespace SecureChat.Library

variable {Record Key Index : Type*} [LinearOrder Key] [DecidableEq Index]

/-- Records in the order of their keys. No two of them share a value of the unique index. -/
@[ext] structure ObjectStore (key : Record → Key) (index : Record → Option Index) where
  records : List Record
  ordered : records.Pairwise fun first second => key first < key second
  distinct : ∀ first ∈ records, ∀ second ∈ records,
    key first = key second ∨ index first = none ∨ index second ≠ index first

namespace ObjectStore

/-- A record takes the place of the one with its key, or the place that its key asks for. -/
def place (key : Record → Key) (record : Record) : List Record → List Record
  | [] => [record]
  | old :: rest =>
      if key old < key record then old :: place key record rest
      else if key old = key record then record :: rest
      else record :: old :: rest

variable {key : Record → Key} {index : Record → Option Index}

theorem mem_place (record other : Record) (records : List Record)
    (ordered : records.Pairwise fun first second => key first < key second) :
    other ∈ place key record records ↔ other = record ∨ other ∈ records ∧ key other ≠ key record := by
  induction records with
  | nil =>
      rw [place, List.mem_singleton]
      exact (or_iff_left fun member => nomatch member.1).symm
  | cons old rest ih =>
      obtain ⟨least, sorted⟩ := List.pairwise_cons.mp ordered
      unfold place
      split
      · rename_i smaller
        rw [List.mem_cons, ih sorted, List.mem_cons]
        constructor
        · rintro (rfl | rfl | ⟨member, apart⟩)
          · exact .inr ⟨.inl rfl, smaller.ne⟩
          · exact .inl rfl
          · exact .inr ⟨.inr member, apart⟩
        · rintro (rfl | ⟨rfl | member, apart⟩)
          · exact .inr (.inl rfl)
          · exact .inl rfl
          · exact .inr (.inr ⟨member, apart⟩)
      · rename_i larger
        split
        · rename_i same
          rw [List.mem_cons, List.mem_cons]
          refine or_congr_right ⟨fun member => ⟨.inr member, ?_⟩, ?_⟩
          · exact (same ▸ least other member).ne'
          · rintro ⟨rfl | member, apart⟩
            · exact absurd same apart
            · exact member
        · rename_i apart
          have behind : ∀ entry ∈ old :: rest, key record < key entry := by
            have first : key record < key old := lt_of_le_of_ne (not_lt.mp larger) (Ne.symm apart)
            intro entry member
            rcases List.mem_cons.mp member with rfl | later
            · exact first
            · exact first.trans (least entry later)
          rw [List.mem_cons]
          exact or_congr_right ⟨fun member => ⟨member, (behind other member).ne'⟩, And.left⟩

theorem place_ordered (record : Record) (records : List Record)
    (ordered : records.Pairwise fun first second => key first < key second) :
    (place key record records).Pairwise fun first second => key first < key second := by
  induction records with
  | nil => exact List.pairwise_singleton _ _
  | cons old rest ih =>
      obtain ⟨least, sorted⟩ := List.pairwise_cons.mp ordered
      unfold place
      split
      · rename_i smaller
        refine List.pairwise_cons.mpr ⟨fun entry member => ?_, ih sorted⟩
        rcases (mem_place record entry rest sorted).mp member with rfl | ⟨later, -⟩
        · exact smaller
        · exact least entry later
      · rename_i larger
        split
        · rename_i same
          exact List.pairwise_cons.mpr ⟨fun entry member => same ▸ least entry member, sorted⟩
        · rename_i apart
          have first : key record < key old := lt_of_le_of_ne (not_lt.mp larger) (Ne.symm apart)
          refine List.pairwise_cons.mpr ⟨fun entry member => ?_, ordered⟩
          rcases List.mem_cons.mp member with rfl | later
          · exact first
          · exact first.trans (least entry later)

/-- Nothing shows of a record that takes the place of one that looks the same. -/
theorem place_map {Shape : Type*} (shape : Record → Shape) (record old : Record) (records : List Record)
    (ordered : records.Pairwise fun first second => key first < key second) (member : old ∈ records)
    (same : key old = key record) (alike : shape record = shape old) :
    (place key record records).map shape = records.map shape := by
  induction records with
  | nil => exact nomatch member
  | cons first rest ih =>
      obtain ⟨least, sorted⟩ := List.pairwise_cons.mp ordered
      unfold place
      rcases List.mem_cons.mp member with rfl | later
      · rw [if_neg (not_lt.mpr same.ge), if_pos same, List.map_cons, List.map_cons, alike]
      · have smaller : key first < key record := same ▸ least old later
        rw [if_pos smaller, List.map_cons, List.map_cons, ih sorted later]

/-- No other record has the value of the unique index. -/
def Free (store : ObjectStore key index) (record : Record) : Prop :=
  ∀ other ∈ store.records, key other = key record ∨ index record = none ∨ index other ≠ index record

instance (store : ObjectStore key index) (record : Record) : Decidable (store.Free record) :=
  inferInstanceAs (Decidable (∀ _ ∈ _, _))

instance [DecidableEq Record] : DecidableEq (ObjectStore key index) := fun first second =>
  decidable_of_iff (first.records = second.records) ⟨ObjectStore.ext, congrArg ObjectStore.records⟩

def empty : ObjectStore key index := ⟨[], .nil, fun _ member => nomatch member⟩

/-- A value of the unique index that is taken makes an error. -/
def put (store : ObjectStore key index) (record : Record) : Option (ObjectStore key index) :=
  if free : store.Free record then
    some {
      records := place key record store.records
      ordered := place_ordered record store.records store.ordered
      distinct := by
        intro first one second two
        rw [mem_place record _ _ store.ordered] at one two
        rcases one with rfl | ⟨one, apart⟩ <;> rcases two with rfl | ⟨two, away⟩
        · exact .inl rfl
        · exact (free second two).imp_left Eq.symm
        · rcases free first one with same | unset | other
          · exact absurd same apart
          · by_cases without : index first = none
            · exact .inr (.inl without)
            · exact .inr (.inr fun equal => without (equal.symm.trans unset))
          · exact .inr (.inr (Ne.symm other))
        · exact store.distinct first one second two }
  else none

def get (store : ObjectStore key index) (wanted : Key) : Option Record :=
  store.records.find? fun record => key record = wanted

/-- The records that an index selects, in the order of their keys. -/
def getAll (store : ObjectStore key index) (select : Record → Bool) : List Record := store.records.filter select

section Laws

variable (store : ObjectStore key index)

omit [DecidableEq Index] in
/-- A key stands for one record. -/
theorem eq_of_key_eq {first second : Record} (one : first ∈ store.records) (two : second ∈ store.records)
    (same : key first = key second) : first = second := by
  have unique : ∀ records : List Record, (records.Pairwise fun first second => key first < key second) →
      first ∈ records → second ∈ records → first = second := by
    intro records
    induction records with
    | nil => exact fun _ member => nomatch member
    | cons head rest ih =>
        intro ordered inside within
        obtain ⟨least, sorted⟩ := List.pairwise_cons.mp ordered
        rcases List.mem_cons.mp inside with rfl | early <;> rcases List.mem_cons.mp within with rfl | late
        · rfl
        · exact absurd same (least second late).ne
        · exact absurd same (least first early).ne'
        · exact ih sorted early late
  exact unique store.records store.ordered one two

omit [DecidableEq Index] in
theorem get_eq_some_iff (wanted : Key) (record : Record) :
    store.get wanted = some record ↔ record ∈ store.records ∧ key record = wanted := by
  have here : ∀ other, store.get wanted = some other → other ∈ store.records ∧ key other = wanted := by
    intro other found
    have holds := List.find?_some found
    exact ⟨List.mem_of_find?_eq_some found, of_decide_eq_true holds⟩
  refine ⟨here record, ?_⟩
  rintro ⟨member, rfl⟩
  cases found : store.get (key record) with
  | none => exact absurd (decide_eq_true rfl) (List.find?_eq_none.mp found record member)
  | some other =>
      obtain ⟨inside, same⟩ := here other found
      rw [store.eq_of_key_eq inside member same]

omit [DecidableEq Index] in
theorem get_key (wanted : Key) (record : Record) (found : store.get wanted = some record) :
    key record = wanted := ((store.get_eq_some_iff wanted record).mp found).2

variable {store} {next : ObjectStore key index} {record : Record}

theorem put_records (stored : store.put record = some next) : next.records = place key record store.records := by
  unfold put at stored
  split at stored
  · exact congrArg ObjectStore.records (Option.some.inj stored).symm
  · exact nomatch stored

theorem mem_put (stored : store.put record = some next) (other : Record) :
    other ∈ next.records ↔ other = record ∨ other ∈ store.records ∧ key other ≠ key record := by
  rw [put_records stored]
  exact mem_place record other store.records store.ordered

/-- A record is found again under its key, and all others as they were. -/
theorem get_put (stored : store.put record = some next) (wanted : Key) :
    next.get wanted = if wanted = key record then some record else store.get wanted := by
  split
  · rename_i same
    exact (next.get_eq_some_iff wanted record).mpr ⟨(mem_put stored record).mpr (.inl rfl), same.symm⟩
  · rename_i apart
    apply Option.ext
    intro other
    rw [get_eq_some_iff, get_eq_some_iff, mem_put stored]
    constructor
    · rintro ⟨rfl | ⟨member, -⟩, same⟩
      · exact absurd same.symm apart
      · exact ⟨member, same⟩
    · rintro ⟨member, rfl⟩
      exact ⟨.inr ⟨member, apart⟩, rfl⟩

/-- A record with the index value of the one that it takes the place of is never refused. -/
theorem put_again {old : Record} (found : store.get (key record) = some old) (same : index record = index old) :
    ∃ next, store.put record = some next := by
  obtain ⟨member, equal⟩ := (store.get_eq_some_iff _ _).mp found
  have free : store.Free record := by
    intro other inside
    rw [same, ← equal]
    exact (store.distinct old member other inside).imp_left Eq.symm
  exact ⟨_, dif_pos free⟩

theorem put_map {Shape : Type*} (shape : Record → Shape) {old : Record} (stored : store.put record = some next)
    (found : store.get (key record) = some old) (alike : shape record = shape old) :
    next.records.map shape = store.records.map shape := by
  obtain ⟨member, same⟩ := (store.get_eq_some_iff _ _).mp found
  rw [put_records stored, place_map shape record old store.records store.ordered member same alike]

end Laws

end ObjectStore

end SecureChat.Library
