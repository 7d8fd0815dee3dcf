import SecureChat.Construction.Utils.HashTable
import SecureChat.Library.Buckets
import SecureChat.Library.ChainTable

namespace SecureChat.Utils
open Library

/-- Two strings compare as equal exactly when they are the same. -/
theorem strcmp_eq_zero (first second : List UInt8) (left : 0 ∉ first) (right : 0 ∉ second) :
    strcmp first second = 0 ↔ first = second := by
  induction first generalizing second with
  | nil =>
      cases second with
      | nil => simp [strcmp]
      | cons char rest =>
          rw [List.mem_cons, not_or] at right
          have positive : char.toNat ≠ 0 := fun zero => right.1 (UInt8.toNat_inj.mp zero).symm
          simp only [strcmp, reduceCtorEq, iff_false]
          omega
  | cons char rest ih =>
      rw [List.mem_cons, not_or] at left
      cases second with
      | nil =>
          have positive : char.toNat ≠ 0 := fun zero => left.1 (UInt8.toNat_inj.mp zero).symm
          simp only [strcmp, reduceCtorEq, iff_false]
          omega
      | cons other others =>
          rw [List.mem_cons, not_or] at right
          by_cases same : char = other
          · simp [strcmp, same, ih others left.2 right.2]
          · have apart : char.toNat ≠ other.toNat := fun equal => same (UInt8.toNat_inj.mp equal)
            simp only [strcmp, same, if_false, List.cons.injEq, false_and, iff_false]
            omega

theorem strcmp_key (first second : CString) : strcmp first.val second.val = 0 ↔ first = second := by
  rw [strcmp_eq_zero _ _ first.property second.property, Subtype.ext_iff]

/-- There is always a bucket. -/
theorem tableSize_pos (size : Nat) : 0 < tableSize size := by
  unfold tableSize
  cases found : primes.find? fun prime => size ≤ prime with
  | none =>
      have large := List.find?_eq_none.mp found 53 (by decide)
      simp only [decide_eq_true_eq] at large
      simp only [Option.getD_none]
      omega
  | some prime =>
      have positive : ∀ prime ∈ primes, 0 < prime := by decide
      exact positive prime (List.mem_of_find?_eq_some found)

/-- A write to one bucket keeps the others. -/
theorem bucket_set (table changed : HashTable) (index : Nat) (pointer : Option Nat)
    (inside : index < table.buckets.length) (written : changed.buckets = table.buckets.set index pointer) :
    changed.bucket = Function.update table.bucket index pointer := by
  funext other
  by_cases same : other = index
  · subst same
    simp [HashTable.bucket, written, inside]
  · simp [HashTable.bucket, written, same, Ne.symm same]

/-- A search ends at the null pointer if the key is absent, and at the first node with the key otherwise. -/
theorem findNode_cases {heap : Heap HashTableNode} {head : Option Nat} {cells : List Nat}
    (chain : Chain heap head cells) (key : CString) (fuel : Nat) (enough : cells.length ≤ fuel)
    (prev : Option Nat) :
    (key ∉ (contents heap cells).map HashTableNode.key ∧ findNode heap key fuel prev head = some none) ∨
      ∃ before address cell after, cells = before ++ address :: after ∧ heap address = some cell ∧
        cell.value.key = key ∧
          findNode heap key fuel prev head = some (some ⟨before.getLast?.or prev, address, cell⟩) := by
  induction chain generalizing fuel prev with
  | nil => exact .inl ⟨by simp [contents], by cases fuel <;> rfl⟩
  | @cons address cell rest stored later ih =>
      obtain _ | fuel := fuel
      · simp at enough
      · by_cases same : cell.value.key = key
        · right
          refine ⟨[], address, cell, rest, rfl, stored, same, ?_⟩
          simp [findNode, stored, strcmp_key, same]
        · have continues : findNode heap key (fuel + 1) prev (some address) =
              findNode heap key fuel (some address) cell.next := by
            simp [findNode, stored, strcmp_key, same]
          rw [continues]
          rcases ih fuel (by simpa using enough) (some address) with ⟨absent, ended⟩ | found
          · left
            rw [contents_cons _ _ _ _ stored, List.map_cons, List.mem_cons, not_or]
            exact ⟨⟨Ne.symm same, absent⟩, ended⟩
          · right
            obtain ⟨before, target, held, after, split, kept, equal, result⟩ := found
            refine ⟨address :: before, target, held, after, by rw [split]; rfl, kept, equal, ?_⟩
            rw [result, List.getLast?_cons]
            cases before.getLast? <;> rfl

/-- A value is a pointer, and a key that is present may have the null pointer as its value. -/
abbrev ValueMap := Finmap fun _ : CString => Option Nat

def HashTableNode.entry (node : HashTableNode) : CString × Option Nat := (node.key, node.value)

/-- The keys and values of a bucket, in the order of its nodes. -/
def entries (heap : Heap HashTableNode) (cells : Nat → List Nat) (index : Nat) :
    List (CString × Option Nat) :=
  (contents heap (cells index)).map HashTableNode.entry

/-- The buckets are disjoint chains whose nodes are the entries of the map. -/
structure Represents (table : HashTable) (cells : Nat → List Nat) (map : ValueMap) : Prop where
  chains : ChainTable table.heap table.bucket cells
  sized : table.buckets.length = table.size
  positive : 0 < table.size
  stored : BucketMap table.index (entries table.heap cells) map
  counted : table.count = map.keys.card

theorem entries_keys (heap : Heap HashTableNode) (cells : Nat → List Nat) (index : Nat) :
    (entries heap cells index).map Prod.fst = (contents heap (cells index)).map HashTableNode.key := by
  simp [entries, HashTableNode.entry]

/-- One bucket changes and the others keep their contents. -/
theorem entries_replace (heap next : Heap HashTableNode) (cells : Nat → List Nat) (index : Nat)
    (list : List Nat)
    (kept : ∀ other, other ≠ index → contents next (cells other) = contents heap (cells other)) :
    entries next (Function.update cells index list) =
      Function.update (entries heap cells) index ((contents next list).map HashTableNode.entry) := by
  funext other
  by_cases same : other = index
  · subst same
    simp [entries]
  · simp [entries, same, kept other same]

/-- The bucket of a key is split at the node of the key. -/
structure NodeAt (table : HashTable) (cells : Nat → List Nat) (key : CString) (before : List Nat)
    (address : Nat) (cell : Cell HashTableNode) (after : List Nat) : Prop where
  split : cells (table.index key) = before ++ address :: after
  stored : table.heap address = some cell
  same : cell.value.key = key

namespace Represents

variable {table : HashTable} {cells : Nat → List Nat} {map : ValueMap} {key : CString}
  {before after : List Nat} {address : Nat} {cell : Cell HashTableNode}

/-- A key has a bucket. -/
theorem inside (represents : Represents table cells map) (key : CString) :
    table.index key < table.buckets.length := by
  rw [represents.sized]
  exact Nat.mod_lt _ represents.positive

/-- A search finds a key exactly when the map has it. -/
theorem search (represents : Represents table cells map) (key : CString) :
    (key ∉ map ∧ table.search key = some none) ∨
      ∃ before address cell after, NodeAt table cells key before address cell after ∧
        table.search key = some (some ⟨before.getLast?, address, cell⟩) := by
  have chain := represents.chains.chain (table.index key)
  have enough : (cells (table.index key)).length ≤ table.count := by
    rw [← chain.contents_length, ← List.length_map HashTableNode.entry, represents.counted]
    exact represents.stored.length_le (table.index key)
  rcases findNode_cases chain key table.count enough none with ⟨absent, ended⟩ | found
  · left
    rw [← represents.stored.mem_iff, entries_keys]
    exact ⟨absent, ended⟩
  · right
    obtain ⟨before, address, cell, after, split, stored, same, result⟩ := found
    rw [Option.or_none] at result
    exact ⟨before, address, cell, after, ⟨split, stored, same⟩, result⟩

/-- The bucket of a found key is split at its entry. -/
theorem entries_split (node : NodeAt table cells key before address cell after) :
    entries table.heap cells (table.index key) =
      (contents table.heap before).map HashTableNode.entry ++
        (key, cell.value.value) :: (contents table.heap after).map HashTableNode.entry := by
  rw [entries, node.split, contents_append, contents_cons _ _ _ _ node.stored, List.map_append,
    List.map_cons, ← node.same]
  rfl

/-- A key that the search finds is in the map with the value of its node. -/
theorem lookup (represents : Represents table cells map)
    (node : NodeAt table cells key before address cell after) :
    map.lookup key = some cell.value.value := by
  rw [← represents.stored.stored, entries_split node]
  simp

theorem mem_map (represents : Represents table cells map)
    (node : NodeAt table cells key before address cell after) : key ∈ map :=
  Finmap.mem_of_lookup_eq_some (represents.lookup node)

theorem mem_cells (node : NodeAt table cells key before address cell after) :
    address ∈ cells (table.index key) := by
  simp [node.split]

/-- The value of a present key changes in its node. -/
theorem overwrite (represents : Represents table cells map)
    (node : NodeAt table cells key before address cell after) (value : Option Nat) :
    Represents { table with
        heap := Function.update table.heap address
          (some { cell with value := { cell.value with value := value } }) }
      cells (map.insert key value) := by
  have distinct := represents.chains.distinct (table.index key)
  rw [node.split] at distinct
  have changed := entries_replace table.heap
    (Function.update table.heap address (some { cell with value := { cell.value with value := value } }))
    cells (table.index key) (cells (table.index key)) fun other different =>
      contents_update _ _ _ _ (represents.chains.elsewhere different (mem_cells node))
  rw [Function.update_eq_self, node.split, contents_setValue _ _ _ _ _ distinct, List.map_append,
    List.map_cons] at changed
  apply Represents.mk
  · exact represents.chains.setValue address cell node.stored _
  · exact represents.sized
  · exact represents.positive
  · rw [changed]
    obtain rfl := node.same
    exact represents.stored.overwrite _ cell.value.value value _ _ (entries_split node)
  · rw [keys_insert, Finset.insert_eq_of_mem (Finmap.mem_keys.mpr (represents.mem_map node))]
    exact represents.counted

/-- A new node in front of its bucket holds a new key. -/
theorem push (represents : Represents table cells map) (key : CString) (value : Option Nat) (address : Nat)
    (absent : key ∉ map) (dead : table.heap address = none) :
    Represents { table with
        heap := Function.update table.heap address (some ⟨⟨key, value⟩, table.bucket (table.index key)⟩)
        buckets := table.buckets.set (table.index key) (some address)
        count := table.count + 1 }
      (Function.update cells (table.index key) (address :: cells (table.index key))) (map.insert key value) := by
  have outside := represents.chains.outside address dead
  have changed := entries_replace table.heap
    (Function.update table.heap address (some ⟨⟨key, value⟩, table.bucket (table.index key)⟩))
    cells (table.index key) (address :: cells (table.index key)) fun other _ =>
      contents_update _ _ _ _ (outside other)
  rw [contents_cons _ _ _ _ (Function.update_self _ _ _), contents_update _ _ _ _ (outside _),
    List.map_cons] at changed
  apply Represents.mk
  · convert represents.chains.push (table.index key) address _ outside using 1
    exact bucket_set table _ (table.index key) (some address) (represents.inside key) rfl
  · simpa using represents.sized
  · exact represents.positive
  · rw [changed]
    exact represents.stored.push key value absent
  · rw [keys_insert, Finset.card_insert_of_notMem (by rwa [Finmap.mem_keys]), ← represents.counted]

/-- A table whose bucket has lost the node of a key has lost the key. -/
theorem take (represents : Represents table cells map)
    (node : NodeAt table cells key before address cell after) (next : HashTable)
    (chains : ChainTable next.heap next.bucket (Function.update cells (table.index key) (before ++ after)))
    (kept : ∀ list, address ∉ list → contents next.heap list = contents table.heap list)
    (sized : next.buckets.length = next.size) (size : next.size = table.size)
    (hashed : next.hashFunction = table.hashFunction) (count : next.count = table.count - 1) :
    Represents next (Function.update cells (table.index key) (before ++ after)) (map.erase key) := by
  have distinct := represents.chains.distinct (table.index key)
  rw [node.split, List.nodup_middle, List.nodup_cons] at distinct
  have index : next.index = table.index := by
    funext other
    simp [HashTable.index, size, hashed]
  have changed := entries_replace table.heap next.heap cells (table.index key) (before ++ after)
    fun other different => kept _ (represents.chains.elsewhere different (mem_cells node))
  rw [kept _ distinct.1, contents_append, List.map_append] at changed
  apply Represents.mk chains sized (size ▸ represents.positive)
  · rw [index, changed]
    exact represents.stored.remove key cell.value.value _ _ (entries_split node)
  · rw [Finmap.keys_erase, Finset.card_erase_of_mem (Finmap.mem_keys.mpr (represents.mem_map node)),
      ← represents.counted]
    exact count

/-- The node of a present key is unlinked and freed. -/
theorem remove (represents : Represents table cells map)
    (node : NodeAt table cells key before address cell after) :
    ∃ unlinked, unlinkNode table (table.index key) ⟨before.getLast?, address, cell⟩ = some unlinked ∧
      Represents { unlinked with
          heap := Function.update unlinked.heap address none
          count := unlinked.count - 1 }
        (Function.update cells (table.index key) (before ++ after)) (map.erase key) := by
  rcases List.eq_nil_or_concat' before with rfl | ⟨front, prev, rfl⟩
  · refine ⟨_, rfl, ?_⟩
    apply represents.take node
    · rw [List.nil_append]
      convert represents.chains.removeHead (table.index key) address cell after node.split node.stored using 1
      exact bucket_set table _ (table.index key) cell.next (represents.inside key) rfl
    · exact fun list outside => contents_update _ _ _ _ outside
    · simpa using represents.sized
    · rfl
    · rfl
    · rfl
  · have split := node.split
    rw [List.append_assoc] at split
    obtain ⟨held, live⟩ := (represents.chains.chain (table.index key)).live prev (by simp [split])
    refine ⟨{ table with heap := Function.update table.heap prev (some { held with next := cell.next }) },
      ?_, ?_⟩
    · simp [unlinkNode, live]
    · apply represents.take node
      · rw [List.append_assoc]
        exact represents.chains.removeBehind (table.index key) prev address held cell front after split
          live node.stored
      · intro list outside
        rw [contents_update _ _ _ _ outside, contents_link _ _ _ _ _ live]
      · exact represents.sized
      · rfl
      · rfl
      · rfl

end Represents

/-- The map that the callers of the table have in mind. -/
def mapMachine : Machine ValueMap HashOperation HashResult where
  step map operation :=
    match operation with
    | .insert none _ _ => (map, [.inserted (-1)])
    | .insert (some key) value _ => (map.insert key value, [.inserted 0])
    | .lookup none => (map, [.found none])
    | .lookup (some key) => (map, [.found (map.lookup key).join])
    | .remove none => (map, [.removed (-1)])
    | .remove (some key) => if key ∈ map then (map.erase key, [.removed 0]) else (map, [.removed (-1)])
    | .count => (map, [.counted map.keys.card])

/-- The calls of the free function are not results. -/
def HashOutput.result : HashOutput → Option HashResult
  | .freed _ => none
  | .returned result => some result

/-- The allocator serves an insert that needs a new node. -/
def AllocationSucceeds (allocator : Allocator HashTableNode) : Option HashTable → HashOperation → Prop
  | some table, .insert (some key) _ seed =>
      table.search key = some none → (allocator.malloc seed table.heap).isSome
  | _, _ => True

/-- An insert of the key gives it a value, and a remove of the key takes it. -/
def nextValue (key : CString) (last : Option (Option Nat)) : HashOperation → Option (Option Nat)
  | .insert (some other) value _ => if other = key then some value else last
  | .remove (some other) => if other = key then none else last
  | _ => last

/-- The value of the last insert of a key, unless a later remove has undone it. -/
def lastInsert (key : CString) (operations : List HashOperation) : Option (Option Nat) :=
  operations.foldl (nextValue key) none

/-- Each node is in the bucket of its key. -/
def NodesPlaced (table : HashTable) : Prop :=
  ∀ index address cell, Reaches table.heap (table.bucket index) address →
    table.heap address = some cell → table.index cell.value.key = index

/-- No two nodes have the same key. -/
def KeysUnique (table : HashTable) : Prop :=
  ∀ first second address other cell held, Reaches table.heap (table.bucket first) address →
    Reaches table.heap (table.bucket second) other → table.heap address = some cell →
      table.heap other = some held → cell.value.key = held.value.key → address = other

/-- The table has not used a dangling pointer and represents the map. -/
def Related (state : Option HashTable) (map : ValueMap) : Prop :=
  ∃ table cells, state = some table ∧ Represents table cells map

@[simp] theorem freeValue_result (table : HashTable) (value : Option Nat) :
    (freeValue table value).filterMap HashOutput.result = [] := by
  unfold freeValue
  split
  · cases value <;> rfl
  · rfl

theorem hashTableCreate_represents (size : Nat) (hashFunction : Option (CString → Nat))
    (valueFreeFunction : Bool) :
    Represents (hashTableCreate size hashFunction valueFreeFunction) (fun _ => []) ∅ where
  chains :=
    { chain := by
        intro index
        have null : (hashTableCreate size hashFunction valueFreeFunction).bucket index = none := by
          by_cases inside : index < tableSize size
          · simp [HashTable.bucket, hashTableCreate, inside]
          · simp [HashTable.bucket, hashTableCreate, Nat.le_of_not_lt inside]
        rw [null]
        exact .nil
      distinct := fun _ => List.nodup_nil
      disjoint := fun _ _ _ => List.disjoint_nil_left _ }
  sized := List.length_replicate
  positive := tableSize_pos size
  stored := BucketMap.empty _
  counted := rfl

section Steps

variable {allocator : Allocator HashTableNode} {table : HashTable} {cells : Nat → List Nat} {map : ValueMap}

theorem hashTableInsert_related (represents : Represents table cells map) (key : CString)
    (value : Option Nat) (seed : Nat)
    (served : table.search key = some none → (allocator.malloc seed table.heap).isSome) :
    Related (hashTableInsert allocator table (some key) value seed).1 (map.insert key value) ∧
      (hashTableInsert allocator table (some key) value seed).2.filterMap HashOutput.result =
        [.inserted 0] := by
  rcases represents.search key with ⟨absent, ended⟩ | ⟨before, address, cell, after, node, found⟩
  · obtain ⟨address, given⟩ := Option.isSome_iff_exists.mp (served ended)
    have added := represents.push key value address absent (allocator.fresh seed table.heap address given)
    simp only [hashTableInsert, ended, given]
    exact ⟨⟨_, _, rfl, added⟩, rfl⟩
  · have changed := represents.overwrite node value
    simp only [hashTableInsert, found, List.filterMap_append, freeValue_result]
    exact ⟨⟨_, _, rfl, changed⟩, rfl⟩

theorem hashTableLookup_related (represents : Represents table cells map) (key : CString) :
    Related (hashTableLookup table (some key)).1 map ∧
      (hashTableLookup table (some key)).2.filterMap HashOutput.result = [.found (map.lookup key).join] := by
  rcases represents.search key with ⟨absent, ended⟩ | ⟨before, address, cell, after, node, found⟩
  · simp only [hashTableLookup, ended, Finmap.lookup_eq_none.mpr absent]
    exact ⟨⟨_, _, rfl, represents⟩, rfl⟩
  · simp only [hashTableLookup, found, represents.lookup node]
    exact ⟨⟨_, _, rfl, represents⟩, rfl⟩

theorem hashTableRemove_related (represents : Represents table cells map) (key : CString) :
    Related (hashTableRemove table (some key)).1 (mapMachine.step map (.remove (some key))).1 ∧
      (hashTableRemove table (some key)).2.filterMap HashOutput.result =
        (mapMachine.step map (.remove (some key))).2 := by
  rcases represents.search key with ⟨absent, ended⟩ | ⟨before, address, cell, after, node, found⟩
  · simp only [hashTableRemove, ended, mapMachine, absent, if_false]
    exact ⟨⟨_, _, rfl, represents⟩, rfl⟩
  · obtain ⟨unlinked, linked, removed⟩ := represents.remove node
    simp only [hashTableRemove, found, linked, mapMachine, represents.mem_map node, if_true,
      List.filterMap_append, freeValue_result]
    exact ⟨⟨_, _, rfl, removed⟩, rfl⟩

end Steps

/-- Each operation that gets its memory does to the table what it does to the map. -/
theorem hashMachine_step (allocator : Allocator HashTableNode) (state : Option HashTable) (map : ValueMap)
    (operation : HashOperation) (related : Related state map)
    (served : AllocationSucceeds allocator state operation) :
    Related ((hashMachine allocator).step state operation).1 (mapMachine.step map operation).1 ∧
      ((hashMachine allocator).step state operation).2.filterMap HashOutput.result =
        (mapMachine.step map operation).2 := by
  obtain ⟨table, cells, rfl, represents⟩ := related
  have unchanged : Related (some table) map := ⟨table, cells, rfl, represents⟩
  cases operation with
  | insert key value seed =>
      cases key with
      | none => exact ⟨unchanged, rfl⟩
      | some key => exact hashTableInsert_related represents key value seed served
  | lookup key =>
      cases key with
      | none => exact ⟨unchanged, rfl⟩
      | some key => exact hashTableLookup_related represents key
  | remove key =>
      cases key with
      | none => exact ⟨unchanged, rfl⟩
      | some key => exact hashTableRemove_related represents key
  | count =>
      refine ⟨unchanged, ?_⟩
      simp [hashMachine, mapMachine, HashOutput.result, represents.counted]

namespace Represents

variable {table : HashTable} {cells : Nat → List Nat} {map : ValueMap}

/-- A node that a bucket reaches is one of its entries. -/
theorem mem_contents (represents : Represents table cells map) (index address : Nat)
    (cell : Cell HashTableNode) (reaches : Reaches table.heap (table.bucket index) address)
    (stored : table.heap address = some cell) :
    address ∈ cells index ∧ cell.value ∈ contents table.heap (cells index) := by
  have member := ((represents.chains.chain index).mem_iff_reaches address).mpr reaches
  exact ⟨member, List.mem_filterMap.mpr ⟨address, member, by rw [stored]; rfl⟩⟩

theorem nodesPlaced (represents : Represents table cells map) : NodesPlaced table := by
  intro index address cell reaches stored
  apply represents.stored.placed index
  rw [entries_keys]
  exact List.mem_map_of_mem (represents.mem_contents index address cell reaches stored).2

theorem keysUnique (represents : Represents table cells map) : KeysUnique table := by
  intro first second address other cell held reaches meets stored kept same
  have here := represents.nodesPlaced first address cell reaches stored
  have there := represents.nodesPlaced second other held meets kept
  rw [← here, same, there] at reaches
  obtain ⟨member, -⟩ := represents.mem_contents second address cell reaches stored
  obtain ⟨inside, -⟩ := represents.mem_contents second other held meets kept
  have distinct := represents.stored.distinct second
  obtain ⟨before, after, split⟩ := List.append_of_mem member
  rw [entries_keys, split, contents_append, contents_cons _ _ _ _ stored, List.map_append, List.map_cons,
    List.nodup_middle, List.nodup_cons, ← List.map_append, ← contents_append] at distinct
  by_contra different
  apply distinct.1
  have rest : other ∈ before ++ after := by
    rw [split] at inside
    simpa [Ne.symm different] using inside
  rw [same]
  exact List.mem_map_of_mem (List.mem_filterMap.mpr ⟨other, rest, by rw [kept]; rfl⟩)

end Represents

theorem mapMachine_step_lookup (map : ValueMap) (operation : HashOperation) (key : CString) :
    (mapMachine.step map operation).1.lookup key = nextValue key (map.lookup key) operation := by
  cases operation with
  | insert target value seed =>
      cases target with
      | none => rfl
      | some target =>
          by_cases same : target = key
          · subst same
            simp [mapMachine, nextValue]
          · simp [mapMachine, nextValue, same, Finmap.lookup_insert_of_ne _ (Ne.symm same)]
  | lookup target => cases target <;> rfl
  | remove target =>
      cases target with
      | none => rfl
      | some target =>
          by_cases same : target = key
          · subst same
            by_cases present : target ∈ map
            · simp [mapMachine, nextValue, present]
            · simp [mapMachine, nextValue, present, Finmap.lookup_eq_none.mpr present]
          · by_cases present : target ∈ map
            · simp [mapMachine, nextValue, same, present, Finmap.lookup_erase_ne (Ne.symm same)]
            · simp [mapMachine, nextValue, same, present]
  | count => rfl

/-- The map holds for each key the last value that was not removed. -/
theorem mapMachine_run_lookup (map : ValueMap) (operations : List HashOperation) (key : CString) :
    (mapMachine.run map operations).1.lookup key = operations.foldl (nextValue key) (map.lookup key) := by
  induction operations generalizing map with
  | nil => rfl
  | cons operation rest ih => rw [Machine.run_cons, ih, mapMachine_step_lookup, List.foldl_cons]

/-- The table is a finite map for every hash function, size and sequence of operations,
as long as the allocator serves the inserts. -/
theorem hashTable_refines_map (allocator : Allocator HashTableNode) (size : Nat)
    (hashFunction : Option (CString → Nat)) (valueFreeFunction : Bool) (operations : List HashOperation)
    (served : (hashMachine allocator).Along (AllocationSucceeds allocator)
      (some (hashTableCreate size hashFunction valueFreeFunction)) operations) :
    (hashMachine allocator).Agree mapMachine HashOutput.result
        (some (hashTableCreate size hashFunction valueFreeFunction)) ∅ operations ∧
      (∀ key, (mapMachine.run ∅ operations).1.lookup key = lastInsert key operations) ∧
      ∀ visited ∈ (hashMachine allocator).states
          (some (hashTableCreate size hashFunction valueFreeFunction)) operations,
        ∃ table, visited = some table ∧ KeysUnique table ∧ NodesPlaced table := by
  have created : Related (some (hashTableCreate size hashFunction valueFreeFunction)) ∅ :=
    ⟨_, _, rfl, hashTableCreate_represents size hashFunction valueFreeFunction⟩
  refine ⟨?_, ?_, ?_⟩
  · exact Machine.agree_of_along _ _ _ Related (AllocationSucceeds allocator) (hashMachine_step allocator)
      _ _ operations created served
  · exact fun key => mapMachine_run_lookup ∅ operations key
  · intro visited member
    have invariant := Machine.states_invariant (hashMachine allocator) (AllocationSucceeds allocator)
      (fun state => ∃ map, Related state map) (by
        rintro state operation ⟨map, related⟩ allowed
        exact ⟨_, (hashMachine_step allocator state map operation related allowed).1⟩)
      _ operations ⟨∅, created⟩ served visited member
    obtain ⟨map, table, cells, rfl, represents⟩ := invariant
    exact ⟨table, rfl, represents.keysUnique, represents.nodesPlaced⟩

/-- Two colliding keys, an update, and a remove behind the head of the bucket. -/
def sampleOperations : List HashOperation :=
  [.insert (some ⟨[97], by decide⟩) (some 1) 0, .insert (some ⟨[98], by decide⟩) (some 2) 1,
    .insert (some ⟨[97], by decide⟩) (some 3) 2, .remove (some ⟨[97], by decide⟩),
    .lookup (some ⟨[98], by decide⟩)]

theorem hashTable_refines_map_sample :
    (hashMachine (.atSeed HashTableNode)).Along (AllocationSucceeds (.atSeed HashTableNode))
        (some (hashTableCreate 1 (some fun _ => 7) true)) sampleOperations ∧
      (hashMachine (.atSeed HashTableNode)).Agree mapMachine HashOutput.result
        (some (hashTableCreate 1 (some fun _ => 7) true)) ∅ sampleOperations := by
  have served : (hashMachine (.atSeed HashTableNode)).Along (AllocationSucceeds (.atSeed HashTableNode))
      (some (hashTableCreate 1 (some fun _ => 7) true)) sampleOperations := by
    exact ⟨fun _ => rfl, fun _ => rfl, fun _ => rfl, trivial, trivial, trivial⟩
  exact ⟨served,
    (hashTable_refines_map (.atSeed HashTableNode) 1 (some fun _ => 7) true sampleOperations served).1⟩

end SecureChat.Utils
