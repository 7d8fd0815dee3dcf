import SecureChat.Construction.Utils.LinkedList

namespace SecureChat.Utils
open Library

/-- The nodes spell the sequence in both directions. -/
structure Spells (compare : Option (Option Nat → Option Nat → Int)) (list : LinkedList) (cells : List Nat)
    (sequence : List (Option Nat)) : Prop where
  linked : Segment list.heap none cells none
  distinct : cells.Nodup
  head : list.head = cells.head?
  tail : list.tail = cells.getLast?
  data : dataAt list.heap cells = sequence
  sized : list.size = sequence.length
  compares : list.dataCompareFunction = compare

/-- A call returns the result and leaves a list that spells the sequence. -/
def Yields (compare : Option (Option Nat → Option Nat → Int)) (call : Option ListReturn)
    (sequence : List (Option Nat)) (result : ListResult) : Prop :=
  ∃ returned cells, call = some returned ∧ returned.result = result ∧
    Spells compare returned.list cells sequence

theorem setNext_live (heap : Heap ListNode) (address : Nat) (next : Option Nat)
    (live : ∃ cell, heap address = some cell) :
    setNext heap address next = some (relinkNext heap (some address) next) := by
  obtain ⟨cell, stored⟩ := live
  simp [setNext, relinkNext, relink, stored]

theorem setPrev_live (heap : Heap ListNode) (address : Nat) (prev : Option Nat)
    (live : ∃ cell, heap address = some cell) :
    setPrev heap address prev = some (relinkPrev heap (some address) prev) := by
  obtain ⟨cell, stored⟩ := live
  simp [setPrev, relinkPrev, relink, stored]

/-- The loop stops at the cell with the given number. -/
theorem follow_segment {heap : Heap ListNode} {prev : Option Nat} {cells : List Nat}
    (segment : Segment heap prev cells none) (count : Nat) (within : count ≤ cells.length) :
    follow heap count cells.head? = some (cells.drop count).head? := by
  induction count generalizing prev cells with
  | zero => rfl
  | succ count ih =>
      cases segment with
      | nil => simp at within
      | @cons _ _ address rest data stored later =>
          rw [Option.or_none] at stored
          rw [List.length_cons, Nat.add_le_add_iff_right] at within
          simp [follow, stored, ih later within]

/-- A live cell stays live when another cell is written. -/
theorem live_update (heap : Heap ListNode) (node address : Nat) (written : Cell ListNode)
    (live : ∃ cell, heap address = some cell) :
    ∃ cell, Function.update heap node (some written) address = some cell := by
  by_cases same : address = node
  · subst same
    exact ⟨written, Function.update_self _ _ _⟩
  · rw [Function.update_of_ne same]
    exact live

namespace Spells

variable {compare : Option (Option Nat → Option Nat → Int)} {list : LinkedList} {cells : List Nat}
  {sequence : List (Option Nat)}

theorem length (spells : Spells compare list cells sequence) : cells.length = sequence.length := by
  rw [← spells.data, spells.linked.dataAt_length]

/-- A new node between two parts of the list adds its data between their data. -/
theorem inserted {front back : List Nat} (spells : Spells compare list (front ++ back) sequence)
    (node : Nat) (dead : list.heap node = none) (data : Option Nat) (next : LinkedList)
    (heap : next.heap = relinkNext
      (relinkPrev (Function.update list.heap node (some ⟨⟨data, front.getLast?⟩, back.head?⟩)) back.head?
        (some node))
      front.getLast? (some node))
    (head : next.head = (front ++ node :: back).head?)
    (tail : next.tail = (front ++ node :: back).getLast?) (size : next.size = list.size + 1)
    (compares : next.dataCompareFunction = list.dataCompareFunction) :
    Spells compare next (front ++ node :: back)
      (dataAt list.heap front ++ data :: dataAt list.heap back) := by
  have outside := spells.linked.outside node dead
  have apart := outside
  rw [List.mem_append, not_or] at apart
  have added : dataAt next.heap (front ++ node :: back) =
      dataAt list.heap front ++ data :: dataAt list.heap back := by
    rw [heap, dataAt_relinkNext, dataAt_relinkPrev, dataAt_append, dataAt_update _ _ _ _ apart.1,
      dataAt_cons _ _ _ _ (Function.update_self _ _ _), dataAt_update _ _ _ _ apart.2]
  apply Spells.mk _ _ head tail added
  · rw [size, spells.sized, ← spells.data, dataAt_append, List.length_append, List.length_append,
      List.length_cons, Nat.add_assoc]
  · rw [compares, spells.compares]
  · rw [heap]
    exact spells.linked.insert spells.distinct node outside data
  · rw [List.nodup_middle, List.nodup_cons]
    exact ⟨outside, spells.distinct⟩

/-- A node that is unlinked and freed takes its data with it. -/
theorem removed {front back : List Nat} {current : Nat}
    (spells : Spells compare list (front ++ current :: back) sequence) (next : LinkedList)
    (heap : next.heap = Function.update
      (relinkPrev (relinkNext list.heap front.getLast? back.head?) back.head? front.getLast?) current none)
    (head : next.head = (front ++ back).head?) (tail : next.tail = (front ++ back).getLast?)
    (size : next.size = list.size - 1)
    (compares : next.dataCompareFunction = list.dataCompareFunction) :
    Spells compare next (front ++ back) (dataAt list.heap front ++ dataAt list.heap back) := by
  have distinct := spells.distinct
  rw [List.nodup_middle, List.nodup_cons] at distinct
  obtain ⟨data, stored⟩ := spells.linked.neighbours
  have lost : dataAt next.heap (front ++ back) = dataAt list.heap front ++ dataAt list.heap back := by
    rw [heap, dataAt_update _ _ _ _ distinct.1, dataAt_relinkPrev, dataAt_relinkNext, dataAt_append]
  apply Spells.mk _ distinct.2 head tail lost
  · rw [size, spells.sized, ← spells.data, dataAt_append, dataAt_cons _ _ _ _ stored, List.length_append,
      List.length_append, List.length_cons, ← Nat.add_assoc, Nat.add_sub_cancel]
  · rw [compares, spells.compares]
  · rw [heap]
    exact spells.linked.remove spells.distinct

/-- The list is split at a node that the loop reaches. -/
theorem reach (spells : Spells compare list cells sequence) (index : Nat) (inside : index < sequence.length) :
    ∃ front current back data, cells = front ++ current :: back ∧ front.length = index ∧
      follow list.heap index list.head = some (some current) ∧
      list.heap current = some ⟨⟨data, front.getLast?⟩, back.head?⟩ ∧
      sequence = dataAt list.heap front ++ data :: dataAt list.heap back ∧
      (dataAt list.heap front).length = index := by
  rw [← spells.length] at inside
  have split : cells = cells.take index ++ cells[index] :: cells.drop (index + 1) := by
    rw [List.getElem_cons_drop, List.take_append_drop]
  have measured : (cells.take index).length = index := List.length_take_of_le (Nat.le_of_lt inside)
  have linked := spells.linked
  rw [split] at linked
  obtain ⟨data, stored⟩ := linked.neighbours
  have reached := follow_segment spells.linked index (Nat.le_of_lt inside)
  have joined := spells.data
  rw [split, dataAt_append, dataAt_cons _ _ _ _ stored] at joined
  refine ⟨cells.take index, cells[index], cells.drop (index + 1), data, split, measured, ?_, stored,
    joined.symm, ?_⟩
  · rw [spells.head, reached, List.head?_drop, List.getElem?_eq_getElem inside]
  · rw [linked.left.dataAt_length, measured]

end Spells

section Steps

variable {compare : Option (Option Nat → Option Nat → Int)} {list : LinkedList} {cells : List Nat}
  {sequence : List (Option Nat)} {allocator : Allocator ListNode}

theorem listAppend_yields (spells : Spells compare list cells sequence) (data : Option Nat) (seed : Nat)
    (served : (allocator.malloc seed list.heap).isSome) :
    Yields compare (listAppend allocator list data seed) (sequence ++ [data]) (.status 0) := by
  obtain ⟨node, given⟩ := Option.isSome_iff_exists.mp served
  have dead := allocator.fresh seed list.heap node given
  have whole : Spells compare list (cells ++ []) sequence := by rwa [List.append_nil]
  have added := whole.inserted node dead data
  rw [spells.data] at added
  unfold listAppend
  cases cells with
  | nil =>
      have empty : list.tail = none := spells.tail
      simp only [given, empty]
      refine ⟨_, _, rfl, rfl, added _ ?_ ?_ ?_ rfl rfl⟩ <;> simp
  | cons first rest =>
      obtain ⟨last, ends⟩ : ∃ last, (first :: rest).getLast? = some last := ⟨_, List.getLast?_cons⟩
      have behind : list.tail = some last := by rw [spells.tail, ends]
      have live := live_update list.heap node last ⟨⟨data, some last⟩, none⟩
        (spells.linked.live last (List.mem_of_getLast? ends))
      simp only [given, behind, setNext_live _ _ _ live]
      refine ⟨_, _, rfl, rfl, added _ ?_ ?_ ?_ rfl rfl⟩
      · simp [ends]
      · exact spells.head
      · rw [List.getLast?_concat]

theorem listPrepend_yields (spells : Spells compare list cells sequence) (data : Option Nat) (seed : Nat)
    (served : (allocator.malloc seed list.heap).isSome) :
    Yields compare (listPrepend allocator list data seed) (data :: sequence) (.status 0) := by
  obtain ⟨node, given⟩ := Option.isSome_iff_exists.mp served
  have dead := allocator.fresh seed list.heap node given
  have whole : Spells compare list ([] ++ cells) sequence := spells
  have added := whole.inserted node dead data
  rw [spells.data] at added
  unfold listPrepend
  cases cells with
  | nil =>
      have empty : list.head = none := spells.head
      simp only [given, empty]
      refine ⟨_, _, rfl, rfl, added _ ?_ ?_ ?_ rfl rfl⟩ <;> simp
  | cons first rest =>
      have front : list.head = some first := spells.head
      have live := live_update list.heap node first ⟨⟨data, none⟩, some first⟩
        (spells.linked.live first List.mem_cons_self)
      simp only [given, front, setPrev_live _ _ _ live]
      refine ⟨_, _, rfl, rfl, added _ ?_ ?_ ?_ rfl rfl⟩
      · simp
      · rfl
      · rw [spells.tail, List.nil_append, List.getLast?_cons_cons]

/-- A node that is put behind another one is in front of the rest. -/
theorem listInsert_middle (spells : Spells compare list cells sequence) (index : Nat) (data : Option Nat)
    (seed : Nat) (served : (allocator.malloc seed list.heap).isSome) (inside : index + 1 < list.size) :
    Yields compare (listInsert allocator list (index + 1) data seed)
      (sequence.take (index + 1) ++ data :: sequence.drop (index + 1)) (.status 0) := by
  obtain ⟨node, given⟩ := Option.isSome_iff_exists.mp served
  have dead := allocator.fresh seed list.heap node given
  obtain ⟨front, current, back, held, split, -, reached, stored, parts, measured⟩ :=
    spells.reach index (by rw [← spells.sized]; omega)
  have whole : Spells compare list ((front ++ [current]) ++ back) sequence := by
    rw [List.append_assoc, List.singleton_append, ← split]
    exact spells
  have added := whole.inserted node dead data
  have cut : sequence = (dataAt list.heap front ++ [held]) ++ dataAt list.heap back := by simp [parts]
  have ended : (dataAt list.heap front ++ [held]).length = index + 1 := by simp [measured]
  rw [cut, List.take_left' ended, List.drop_left' ended]
  rw [dataAt_append, dataAt_cons _ _ _ _ stored] at added
  have live := spells.linked.live
  rw [split] at live
  cases back with
  | nil =>
      have short := congrArg List.length cut
      rw [List.length_append, ended, ← spells.sized] at short
      have nothing : (dataAt list.heap []).length = 0 := rfl
      omega
  | cons next back =>
      have behind := live_update list.heap node next ⟨⟨data, some current⟩, some next⟩ (live next (by simp))
      have here := relinkPrev_live _ (some next) (some node) current
        (live_update list.heap node current ⟨⟨data, some current⟩, some next⟩ (live current (by simp)))
      simp only [listInsert, Nat.not_le.mpr inside, if_false, Nat.add_one_ne_zero, Nat.add_sub_cancel, reached,
        given, Option.bind_eq_bind, Option.bind_some, stored, List.head?_cons, setPrev_live _ _ _ behind,
        setNext_live _ _ _ here]
      refine ⟨_, _, rfl, rfl, added _ ?_ ?_ ?_ rfl rfl⟩
      · rw [List.getLast?_concat, List.head?_cons]
      · rw [whole.head]
        cases front <;> rfl
      · simp only [whole.tail, List.getLast?_append, List.getLast?_cons_cons]

theorem listInsert_yields (spells : Spells compare list cells sequence) (index : Nat) (data : Option Nat)
    (seed : Nat) (served : (allocator.malloc seed list.heap).isSome) :
    Yields compare (listInsert allocator list index data seed)
      (if index < sequence.length then sequence.take index ++ data :: sequence.drop index
      else sequence ++ [data]) (.status 0) := by
  have sized := spells.sized
  by_cases large : index ≥ list.size
  · rw [listInsert, if_pos large, if_neg (by omega)]
    exact listAppend_yields spells data seed served
  · rw [if_pos (by omega)]
    cases index with
    | zero =>
        rw [listInsert, if_neg large, if_pos rfl]
        exact listPrepend_yields spells data seed served
    | succ index => exact listInsert_middle spells index data seed served (by omega)

theorem listGet_yields (spells : Spells compare list cells sequence) (index : Nat) :
    Yields compare (listGet list index) sequence (.data sequence[index]?.join) := by
  have sized := spells.sized
  unfold listGet
  by_cases large : index ≥ list.size
  · rw [if_pos large, List.getElem?_eq_none (by omega)]
    exact ⟨_, _, rfl, rfl, spells⟩
  · obtain ⟨front, current, back, held, split, -, reached, stored, parts, measured⟩ :=
      spells.reach index (by omega)
    have found : sequence[index]? = some held := by
      rw [parts, List.getElem?_append_right (by omega), measured, Nat.sub_self]
      rfl
    simp only [if_neg large, reached, Option.bind_eq_bind, Option.bind_some, stored, found]
    exact ⟨_, _, rfl, rfl, spells⟩

/-- The neighbours of a node that has been unlinked point at each other. -/
theorem unlink_live (list : LinkedList) (data : Option Nat) (prev next : Option Nat)
    (front : ∀ address, prev = some address → ∃ cell, list.heap address = some cell)
    (behind : ∀ address, next = some address → ∃ cell, list.heap address = some cell) :
    unlink list ⟨⟨data, prev⟩, next⟩ = some { list with
      heap := relinkPrev (relinkNext list.heap prev next) next prev
      head := if prev.isNone then next else list.head
      tail := if next.isNone then prev else list.tail } := by
  unfold unlink
  cases prev with
  | none =>
      cases next with
      | none => rfl
      | some next => simp [setPrev_live _ _ _ (behind next rfl)]
  | some prev =>
      cases next with
      | none => simp [setNext_live _ _ _ (front prev rfl)]
      | some next =>
          have kept := relinkNext_live list.heap (some prev) (some next) next (behind next rfl)
          simp [setNext_live _ _ _ (front prev rfl), setPrev_live _ _ _ kept]

theorem listRemove_yields (spells : Spells compare list cells sequence) (index : Nat) :
    Yields compare (listRemove list index)
      (if index < sequence.length then sequence.eraseIdx index else sequence)
      (.status (if index < sequence.length then 0 else -1)) := by
  have sized := spells.sized
  unfold listRemove
  by_cases large : index ≥ list.size
  · rw [if_pos large, if_neg (by omega), if_neg (by omega)]
    exact ⟨_, _, rfl, rfl, spells⟩
  · obtain ⟨front, current, back, held, split, -, reached, stored, parts, measured⟩ :=
      spells.reach index (by omega)
    subst split
    have live := spells.linked.live
    have unlinked := unlink_live list held front.getLast? back.head?
      (fun address last => live address (by simp [List.mem_of_getLast? last]))
      (fun address first => live address (by simp [List.mem_of_mem_head? first]))
    have erased : sequence.eraseIdx index = dataAt list.heap front ++ dataAt list.heap back := by
      rw [parts, List.eraseIdx_append_of_length_le (by omega), measured, Nat.sub_self, List.eraseIdx_cons_zero]
    rw [if_neg large, if_pos (by omega), if_pos (by omega), erased]
    simp only [reached, Option.bind_eq_bind, Option.bind_some, stored, unlinked]
    refine ⟨_, _, rfl, rfl, spells.removed _ rfl ?_ ?_ rfl rfl⟩
    · simp only [spells.head]
      cases front <;> simp
    · simp only [spells.tail]
      cases back <;> simp

/-- The loop returns the number of the first node that matches. -/
theorem findData_segment {prev : Option Nat} {cells : List Nat} (segment : Segment list.heap prev cells none)
    (data : Option Nat) (fuel index : Nat) (enough : cells.length ≤ fuel) :
    findData list data fuel cells.head? index =
      some (((dataAt list.heap cells).findIdx? fun stored =>
        dataMatches list.dataCompareFunction stored data).map (· + index)) := by
  induction fuel generalizing prev cells index with
  | zero =>
      obtain rfl := List.length_eq_zero_iff.mp (Nat.le_zero.mp enough)
      rfl
  | succ fuel ih =>
      cases segment with
      | nil => rfl
      | @cons _ _ address rest held stored later =>
          rw [Option.or_none] at stored
          rw [dataAt_cons _ _ _ _ stored, List.findIdx?_cons]
          simp only [List.head?_cons, findData, stored, Option.bind_eq_bind, Option.bind_some]
          by_cases same : dataMatches list.dataCompareFunction held data
          · simp [same]
          · have shifted : (· + (index + 1)) = (· + index) ∘ (· + 1) := by
              funext count
              simp only [Function.comp_apply]
              omega
            rw [ih later (index + 1) (by simpa using enough), shifted]
            simp [same]

/-- The first match is removed if there is one and the data is not null. -/
theorem listRemoveData_yields (spells : Spells compare list cells sequence) (data : Nat) :
    Yields compare (listRemoveData list (some data))
      (sequence.eraseP fun stored => dataMatches compare stored (some data))
      (.status (if sequence.any fun stored => dataMatches compare stored (some data) then 0 else -1)) := by
  have enough := Nat.le_of_eq (spells.length.trans spells.sized.symm)
  have found := findData_segment spells.linked (some data) list.size 0 enough
  rw [← spells.head, spells.data, spells.compares] at found
  rw [List.eraseP_eq_eraseIdx, ← List.findIdx?_isSome]
  simp only [listRemoveData, reduceCtorEq, if_false, found, Option.bind_eq_bind, Option.bind_some]
  cases first : sequence.findIdx? fun stored => dataMatches compare stored (some data) with
  | none => exact ⟨_, _, rfl, rfl, spells⟩
  | some index =>
      have inside : index < sequence.length := (List.findIdx?_eq_some_iff_findIdx_eq.mp first).1
      obtain ⟨returned, left, removed, -, kept⟩ := listRemove_yields spells index
      rw [if_pos inside] at kept
      simp only [Option.map_some, Nat.add_zero, removed, Option.bind_some]
      exact ⟨_, left, rfl, rfl, kept⟩

/-- The loop frees all nodes. -/
theorem clearNodes_segment (list : LinkedList) (heap : Heap ListNode) {prev : Option Nat} {cells : List Nat}
    (segment : Segment heap prev cells none) (distinct : cells.Nodup) (fuel : Nat)
    (enough : cells.length ≤ fuel) : ∃ cleared, clearNodes list fuel heap cells.head? = some cleared := by
  induction fuel generalizing heap prev cells with
  | zero =>
      obtain rfl := List.length_eq_zero_iff.mp (Nat.le_zero.mp enough)
      exact ⟨_, rfl⟩
  | succ fuel ih =>
      cases segment with
      | nil => exact ⟨_, rfl⟩
      | @cons _ _ address rest held stored later =>
          rw [List.nodup_cons] at distinct
          rw [Option.or_none] at stored
          have kept : Segment (Function.update heap address none) (some address) rest none := by
            apply later.congr
            intro other member
            apply Function.update_of_ne
            rintro rfl
            exact distinct.1 member
          obtain ⟨cleared, freed⟩ := ih _ kept distinct.2 (by simpa using enough)
          exact ⟨_, by simp [clearNodes, stored, freed]; rfl⟩

theorem listClear_yields (spells : Spells compare list cells sequence) :
    Yields compare (listClear list) [] .cleared := by
  have enough := Nat.le_of_eq (spells.length.trans spells.sized.symm)
  obtain ⟨cleared, freed⟩ := clearNodes_segment list list.heap spells.linked spells.distinct list.size enough
  rw [← spells.head] at freed
  simp only [listClear, freed, Option.bind_eq_bind, Option.bind_some]
  exact ⟨_, [], rfl, rfl, ⟨.nil, List.nodup_nil, rfl, rfl, rfl, rfl, spells.compares⟩⟩

end Steps

/-- The sequence that the callers of the list have in mind.
The flag says whether a search for null data is refused. -/
def sequenceMachine (refusesNull : Bool) (compare : Option (Option Nat → Option Nat → Int)) :
    Machine (List (Option Nat)) ListOperation ListResult where
  step sequence operation :=
    match operation with
    | .append data _ => (sequence ++ [data], [.status 0])
    | .prepend data _ => (data :: sequence, [.status 0])
    | .insert index data _ =>
        (if index < sequence.length then sequence.take index ++ data :: sequence.drop index
          else sequence ++ [data], [.status 0])
    | .get index => (sequence, [.data sequence[index]?.join])
    | .remove index =>
        (if index < sequence.length then sequence.eraseIdx index else sequence,
          [.status (if index < sequence.length then 0 else -1)])
    | .removeData data =>
        if refusesNull ∧ data = none then (sequence, [.status (-1)])
        else
          (sequence.eraseP fun stored => dataMatches compare stored data,
            [.status (if sequence.any fun stored => dataMatches compare stored data then 0 else -1)])
    | .clear => ([], [.cleared])

/-- The calls of the free function are not results. -/
def ListOutput.result : ListOutput → Option ListResult
  | .freed _ => none
  | .returned result => some result

/-- The allocator serves an operation that adds a node. -/
def NodeAllocated (allocator : Allocator ListNode) : Option LinkedList → ListOperation → Prop
  | some list, .append _ seed => (allocator.malloc seed list.heap).isSome
  | some list, .prepend _ seed => (allocator.malloc seed list.heap).isSome
  | some list, .insert _ _ seed => (allocator.malloc seed list.heap).isSome
  | _, _ => True

/-- The list has not used a dangling pointer and spells the sequence. -/
def Listed (compare : Option (Option Nat → Option Nat → Int)) (state : Option LinkedList)
    (sequence : List (Option Nat)) : Prop :=
  ∃ list cells, state = some list ∧ Spells compare list cells sequence

/-- A call that yields the sequence and the result is a step to them. -/
theorem listMachine_yields {compare : Option (Option Nat → Option Nat → Int)}
    {allocator : Allocator ListNode} {list : LinkedList} {operation : ListOperation}
    {sequence : List (Option Nat)} {result : ListResult}
    (yields : Yields compare (applyListOperation allocator list operation) sequence result) :
    Listed compare ((listMachine allocator).step (some list) operation).1 sequence ∧
      ((listMachine allocator).step (some list) operation).2.filterMap ListOutput.result = [result] := by
  obtain ⟨returned, cells, call, rfl, spells⟩ := yields
  have hidden : (returned.freed.map ListOutput.freed).filterMap ListOutput.result = [] := by
    simp [List.filterMap_map, ListOutput.result, Function.comp_def]
  simp only [listMachine, Option.bind_some, call, List.filterMap_append, hidden]
  exact ⟨⟨_, cells, rfl, spells⟩, rfl⟩

/-- Each operation that gets its memory does to the list what it does to the sequence. -/
theorem listMachine_step (allocator : Allocator ListNode)
    (compare : Option (Option Nat → Option Nat → Int)) (state : Option LinkedList)
    (sequence : List (Option Nat)) (operation : ListOperation) (listed : Listed compare state sequence)
    (served : NodeAllocated allocator state operation) :
    Listed compare ((listMachine allocator).step state operation).1
        ((sequenceMachine true compare).step sequence operation).1 ∧
      ((listMachine allocator).step state operation).2.filterMap ListOutput.result =
        ((sequenceMachine true compare).step sequence operation).2 := by
  obtain ⟨list, cells, rfl, spells⟩ := listed
  cases operation with
  | append data seed => exact listMachine_yields (listAppend_yields spells data seed served)
  | prepend data seed => exact listMachine_yields (listPrepend_yields spells data seed served)
  | insert index data seed => exact listMachine_yields (listInsert_yields spells index data seed served)
  | get index => exact listMachine_yields (listGet_yields spells index)
  | remove index => exact listMachine_yields (listRemove_yields spells index)
  | removeData data =>
      cases data with
      | none => exact listMachine_yields ⟨_, cells, rfl, rfl, spells⟩
      | some data => exact listMachine_yields (listRemoveData_yields spells data)
  | clear => exact listMachine_yields (listClear_yields spells)

/-- The next pointers from the head spell the sequence, and the previous pointers from the tail its reverse. -/
def Mirrored (list : LinkedList) (sequence : List (Option Nat)) : Prop :=
  ∃ cells, Chain list.heap list.head cells ∧ dataAt list.heap cells = sequence ∧
    Chain (backward list.heap) list.tail cells.reverse ∧
      contents (backward list.heap) cells.reverse = sequence.reverse

theorem Spells.mirrored {compare : Option (Option Nat → Option Nat → Int)} {list : LinkedList}
    {cells : List Nat} {sequence : List (Option Nat)} (spells : Spells compare list cells sequence) :
    Mirrored list sequence := by
  have back := spells.linked.backwards [] .nil
  rw [List.append_nil, Option.or_none, ← spells.tail] at back
  refine ⟨cells, ?_, spells.data, back, ?_⟩
  · rw [spells.head]
    exact spells.linked.forwards
  · rw [← spells.data]
    simp [contents, backward, dataAt, List.map_filterMap, List.filterMap_reverse, Function.comp_def]

/-- The list is a sequence for every comparison function and sequence of operations,
as long as the allocator serves the operations that add a node. Null data is never found. -/
theorem linkedList_refines_sequence (allocator : Allocator ListNode) (dataFreeFunction : Bool)
    (compare : Option (Option Nat → Option Nat → Int)) (operations : List ListOperation)
    (served : (listMachine allocator).Along (NodeAllocated allocator)
      (some (listCreate dataFreeFunction compare)) operations) :
    (listMachine allocator).Agree (sequenceMachine true compare) ListOutput.result
        (some (listCreate dataFreeFunction compare)) [] operations ∧
      ∃ list,
        ((listMachine allocator).run (some (listCreate dataFreeFunction compare)) operations).1 = some list ∧
        Mirrored list ((sequenceMachine true compare).run [] operations).1 ∧
        list.size = ((sequenceMachine true compare).run [] operations).1.length := by
  have created : Listed compare (some (listCreate dataFreeFunction compare)) [] :=
    ⟨_, [], rfl, ⟨.nil, List.nodup_nil, rfl, rfl, rfl, rfl, rfl⟩⟩
  have step := listMachine_step allocator compare
  constructor
  · exact Machine.agree_of_along _ _ _ _ _ step _ _ operations created served
  · obtain ⟨list, cells, reached, spells⟩ := Machine.run_related (listMachine allocator) _ _ _
      (fun state sequence operation listed allowed => (step state sequence operation listed allowed).1)
      _ _ operations created served
    exact ⟨list, reached, spells.mirrored, spells.sized⟩

/-- Nodes in front, behind and between, and removes at both ends. -/
def sampleListOperations : List ListOperation :=
  [.append (some 1) 0, .prepend (some 2) 1, .insert 1 none 2, .removeData (some 1), .remove 0, .get 0, .clear]

theorem linkedList_refines_sequence_sample :
    (listMachine (.atSeed ListNode)).Along (NodeAllocated (.atSeed ListNode)) (some (listCreate true none))
        sampleListOperations ∧
      (listMachine (.atSeed ListNode)).Agree (sequenceMachine true none) ListOutput.result
        (some (listCreate true none)) [] sampleListOperations := by
  have served : (listMachine (.atSeed ListNode)).Along (NodeAllocated (.atSeed ListNode))
      (some (listCreate true none)) sampleListOperations :=
    ⟨rfl, rfl, rfl, trivial, trivial, trivial, trivial, trivial⟩
  exact ⟨served, (linkedList_refines_sequence (.atSeed ListNode) true none sampleListOperations served).1⟩

/-- A node with null data is stored, and the list refuses to remove it by its data. -/
theorem linkedList_keeps_null :
    (listMachine (.atSeed ListNode)).Along (NodeAllocated (.atSeed ListNode)) (some (listCreate true none))
        [.append none 0, .removeData none] ∧
      ¬(listMachine (.atSeed ListNode)).Agree (sequenceMachine false none) ListOutput.result
        (some (listCreate true none)) [] [.append none 0, .removeData none] := by
  refine ⟨⟨rfl, trivial, trivial⟩, ?_⟩
  intro agree
  exact absurd (agree 2) (by decide)

end SecureChat.Utils
