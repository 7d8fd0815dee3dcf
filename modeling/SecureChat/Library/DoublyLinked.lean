import Mathlib.Data.List.Nodup
import SecureChat.Library.PointerChain

namespace SecureChat.Library

/-- The data of a cell and the address of the cell in front of it. -/
structure Backlinked (Data : Type*) where
  data : Data
  prev : Option Nat

variable {Data : Type*}

/-- A write to a cell, if the pointer is not null. -/
def relink (heap : Heap (Backlinked Data)) (pointer : Option Nat)
    (change : Cell (Backlinked Data) → Cell (Backlinked Data)) : Heap (Backlinked Data) :=
  match pointer with
  | none => heap
  | some address => Function.update heap address ((heap address).map change)

/-- A write to a next field, if the pointer is not null. -/
def relinkNext (heap : Heap (Backlinked Data)) (pointer next : Option Nat) : Heap (Backlinked Data) :=
  relink heap pointer fun cell => { cell with next := next }

/-- A write to a previous field, if the pointer is not null. -/
def relinkPrev (heap : Heap (Backlinked Data)) (pointer prev : Option Nat) : Heap (Backlinked Data) :=
  relink heap pointer fun cell => { cell with value := { cell.value with prev := prev } }

/-- A write to a cell that has no result if the pointer dangles. -/
def link (heap : Heap (Backlinked Data)) (pointer : Option Nat)
    (change : Cell (Backlinked Data) → Cell (Backlinked Data)) : Option (Heap (Backlinked Data)) :=
  match pointer with
  | none => some heap
  | some address => (heap address).map fun cell => Function.update heap address (some (change cell))

/-- A cell becomes the first one in front of a list. -/
def linkFront (heap : Heap (Backlinked Data)) (address : Nat) (head : Option Nat) :
    Option (Heap (Backlinked Data)) := do
  let cell ← heap address
  link (Function.update heap address (some ⟨⟨cell.value.data, none⟩, head⟩)) head
    fun cell => { cell with value := { cell.value with prev := some address } }

/-- The neighbours of a cell are linked to each other. The head moves on if there is none in front. -/
def unlinkCell (heap : Heap (Backlinked Data)) (head : Option Nat) (cell : Cell (Backlinked Data)) :
    Option (Heap (Backlinked Data) × Option Nat) := do
  let front ← link heap cell.value.prev fun before => { before with next := cell.next }
  let back ← link front cell.next fun behind =>
    { behind with value := { behind.value with prev := cell.value.prev } }
  return (back, if cell.value.prev = none then cell.next else head)

/-- Cells that are linked in both directions, behind one pointer and in front of another one. -/
inductive Segment (heap : Heap (Backlinked Data)) : Option Nat → List Nat → Option Nat → Prop where
  | nil {prev next : Option Nat} : Segment heap prev [] next
  | cons {prev next : Option Nat} {address : Nat} {rest : List Nat} {data : Data}
      (stored : heap address = some ⟨⟨data, prev⟩, rest.head?.or next⟩)
      (later : Segment heap (some address) rest next) : Segment heap prev (address :: rest) next

/-- The heap after a cell was put in front of a list. -/
def inFront (heap : Heap (Backlinked Data)) (address : Nat) (data : Data) (head : Option Nat) :
    Heap (Backlinked Data) :=
  relinkPrev (Function.update heap address (some ⟨⟨data, none⟩, head⟩)) head (some address)

/-- The heap after the cell between two parts of a list was bypassed. -/
def bypassed (heap : Heap (Backlinked Data)) (front back : List Nat) : Heap (Backlinked Data) :=
  relinkPrev (relinkNext heap front.getLast? back.head?) back.head? front.getLast?

/-- The data of one cell. -/
def dataOf (heap : Heap (Backlinked Data)) (address : Nat) : Option Data :=
  (heap address).map fun cell => cell.value.data

/-- The data of the cells at the given addresses. -/
def dataAt (heap : Heap (Backlinked Data)) (cells : List Nat) : List Data :=
  (contents heap cells).map Backlinked.data

/-- The heap as one sees it on the way back. -/
def backward (heap : Heap (Backlinked Data)) : Heap Data :=
  fun address => (heap address).map fun cell => ⟨cell.value.data, cell.value.prev⟩

@[simp] theorem relinkNext_none (heap : Heap (Backlinked Data)) (next : Option Nat) :
    relinkNext heap none next = heap := rfl

@[simp] theorem relinkPrev_none (heap : Heap (Backlinked Data)) (prev : Option Nat) :
    relinkPrev heap none prev = heap := rfl

section DataAt

variable {heap : Heap (Backlinked Data)} {cells : List Nat}

theorem dataAt_eq_filterMap (heap : Heap (Backlinked Data)) (cells : List Nat) :
    dataAt heap cells = cells.filterMap (dataOf heap) := by
  rw [dataAt, contents, List.map_filterMap]
  simp only [Option.map_map]
  rfl

theorem mem_dataAt {data : Data} :
    data ∈ dataAt heap cells ↔ ∃ address ∈ cells, dataOf heap address = some data := by
  rw [dataAt_eq_filterMap, List.mem_filterMap]

theorem dataAt_cons_dataOf {address : Nat} {data : Data} (found : dataOf heap address = some data) :
    dataAt heap (address :: cells) = data :: dataAt heap cells := by
  rw [dataAt_eq_filterMap, List.filterMap_cons, found, dataAt_eq_filterMap]

/-- Two heaps with the same data in some cells spell the same there. -/
theorem dataAt_congr {other : Heap (Backlinked Data)}
    (same : ∀ address ∈ cells, dataOf other address = dataOf heap address) :
    dataAt other cells = dataAt heap cells := by
  rw [dataAt_eq_filterMap, dataAt_eq_filterMap]
  exact List.filterMap_congr same

end DataAt

section Relink

variable (heap : Heap (Backlinked Data)) (pointer : Option Nat)
  (change : Cell (Backlinked Data) → Cell (Backlinked Data))

theorem relink_other (address : Nat) (different : pointer ≠ some address) :
    relink heap pointer change address = heap address := by
  cases pointer with
  | none => rfl
  | some target =>
      apply Function.update_of_ne
      rintro rfl
      exact different rfl

/-- A write to a live cell keeps the live cells. -/
theorem relink_live (address : Nat) (live : ∃ cell, heap address = some cell) :
    ∃ cell, relink heap pointer change address = some cell := by
  obtain ⟨cell, stored⟩ := live
  by_cases same : pointer = some address
  · subst same
    exact ⟨change cell, by simp [relink, stored]⟩
  · exact ⟨cell, by rw [relink_other _ _ _ _ same, stored]⟩

theorem dataOf_relink (links : ∀ cell, (change cell).value.data = cell.value.data) (address : Nat) :
    dataOf (relink heap pointer change) address = dataOf heap address := by
  by_cases same : pointer = some address
  · subst same
    cases stored : heap address <;> simp [dataOf, relink, stored, links]
  · rw [dataOf, relink_other _ _ _ _ same, dataOf]

/-- A write to the links of a cell keeps the data. -/
theorem dataAt_relink (links : ∀ cell, (change cell).value.data = cell.value.data) (cells : List Nat) :
    dataAt (relink heap pointer change) cells = dataAt heap cells :=
  dataAt_congr fun address _ => dataOf_relink heap pointer change links address

end Relink

/-- A write through a pointer that does not dangle has a result. -/
theorem link_live (heap : Heap (Backlinked Data)) (pointer : Option Nat)
    (change : Cell (Backlinked Data) → Cell (Backlinked Data))
    (live : ∀ address, pointer = some address → ∃ cell, heap address = some cell) :
    link heap pointer change = some (relink heap pointer change) := by
  cases pointer with
  | none => rfl
  | some address =>
      obtain ⟨cell, stored⟩ := live address rfl
      simp [link, relink, stored]

theorem relinkNext_other (heap : Heap (Backlinked Data)) (pointer next : Option Nat) (address : Nat)
    (different : pointer ≠ some address) : relinkNext heap pointer next address = heap address :=
  relink_other _ _ _ _ different

theorem relinkPrev_other (heap : Heap (Backlinked Data)) (pointer prev : Option Nat) (address : Nat)
    (different : pointer ≠ some address) : relinkPrev heap pointer prev address = heap address :=
  relink_other _ _ _ _ different

theorem relinkNext_live (heap : Heap (Backlinked Data)) (pointer next : Option Nat) (address : Nat)
    (live : ∃ cell, heap address = some cell) : ∃ cell, relinkNext heap pointer next address = some cell :=
  relink_live _ _ _ _ live

theorem relinkPrev_live (heap : Heap (Backlinked Data)) (pointer prev : Option Nat) (address : Nat)
    (live : ∃ cell, heap address = some cell) : ∃ cell, relinkPrev heap pointer prev address = some cell :=
  relink_live _ _ _ _ live

@[simp] theorem dataOf_relinkNext (heap : Heap (Backlinked Data)) (pointer next : Option Nat)
    (address : Nat) : dataOf (relinkNext heap pointer next) address = dataOf heap address := by
  rw [relinkNext, dataOf_relink]
  exact fun _ => rfl

@[simp] theorem dataOf_relinkPrev (heap : Heap (Backlinked Data)) (pointer prev : Option Nat)
    (address : Nat) : dataOf (relinkPrev heap pointer prev) address = dataOf heap address := by
  rw [relinkPrev, dataOf_relink]
  exact fun _ => rfl

@[simp] theorem dataAt_relinkNext (heap : Heap (Backlinked Data)) (pointer next : Option Nat)
    (cells : List Nat) : dataAt (relinkNext heap pointer next) cells = dataAt heap cells := by
  rw [relinkNext, dataAt_relink]
  exact fun _ => rfl

@[simp] theorem dataAt_relinkPrev (heap : Heap (Backlinked Data)) (pointer prev : Option Nat)
    (cells : List Nat) : dataAt (relinkPrev heap pointer prev) cells = dataAt heap cells := by
  rw [relinkPrev, dataAt_relink]
  exact fun _ => rfl

theorem dataAt_append (heap : Heap (Backlinked Data)) (cells more : List Nat) :
    dataAt heap (cells ++ more) = dataAt heap cells ++ dataAt heap more := by
  simp [dataAt, contents_append]

theorem dataAt_cons (heap : Heap (Backlinked Data)) (address : Nat) (cells : List Nat)
    (cell : Cell (Backlinked Data)) (stored : heap address = some cell) :
    dataAt heap (address :: cells) = cell.value.data :: dataAt heap cells := by
  simp [dataAt, contents_cons _ _ _ _ stored]

theorem dataAt_update (heap : Heap (Backlinked Data)) (cells : List Nat) (address : Nat)
    (entry : Option (Cell (Backlinked Data))) (outside : address ∉ cells) :
    dataAt (Function.update heap address entry) cells = dataAt heap cells := by
  rw [dataAt, contents_update _ _ _ _ outside, dataAt]

namespace Segment

variable {heap : Heap (Backlinked Data)} {prev next : Option Nat} {cells front back : List Nat}

/-- Two heaps that agree on the cells have the same links there. -/
theorem congr {other : Heap (Backlinked Data)} (segment : Segment heap prev cells next)
    (same : ∀ address ∈ cells, other address = heap address) : Segment other prev cells next := by
  induction segment with
  | nil => exact .nil
  | cons stored later ih =>
      rw [List.forall_mem_cons] at same
      exact .cons (same.1.trans stored) (ih same.2)

/-- The first part of a segment is in front of the second one. -/
theorem left (segment : Segment heap prev (front ++ back) next) :
    Segment heap prev front (back.head?.or next) := by
  induction front generalizing prev with
  | nil => exact .nil
  | cons address front ih =>
      rw [List.cons_append] at segment
      cases segment with
      | cons stored later =>
          rw [List.head?_append, Option.or_assoc] at stored
          exact .cons stored (ih later)

/-- The second part of a segment is behind the first one. -/
theorem right (segment : Segment heap prev (front ++ back) next) :
    Segment heap (front.getLast?.or prev) back next := by
  induction front generalizing prev with
  | nil => exact segment
  | cons address front ih =>
      cases segment with
      | cons stored later =>
          have rest := ih later
          rw [List.getLast?_cons]
          cases ends : front.getLast? <;> simpa [ends] using rest

/-- Two segments that end at each other are one. -/
theorem join (first : Segment heap prev front (back.head?.or next))
    (second : Segment heap (front.getLast?.or prev) back next) :
    Segment heap prev (front ++ back) next := by
  induction front generalizing prev with
  | nil => exact second
  | cons address front ih =>
      cases first with
      | cons stored later =>
          rw [← Option.or_assoc, ← List.head?_append] at stored
          rw [List.cons_append]
          apply Segment.cons stored (ih later _)
          rw [List.getLast?_cons] at second
          cases ends : front.getLast? <;> simpa [ends] using second

/-- A write to the last next field moves the end of a segment. -/
theorem moveNext (segment : Segment heap prev cells next) (distinct : cells.Nodup) (target : Option Nat) :
    Segment (relinkNext heap cells.getLast? target) prev cells target := by
  rcases List.eq_nil_or_concat' cells with rfl | ⟨front, last, rfl⟩
  · exact .nil
  · rw [List.nodup_append] at distinct
    rw [List.getLast?_concat]
    apply Segment.join
    · apply segment.left.congr
      intro address member
      apply relinkNext_other
      rintro ⟨⟩
      exact distinct.2.2 last member last (List.mem_singleton_self last) rfl
    · have alone := segment.right
      cases alone with
      | @cons _ _ _ _ data stored later =>
          have written : relinkNext heap (some last) target last =
              some ⟨⟨data, front.getLast?.or prev⟩, target⟩ := by
            simp [relinkNext, relink, stored]
          exact .cons written .nil

/-- A write to the first previous field moves the start of a segment. -/
theorem movePrev (segment : Segment heap prev cells next) (distinct : cells.Nodup) (target : Option Nat) :
    Segment (relinkPrev heap cells.head? target) target cells next := by
  cases segment with
  | nil => exact .nil
  | @cons _ _ address rest data stored later =>
      have written : relinkPrev heap (some address) target address =
          some ⟨⟨data, target⟩, rest.head?.or next⟩ := by
        simp [relinkPrev, relink, stored]
      apply Segment.cons written
      apply later.congr
      intro other member
      apply relinkPrev_other
      rintro ⟨⟩
      exact (List.nodup_cons.mp distinct).1 member

/-- A cell of a segment points at its neighbours. -/
theorem neighbours {address : Nat} (segment : Segment heap none (front ++ address :: back) none) :
    ∃ data, heap address = some ⟨⟨data, front.getLast?⟩, back.head?⟩ := by
  have here := segment.right
  cases here with
  | @cons _ _ _ _ data stored later =>
      rw [Option.or_none, Option.or_none] at stored
      exact ⟨data, stored⟩

/-- Every cell of a segment is live. -/
theorem live (segment : Segment heap prev cells next) :
    ∀ address ∈ cells, ∃ cell, heap address = some cell := by
  induction segment with
  | nil => simp
  | cons stored later ih => exact List.forall_mem_cons.mpr ⟨⟨_, stored⟩, ih⟩

/-- A dead address belongs to no segment. -/
theorem outside (segment : Segment heap prev cells next) (address : Nat) (dead : heap address = none) :
    address ∉ cells := by
  intro member
  obtain ⟨cell, stored⟩ := segment.live address member
  rw [dead] at stored
  cases stored

/-- A segment has the data of each cell. -/
theorem dataAt_length (segment : Segment heap prev cells next) :
    (dataAt heap cells).length = cells.length := by
  induction segment with
  | nil => rfl
  | cons stored later ih => simp [dataAt_cons _ _ _ _ stored, ih]

/-- The next pointers spell a segment. -/
theorem forwards (segment : Segment heap prev cells none) : Chain heap cells.head? cells := by
  induction cells generalizing prev with
  | nil => exact .nil
  | cons address rest ih =>
      cases segment with
      | cons stored later =>
          rw [Option.or_none] at stored
          exact .cons stored (ih later)

/-- The previous pointers spell a segment backwards. -/
theorem backwards (segment : Segment heap prev cells next) (before : List Nat)
    (chain : Chain (backward heap) prev before) :
    Chain (backward heap) (cells.getLast?.or prev) (cells.reverse ++ before) := by
  induction segment generalizing before with
  | nil => exact chain
  | @cons prev next address rest data stored later ih =>
      have viewed : backward heap address = some ⟨data, prev⟩ := by simp [backward, stored]
      have longer := ih (address :: before) (.cons viewed chain)
      rw [List.reverse_cons, List.append_assoc, List.singleton_append, List.getLast?_cons]
      cases ends : rest.getLast? <;> simpa [ends] using longer

/-- A new cell is linked between two parts of a segment. -/
theorem insert (segment : Segment heap none (front ++ back) none) (distinct : (front ++ back).Nodup)
    (address : Nat) (outside : address ∉ front ++ back) (data : Data) :
    Segment
      (relinkNext
        (relinkPrev (Function.update heap address (some ⟨⟨data, front.getLast?⟩, back.head?⟩)) back.head?
          (some address))
        front.getLast? (some address))
      none (front ++ address :: back) none := by
  rw [List.nodup_append'] at distinct
  obtain ⟨first, second, apart⟩ := distinct
  rw [List.mem_append, not_or] at outside
  have kept : ∀ other ∈ front ++ back,
      Function.update heap address (some ⟨⟨data, front.getLast?⟩, back.head?⟩) other = heap other := by
    intro other member
    apply Function.update_of_ne
    rintro rfl
    exact (not_or.mpr outside) (List.mem_append.mp member)
  apply Segment.join
  · refine Segment.moveNext (segment.left.congr ?_) first (some address)
    intro other member
    rw [relinkPrev_other, kept other (List.mem_append_left back member)]
    intro same
    exact apart member (List.mem_of_mem_head? same)
  · have written : relinkNext
        (relinkPrev (Function.update heap address (some ⟨⟨data, front.getLast?⟩, back.head?⟩)) back.head?
          (some address))
        front.getLast? (some address) address = some ⟨⟨data, front.getLast?.or none⟩, back.head?.or none⟩ := by
      rw [relinkNext_other, relinkPrev_other, Function.update_self, Option.or_none, Option.or_none]
      · exact fun same => outside.2 (List.mem_of_mem_head? same)
      · exact fun same => outside.1 (List.mem_of_getLast? same)
    apply Segment.cons written
    have behind : Segment
        (relinkPrev (Function.update heap address (some ⟨⟨data, front.getLast?⟩, back.head?⟩)) back.head?
          (some address)) (some address) back none := by
      refine Segment.movePrev (segment.right.congr ?_) second (some address)
      exact fun other member => kept other (List.mem_append_right front member)
    apply behind.congr
    intro other member
    apply relinkNext_other
    exact fun same => apart (List.mem_of_getLast? same) member

/-- A cell is bypassed in both directions. -/
theorem bypass {address : Nat} (segment : Segment heap none (front ++ address :: back) none)
    (distinct : (front ++ address :: back).Nodup) :
    Segment (bypassed heap front back) none (front ++ back) none := by
  have rest := segment.right
  rw [List.nodup_middle, List.nodup_cons, List.nodup_append'] at distinct
  obtain ⟨-, first, second, apart⟩ := distinct
  apply Segment.join
  · rw [Option.or_none]
    apply (segment.left.moveNext first back.head?).congr
    intro other member
    apply relinkPrev_other
    exact fun same => apart member (List.mem_of_mem_head? same)
  · rw [Option.or_none]
    cases rest with
    | cons stored later =>
        refine Segment.movePrev (later.congr ?_) second front.getLast?
        intro other member
        apply relinkNext_other
        exact fun same => apart (List.mem_of_getLast? same) member

/-- A cell is bypassed in both directions and freed. -/
theorem remove {address : Nat} (segment : Segment heap none (front ++ address :: back) none)
    (distinct : (front ++ address :: back).Nodup) :
    Segment
      (Function.update (relinkPrev (relinkNext heap front.getLast? back.head?) back.head? front.getLast?)
        address none)
      none (front ++ back) none := by
  apply (segment.bypass distinct).congr
  intro other member
  apply Function.update_of_ne
  rintro rfl
  rw [List.nodup_middle, List.nodup_cons] at distinct
  exact distinct.1 member

/-- The first cell already points back at what is in front. -/
theorem relinkPrev_same (segment : Segment heap prev cells next) : relinkPrev heap cells.head? prev = heap := by
  cases segment with
  | nil => rfl
  | @cons _ _ address rest data stored later =>
      show Function.update heap address ((heap address).map _) = heap
      rw [stored]
      exact (congrArg (Function.update heap address) stored.symm).trans (Function.update_eq_self address heap)

/-- A cell outside a list becomes its first one. -/
theorem linkFront (segment : Segment heap none cells none) (distinct : cells.Nodup) (address : Nat)
    (outside : address ∉ cells) (cell : Cell (Backlinked Data)) (stored : heap address = some cell) :
    Library.linkFront heap address cells.head? = some (inFront heap address cell.value.data cells.head?) ∧
      Segment (inFront heap address cell.value.data cells.head?) none (address :: cells) none := by
  constructor
  · rw [Library.linkFront, stored, Option.bind_eq_bind, Option.bind_some]
    refine link_live _ _ _ ?_
    intro other first
    have member := List.mem_of_mem_head? first
    obtain ⟨held, there⟩ := segment.live other member
    refine ⟨held, ?_⟩
    rw [Function.update_of_ne]
    · exact there
    · rintro rfl
      exact outside member
  · have whole : Segment heap none ([] ++ cells) none := segment
    exact whole.insert distinct address outside cell.value.data

/-- A cell that is first already stays as it is. -/
theorem linkFront_same {address : Nat} (segment : Segment heap none (address :: cells) none) :
    Library.linkFront heap address cells.head? = some heap := by
  cases segment with
  | @cons _ _ _ _ data stored later =>
      rw [Option.or_none] at stored
      have kept : Function.update heap address (some ⟨⟨data, none⟩, cells.head?⟩) = heap := by
        rw [← stored, Function.update_eq_self]
      rw [Library.linkFront, stored, Option.bind_eq_bind, Option.bind_some]
      dsimp only
      rw [kept, link_live]
      · exact congrArg some later.relinkPrev_same
      · exact fun other first => later.live other (List.mem_of_mem_head? first)

/-- The neighbours of a cell of a list bypass it. -/
theorem unlinkCell {address : Nat} (segment : Segment heap none (front ++ address :: back) none)
    (cell : Cell (Backlinked Data)) (stored : heap address = some cell) (head : Option Nat) :
    Library.unlinkCell heap head cell =
      some (bypassed heap front back, if front = [] then back.head? else head) := by
  obtain ⟨data, held⟩ := segment.neighbours
  obtain rfl := Option.some.inj (stored.symm.trans held)
  have live : ∀ other ∈ front ++ address :: back, ∃ cell, heap other = some cell := segment.live
  rw [Library.unlinkCell]
  dsimp only
  rw [link_live _ _ _ fun other last =>
    live other (List.mem_append_left _ (List.mem_of_getLast? last))]
  simp only [Option.bind_eq_bind, Option.bind_some]
  rw [link_live _ _ _ fun other first => relink_live heap front.getLast? _ other
    (live other (List.mem_append_right _ (List.mem_cons_of_mem _ (List.mem_of_mem_head? first))))]
  simp only [Option.bind_some, List.getLast?_eq_none_iff]
  rfl

/-- The first cell of a list is taken out again after its neighbour no longer points at it. -/
theorem unlinkCell_again (segment : Segment heap none back none) (data : Data) (head : Option Nat) :
    Library.unlinkCell heap head ⟨⟨data, none⟩, back.head?⟩ = some (heap, back.head?) := by
  have kept := segment.relinkPrev_same
  show (link heap back.head? _).bind _ = _
  rw [link_live _ _ _ fun other first => segment.live other (List.mem_of_mem_head? first), Option.bind_some]
  exact congrArg (fun heap => some (heap, back.head?)) kept

end Segment

section Frame

variable (heap : Heap (Backlinked Data))

@[simp] theorem dataOf_bypassed (front back : List Nat) (address : Nat) :
    dataOf (bypassed heap front back) address = dataOf heap address := by
  rw [bypassed, dataOf_relinkPrev, dataOf_relinkNext]

/-- A cell in front of a list has its data, and all other cells keep theirs. -/
@[simp] theorem dataOf_inFront (address : Nat) (data : Data) (head : Option Nat) (other : Nat) :
    dataOf (inFront heap address data head) other = if other = address then some data else dataOf heap other := by
  rw [inFront, dataOf_relinkPrev]
  split
  · rename_i same
    rw [same, dataOf, Function.update_self]
    rfl
  · rename_i different
    rw [dataOf, Function.update_of_ne different, dataOf]

theorem bypassed_other (front back : List Nat) (address : Nat) (outside : address ∉ front ++ back) :
    bypassed heap front back address = heap address := by
  rw [List.mem_append, not_or] at outside
  rw [bypassed, relinkPrev_other _ _ _ _ fun same => outside.2 (List.mem_of_mem_head? same),
    relinkNext_other _ _ _ _ fun same => outside.1 (List.mem_of_getLast? same)]

theorem inFront_other (address : Nat) (data : Data) (cells : List Nat) (other : Nat)
    (outside : other ∉ address :: cells) : inFront heap address data cells.head? other = heap other := by
  rw [List.mem_cons, not_or] at outside
  rw [inFront, relinkPrev_other _ _ _ _ fun same => outside.2 (List.mem_of_mem_head? same),
    Function.update_of_ne outside.1]

end Frame

end SecureChat.Library
