import SecureChat.Construction.FileTransfer.Registry

namespace SecureChat.FileTransfer
open Library

/-- The sessions that were created and not yet removed, the newest one first. -/
structure SessionBook where
  active : List Session
  completed : List Session
  deriving DecidableEq, Repr

namespace SessionBook

def lookup (book : SessionBook) (transferId : UInt64) : Option Session :=
  (book.active ++ book.completed).find? fun session => session.transferId = transferId

def erase (book : SessionBook) (transferId : UInt64) : SessionBook :=
  ⟨book.active.filter fun session => session.transferId ≠ transferId,
    book.completed.filter fun session => session.transferId ≠ transferId⟩

/-- A failed session is completed, and its last activity is the failure. -/
def fail (book : SessionBook) (transferId : UInt64) (now : Int) : SessionBook :=
  if book.active.any fun session => session.transferId = transferId then
    ⟨book.active.filter fun session => session.transferId ≠ transferId,
      ⟨transferId, now⟩ :: book.completed⟩
  else book

/-- The book is kept from the calls and their results. -/
def record (book : SessionBook) : RegistryCall → ErrorCode → SessionBook
  | .create _ _ transferId now, .success => { book with active := ⟨transferId, now⟩ :: book.active }
  | .remove transferId, .success => book.erase transferId
  | .fail transferId now, .success => book.fail transferId now
  | .cleanup olderThan, .success =>
      { book with completed := book.completed.filter fun session => ¬ session.lastActivityTime < olderThan }
  | _, _ => book

end SessionBook

/-- The registry with the book beside it. -/
def recordedMachine (allocator : Allocator (Backlinked Session)) :
    Machine (Option Registry × SessionBook) RegistryCall ErrorCode where
  step state call :=
    let (registry, results) := (registryMachine allocator).step state.1 call
    ((registry, results.foldl (fun book code => book.record call code) state.2), results)

/-- Lookups find exactly the sessions of the book, and both lists hold exactly its sessions. -/
def Refines (state : Option Registry × SessionBook) : Prop :=
  ∃ registry, state.1 = some registry ∧
    (∀ transferId, ftGetSession registry transferId = some (state.2.lookup transferId)) ∧
    sessionsFrom registry.heap registry.allocated registry.activeSessions = some state.2.active ∧
    sessionsFrom registry.heap registry.allocated registry.completedSessions = some state.2.completed

/-- No bucket starts at the session, except its own bucket if the session is the first of its list. -/
def Removable (registry : Registry) (transferId : UInt64) : Prop :=
  ∀ session cell, ftFindInSessionMap registry transferId = some (some session) →
    registry.heap session = some cell → ∀ bucket, registry.table bucket = some session →
      bucket = ftHashTransferId transferId ∧ cell.value.prev = none

/-- The call does not overwrite a link that another structure needs. -/
def Harmless (state : Option Registry × SessionBook) (call : RegistryCall) : Prop :=
  ∀ registry, state.1 = some registry →
    match call with
    | .create answers _ transferId _ =>
        answers.result = .success →
          (registry.table (ftHashTransferId transferId) = none ∨
            registry.table (ftHashTransferId transferId) = registry.activeSessions) ∧
          state.2.lookup transferId = none
    | .remove transferId => Removable registry transferId
    | .fail transferId _ =>
        ∀ session, findSession registry.heap transferId registry.allocated registry.activeSessions =
            some (some session) →
          (∀ bucket, registry.table bucket = some session ↔ bucket = ftHashTransferId transferId) ∧
          ∀ other ∈ state.2.active, other.transferId ≠ transferId →
            ftHashTransferId other.transferId ≠ ftHashTransferId transferId
    | .cleanup olderThan =>
        ∀ session ∈ state.2.completed, session.lastActivityTime < olderThan →
          Removable registry session.transferId

section Walks

variable {heap : Heap (Backlinked Session)} {head : Option Nat} {cells : List Nat}

/-- The cell holds the session with this identifier. -/
def Holds (heap : Heap (Backlinked Session)) (transferId : UInt64) (address : Nat) : Prop :=
  ∃ data, dataOf heap address = some data ∧ data.transferId = transferId

theorem holds_congr {heap other : Heap (Backlinked Session)} {address : Nat}
    (same : dataOf other address = dataOf heap address) (transferId : UInt64) :
    Holds other transferId address ↔ Holds heap transferId address := by
  unfold Holds
  rw [same]

/-- A walk over cells without the session ends at the null pointer. -/
theorem findSession_absent (chain : Chain heap head cells) (transferId : UInt64) (fuel : Nat)
    (enough : cells.length ≤ fuel) (absent : ∀ address ∈ cells, ¬ Holds heap transferId address) :
    findSession heap transferId fuel head = some none := by
  induction chain generalizing fuel with
  | nil => cases fuel <;> rfl
  | @cons address cell rest stored later ih =>
      rw [List.forall_mem_cons] at absent
      cases fuel with
      | zero => simp at enough
      | succ fuel =>
          have other : cell.value.data.transferId ≠ transferId := by
            intro same
            exact absent.1 ⟨cell.value.data, by rw [dataOf, stored]; rfl, same⟩
          rw [findSession, stored]
          dsimp only
          rw [if_neg other]
          exact ih fuel (Nat.le_of_succ_le_succ enough) absent.2

/-- A walk stops at the session, if it is the only one with its identifier. -/
theorem findSession_present (chain : Chain heap head cells) (transferId : UInt64) (fuel : Nat)
    (enough : cells.length ≤ fuel) (session : Nat) (member : session ∈ cells)
    (holds : Holds heap transferId session)
    (unique : ∀ address ∈ cells, Holds heap transferId address → address = session) :
    findSession heap transferId fuel head = some (some session) := by
  induction chain generalizing fuel with
  | nil => cases member
  | @cons address cell rest stored later ih =>
      rw [List.forall_mem_cons] at unique
      cases fuel with
      | zero => simp at enough
      | succ fuel =>
          rw [findSession, stored]
          dsimp only
          split
          · rename_i same
            rw [unique.1 ⟨cell.value.data, by rw [dataOf, stored]; rfl, same⟩]
          · rename_i different
            refine ih fuel (Nat.le_of_succ_le_succ enough) ?_ unique.2
            rcases List.mem_cons.mp member with rfl | later
            · obtain ⟨data, found, same⟩ := holds
              rw [dataOf, stored] at found
              obtain rfl := Option.some.inj found
              exact absurd same different
            · exact later

theorem sessionsFrom_chain (chain : Chain heap head cells) (fuel : Nat) (enough : cells.length ≤ fuel) :
    sessionsFrom heap fuel head = some (dataAt heap cells) := by
  induction chain generalizing fuel with
  | nil => cases fuel <;> rfl
  | @cons address cell rest stored later ih =>
      cases fuel with
      | zero => simp at enough
      | succ fuel =>
          have walked := ih fuel (Nat.le_of_succ_le_succ enough)
          rw [sessionsFrom, stored, dataAt_cons _ _ _ _ stored]
          simp [walked]

end Walks

/-- The entry is the session itself or comes before it. -/
def Ahead (cells : List Nat) (entry session : Nat) : Prop :=
  entry = session ∨ [entry, session].Sublist cells

/-- A list goes on from the entry to every session behind it. -/
theorem Ahead.mem {cells front back : List Nat} {entry session : Nat} (ahead : Ahead cells entry session)
    (distinct : cells.Nodup) (split : cells = front ++ entry :: back) : session ∈ entry :: back := by
  rcases ahead with rfl | pair
  · exact List.mem_cons_self ..
  · rw [split] at pair distinct
    obtain ⟨first, second, same, before, behind⟩ := List.sublist_append_iff.mp pair
    cases first with
    | nil =>
        rw [← show [entry, session] = second from same] at behind
        exact behind.subset (List.mem_cons_of_mem _ (List.mem_cons_self ..))
    | cons head tail =>
        obtain ⟨rfl, -⟩ := List.cons.inj same
        have inside := before.subset (List.mem_cons_self ..)
        exact absurd (List.mem_cons_self ..) ((List.nodup_append'.mp distinct).2.2 inside)

/-- Removing another cell keeps the order. -/
theorem Ahead.filter {cells : List Nat} {entry session other : Nat} (ahead : Ahead cells entry session)
    (first : entry ≠ other) (second : session ≠ other) :
    Ahead (cells.filter (· ≠ other)) entry session := by
  rcases ahead with rfl | pair
  · exact .inl rfl
  · refine .inr ?_
    have kept := pair.filter (· ≠ other)
    simpa [first, second] using kept

/-- The first cell of a list comes before all others. -/
theorem Ahead.head {cells : List Nat} {entry session : Nat} (starts : cells.head? = some entry)
    (member : session ∈ cells) : Ahead cells entry session := by
  cases cells with
  | nil => cases member
  | cons first rest =>
      obtain rfl := Option.some.inj starts
      rcases List.mem_cons.mp member with rfl | later
      · exact .inl rfl
      · exact .inr ((List.singleton_sublist.mpr later).cons_cons first)

theorem Ahead.cons {cells : List Nat} {entry session : Nat} (ahead : Ahead cells entry session)
    (address : Nat) : Ahead (address :: cells) entry session :=
  ahead.imp id fun pair => pair.cons address

/-- Only the first cell comes before the first cell. -/
theorem Ahead.eq_head {cells : List Nat} {entry session : Nat} (ahead : Ahead (session :: cells) entry session)
    (distinct : (session :: cells).Nodup) : entry = session := by
  rcases ahead with same | pair
  · exact same
  · rw [List.nodup_cons] at distinct
    cases pair with
    | cons _ rest => exact absurd (rest.subset (by simp)) distinct.1
    | cons_cons _ rest => exact absurd (rest.subset (by simp)) distinct.1

/-- What the registry keeps as long as no call does harm.
Both lists are linked in both directions, and every bucket leads into one of them. -/
structure Kept (registry : Registry) (book : SessionBook) (active completed : List Nat) : Prop where
  activeHead : registry.activeSessions = active.head?
  completedHead : registry.completedSessions = completed.head?
  actives : Segment registry.heap none active none
  completeds : Segment registry.heap none completed none
  distinct : (active ++ completed).Nodup
  bounded : (active ++ completed).length ≤ registry.allocated
  activeData : dataAt registry.heap active = book.active
  completedData : dataAt registry.heap completed = book.completed
  unique : ∀ transferId, ∀ first ∈ active ++ completed, ∀ second ∈ active ++ completed,
    Holds registry.heap transferId first → Holds registry.heap transferId second → first = second
  entries : ∀ bucket entry, registry.table bucket = some entry → entry ∈ active ++ completed
  leads : ∀ transferId, ∀ session ∈ active, Holds registry.heap transferId session →
    ∃ entry, registry.table (ftHashTransferId transferId) = some entry ∧ Ahead active entry session
  own : ∀ transferId, ∀ session ∈ completed, Holds registry.heap transferId session →
    registry.table (ftHashTransferId transferId) = some session

theorem emptyRegistry_kept : Kept emptyRegistry ⟨[], []⟩ [] [] where
  activeHead := rfl
  completedHead := rfl
  actives := .nil
  completeds := .nil
  distinct := List.nodup_nil
  bounded := Nat.le_refl _
  activeData := rfl
  completedData := rfl
  unique := by simp
  entries := by simp [emptyRegistry]
  leads := by simp
  own := by simp

namespace Kept

variable {registry : Registry} {book : SessionBook} {active completed : List Nat}

/-- A bucket that starts in a list reaches the rest of that list. -/
theorem walk (kept : Kept registry book active completed) (bucket entry : Nat)
    (starts : registry.table bucket = some entry) :
    ∃ front back, (active = front ++ entry :: back ∨ completed = front ++ entry :: back) ∧
      Chain registry.heap (registry.table bucket) (entry :: back) ∧
      (entry :: back).length ≤ registry.allocated ∧ ∀ address ∈ entry :: back, address ∈ active ++ completed := by
  have bound := kept.bounded
  rw [List.length_append] at bound
  rw [starts]
  rcases List.mem_append.mp (kept.entries bucket entry starts) with member | member
  · obtain ⟨front, back, rfl⟩ := List.append_of_mem member
    refine ⟨front, back, .inl rfl, kept.actives.right.forwards, ?_, ?_⟩
    · rw [List.length_append] at bound
      omega
    · exact fun address inside => List.mem_append_left _ (List.mem_append_right _ inside)
  · obtain ⟨front, back, rfl⟩ := List.append_of_mem member
    refine ⟨front, back, .inr rfl, kept.completeds.right.forwards, ?_, ?_⟩
    · rw [List.length_append] at bound
      omega
    · exact fun address inside => List.mem_append_right _ (List.mem_append_right _ inside)

theorem find_absent (kept : Kept registry book active completed) (transferId : UInt64)
    (absent : ∀ address ∈ active ++ completed, ¬ Holds registry.heap transferId address) :
    ftFindInSessionMap registry transferId = some none := by
  unfold ftFindInSessionMap
  cases starts : registry.table (ftHashTransferId transferId) with
  | none => exact findSession_absent .nil transferId _ (Nat.zero_le _) (fun _ member => nomatch member)
  | some entry =>
      obtain ⟨front, back, -, chain, enough, inside⟩ := kept.walk _ entry starts
      rw [← starts]
      exact findSession_absent chain transferId _ enough fun address member =>
        absent address (inside address member)

/-- Every session of the two lists is found. -/
theorem find_present (kept : Kept registry book active completed) (transferId : UInt64) (session : Nat)
    (member : session ∈ active ++ completed) (holds : Holds registry.heap transferId session) :
    ftFindInSessionMap registry transferId = some (some session) := by
  have reached : ∃ entry, registry.table (ftHashTransferId transferId) = some entry ∧
      ∀ front back, (active = front ++ entry :: back ∨ completed = front ++ entry :: back) →
        session ∈ entry :: back := by
    rcases List.mem_append.mp member with inside | inside
    · obtain ⟨entry, starts, ahead⟩ := kept.leads transferId session inside holds
      refine ⟨entry, starts, ?_⟩
      rintro front back (split | split)
      · exact ahead.mem (List.nodup_append'.mp kept.distinct).1 split
      · have shared : entry ∈ active := by
          rcases ahead with rfl | pair
          · exact inside
          · exact pair.subset (List.mem_cons_self ..)
        have outside := (List.nodup_append'.mp kept.distinct).2.2 shared
        exact absurd (split ▸ List.mem_append_right _ (List.mem_cons_self ..)) outside
    · exact ⟨session, kept.own transferId session inside holds, fun _ _ _ => List.mem_cons_self ..⟩
  obtain ⟨entry, starts, behind⟩ := reached
  obtain ⟨front, back, split, chain, enough, within⟩ := kept.walk _ entry starts
  refine findSession_present chain transferId _ enough session (behind front back split) holds ?_
  exact fun address there same => kept.unique transferId address (within address there) session member same holds

/-- Every cell of the two lists holds the session of its identifier. -/
theorem holds (kept : Kept registry book active completed) (address : Nat)
    (member : address ∈ active ++ completed) : ∃ data, dataOf registry.heap address = some data := by
  have live : ∃ cell, registry.heap address = some cell := by
    rcases List.mem_append.mp member with inside | inside
    · exact kept.actives.live address inside
    · exact kept.completeds.live address inside
  obtain ⟨cell, stored⟩ := live
  exact ⟨cell.value.data, by rw [dataOf, stored]; rfl⟩

theorem mem_active (kept : Kept registry book active completed) (data : Session) :
    data ∈ book.active ↔ ∃ address ∈ active, dataOf registry.heap address = some data := by
  rw [← kept.activeData, mem_dataAt]

theorem mem_completed (kept : Kept registry book active completed) (data : Session) :
    data ∈ book.completed ↔ ∃ address ∈ completed, dataOf registry.heap address = some data := by
  rw [← kept.completedData, mem_dataAt]

theorem mem_book (kept : Kept registry book active completed) (data : Session) :
    data ∈ book.active ++ book.completed ↔
      ∃ address ∈ active ++ completed, dataOf registry.heap address = some data := by
  rw [← kept.activeData, ← kept.completedData, ← dataAt_append, mem_dataAt]

/-- A session is in the book exactly if a cell holds it. -/
theorem lookup_eq_none_iff (kept : Kept registry book active completed) (transferId : UInt64) :
    book.lookup transferId = none ↔
      ∀ address ∈ active ++ completed, ¬ Holds registry.heap transferId address := by
  unfold SessionBook.lookup
  rw [List.find?_eq_none]
  constructor
  · rintro missing address member ⟨data, found, same⟩
    exact missing data ((kept.mem_book data).mpr ⟨address, member, found⟩) (decide_eq_true same)
  · intro missing data member same
    obtain ⟨address, inside, found⟩ := (kept.mem_book data).mp member
    exact missing address inside ⟨data, found, of_decide_eq_true same⟩

/-- The registry behaves as the book says. -/
theorem refines (kept : Kept registry book active completed) : Refines (some registry, book) := by
  have bound := kept.bounded
  rw [List.length_append] at bound
  refine ⟨registry, rfl, ?_, ?_, ?_⟩
  · intro transferId
    unfold ftGetSession
    by_cases live : ∃ session ∈ active ++ completed, Holds registry.heap transferId session
    · obtain ⟨session, member, present⟩ := live
      obtain ⟨data, found, same⟩ := present
      obtain ⟨cell, stored, rfl⟩ := Option.map_eq_some_iff.mp found
      rw [kept.find_present transferId session member ⟨_, found, same⟩]
      have known : book.lookup transferId = some cell.value.data := by
        cases seen : book.lookup transferId with
        | none => exact absurd ⟨_, found, same⟩ ((kept.lookup_eq_none_iff transferId).mp seen session member)
        | some other =>
            have matching : other.transferId = transferId := by simpa using List.find?_some seen
            obtain ⟨address, inside, there⟩ := (kept.mem_book other).mp (List.mem_of_find?_eq_some seen)
            obtain rfl := kept.unique transferId address inside session member ⟨other, there, matching⟩
              ⟨_, found, same⟩
            rw [there] at found
            exact found
      simp [stored, known]
    · have absent : ∀ address ∈ active ++ completed, ¬ Holds registry.heap transferId address :=
        fun address member holds => live ⟨address, member, holds⟩
      rw [kept.find_absent transferId absent, (kept.lookup_eq_none_iff transferId).mpr absent]
      rfl
  · rw [kept.activeHead, sessionsFrom_chain kept.actives.forwards _ (by omega), kept.activeData]
  · rw [kept.completedHead, sessionsFrom_chain kept.completeds.forwards _ (by omega), kept.completedData]

end Kept

section Create

variable {registry : Registry} {book : SessionBook} {active completed : List Nat}

/-- The bucket's links are replaced by those of the active list,
and nothing is lost if the bucket is empty or starts where the active list does. -/
theorem linkFront_twice {heap : Heap (Backlinked Session)} {cells : List Nat} (address : Nat) (data : Session)
    (entry : Option Nat) (segment : Segment heap none cells none) (distinct : cells.Nodup)
    (outside : address ∉ cells) (stored : heap address = some ⟨⟨data, none⟩, none⟩)
    (harmless : entry = none ∨ entry = cells.head?) :
    (linkFront heap address entry).bind (linkFront · address cells.head?) =
        some (inFront heap address data cells.head?) ∧
      Segment (inFront heap address data cells.head?) none (address :: cells) none := by
  obtain ⟨linked, longer⟩ := segment.linkFront distinct address outside _ stored
  refine ⟨?_, longer⟩
  rcases harmless with rfl | rfl
  · have idle : linkFront heap address none = some heap := by
      rw [linkFront, stored]
      exact congrArg some ((congrArg (Function.update heap address) stored.symm).trans
        (Function.update_eq_self address heap))
    rw [idle, Option.bind_some, linked]
  · rw [linked, Option.bind_some,
      longer.linkFront_same]

/-- The registry after a session was created. -/
def added (registry : Registry) (session : Nat) (data : Session) (active : List Nat) : Registry where
  heap := inFront (Function.update registry.heap session (some ⟨⟨data, none⟩, none⟩)) session data active.head?
  table := Function.update registry.table (ftHashTransferId data.transferId) (some session)
  activeSessions := some session
  completedSessions := registry.completedSessions
  allocated := registry.allocated + 1

theorem dataOf_added (registry : Registry) (session : Nat) (data : Session) (active : List Nat)
    (address : Nat) :
    dataOf (added registry session data active).heap address =
      if address = session then some data else dataOf registry.heap address := by
  rw [added, dataOf_inFront]
  split
  · rfl
  · rename_i different
    rw [dataOf, Function.update_of_ne different, dataOf]

/-- The new cell holds the new session, and all other cells hold what they did. -/
theorem holds_added (registry : Registry) (session : Nat) (data : Session) (active : List Nat)
    (transferId : UInt64) (address : Nat) :
    Holds (added registry session data active).heap transferId address ↔
      if address = session then data.transferId = transferId else Holds registry.heap transferId address := by
  unfold Holds
  rw [dataOf_added]
  split
  · exact ⟨fun ⟨other, same, found⟩ => Option.some.inj same ▸ found, fun same => ⟨data, rfl, same⟩⟩
  · rfl

theorem added_table (registry : Registry) (session : Nat) (data : Session) (active : List Nat)
    (bucket : Nat) : (added registry session data active).table bucket =
      if bucket = ftHashTransferId data.transferId then some session else registry.table bucket :=
  Function.update_apply ..

/-- A free cell is in none of the lists. -/
theorem Kept.ne_of_free (kept : Kept registry book active completed) (session : Nat)
    (fresh : registry.heap session = none) : ∀ address ∈ active ++ completed, address ≠ session := by
  rintro address member rfl
  rcases List.mem_append.mp member with inside | inside
  · exact kept.actives.outside address fresh inside
  · exact kept.completeds.outside address fresh inside

/-- With a new identifier no two sessions share theirs. -/
theorem Kept.added_unique (kept : Kept registry book active completed) (session : Nat) (data : Session)
    (fresh : registry.heap session = none) (new : book.lookup data.transferId = none) (transferId : UInt64) :
    ∀ first ∈ session :: (active ++ completed), ∀ second ∈ session :: (active ++ completed),
      Holds (added registry session data active).heap transferId first →
        Holds (added registry session data active).heap transferId second → first = second := by
  have absent := (kept.lookup_eq_none_iff data.transferId).mp new
  have different := kept.ne_of_free session fresh
  intro first member second other holds same
  rw [holds_added] at holds same
  rcases List.mem_cons.mp member with start | inside <;>
    rcases List.mem_cons.mp other with again | there
  · rw [start, again]
  · rw [if_pos start] at holds
    rw [if_neg (different second there), ← holds] at same
    exact absurd same (absent second there)
  · rw [if_pos again] at same
    rw [if_neg (different first inside), ← same] at holds
    exact absurd holds (absent first inside)
  · rw [if_neg (different first inside)] at holds
    rw [if_neg (different second there)] at same
    exact kept.unique transferId first inside second there holds same

theorem Kept.added (kept : Kept registry book active completed) (session : Nat) (data : Session)
    (fresh : registry.heap session = none)
    (harmless : registry.table (ftHashTransferId data.transferId) = none ∨
      registry.table (ftHashTransferId data.transferId) = active.head?)
    (new : book.lookup data.transferId = none) :
    Kept (added registry session data active) { book with active := data :: book.active }
      (session :: active) completed := by
  have different := kept.ne_of_free session fresh
  have outside : session ∉ active ++ completed := fun member => different session member rfl
  have apart := List.nodup_append'.mp kept.distinct
  have others : ∀ address ∈ active ++ completed, ∀ transferId,
      Holds (FileTransfer.added registry session data active).heap transferId address ↔
        Holds registry.heap transferId address := by
    intro address member transferId
    rw [holds_added, if_neg (different address member)]
  have before : Segment (Function.update registry.heap session (some ⟨⟨data, none⟩, none⟩)) none active none :=
    kept.actives.congr fun address member =>
      Function.update_of_ne (different address (List.mem_append_left _ member)) ..
  exact {
    activeHead := rfl
    completedHead := kept.completedHead
    actives := (linkFront_twice session data none before apart.1
      (fun member => outside (List.mem_append_left _ member)) (Function.update_self ..) (.inl rfl)).2
    completeds := by
      refine kept.completeds.congr fun address member => ?_
      have other := different address (List.mem_append_right _ member)
      have elsewhere : address ∉ session :: active := by
        rw [List.mem_cons, not_or]
        exact ⟨other, fun inside => apart.2.2 inside member⟩
      show inFront _ session data active.head? address = _
      rw [inFront_other _ _ _ _ _ elsewhere, Function.update_of_ne other]
    distinct := List.nodup_cons.mpr ⟨outside, kept.distinct⟩
    bounded := Nat.succ_le_succ kept.bounded
    activeData := by
      rw [dataAt_cons_dataOf ((dataOf_added ..).trans (if_pos rfl)), ← kept.activeData]
      refine congrArg _ (dataAt_congr fun address member => ?_)
      rw [dataOf_added, if_neg (different address (List.mem_append_left _ member))]
    completedData := by
      rw [← kept.completedData]
      refine dataAt_congr fun address member => ?_
      rw [dataOf_added, if_neg (different address (List.mem_append_right _ member))]
    unique := kept.added_unique session data fresh new
    entries := by
      intro bucket entry starts
      rw [List.cons_append, List.mem_cons]
      rw [added_table] at starts
      split at starts
      · exact .inl (Option.some.inj starts).symm
      · exact .inr (kept.entries bucket entry starts)
    leads := by
      intro transferId address member holds
      rw [added_table]
      split
      · exact ⟨session, rfl, .head rfl member⟩
      · rename_i elsewhere
        have inside : address ∈ active := by
          rcases List.mem_cons.mp member with start | inside
          · rw [holds_added, if_pos start] at holds
            exact absurd (congrArg ftHashTransferId holds.symm) elsewhere
          · exact inside
        obtain ⟨entry, starts, ahead⟩ := kept.leads transferId address inside
          ((others address (List.mem_append_left _ inside) transferId).mp holds)
        exact ⟨entry, starts, ahead.cons session⟩
    own := by
      intro transferId address member holds
      have owned := kept.own transferId address member
        ((others address (List.mem_append_right _ member) transferId).mp holds)
      rw [added_table, if_neg]
      · exact owned
      · intro same
        rw [← same, owned] at harmless
        rcases harmless with missing | first
        · cases missing
        · exact apart.2.2 (List.mem_of_mem_head? first.symm) member }

/-- A new session joins the registry, or the call fails and changes nothing. -/
theorem ftCreateSession_kept (allocator : Allocator (Backlinked Session))
    (kept : Kept registry book active completed) (answers : CreateAnswers) (seed : Nat)
    (transferId : UInt64) (now : Int)
    (harmless : Harmless (some registry, book) (.create answers seed transferId now)) :
    ∃ code next cells, ftCreateSession allocator registry answers seed transferId now = some (code, next) ∧
      Kept next (book.record (.create answers seed transferId now) code) cells completed := by
  have unchanged : ∀ code, code ≠ .success →
      Kept registry (book.record (.create answers seed transferId now) code) active completed := by
    intro code failed
    cases code <;> first | exact absurd rfl failed | exact kept
  unfold ftCreateSession
  split
  · exact ⟨_, _, active, rfl, unchanged _ (by decide)⟩
  · split
    · exact ⟨_, _, active, rfl, unchanged _ (by decide)⟩
    · rename_i session given
      split
      · rename_i failed
        exact ⟨_, _, active, rfl, unchanged _ failed⟩
      · rename_i succeeds
        obtain ⟨entry, new⟩ := harmless registry rfl (by_contra succeeds)
        rw [kept.activeHead] at entry
        have fresh := allocator.fresh _ _ _ given
        have outside := kept.actives.outside session fresh
        have before : Segment (Function.update registry.heap session (some ⟨⟨⟨transferId, now⟩, none⟩, none⟩))
            none active none := kept.actives.congr fun address member => Function.update_of_ne
              (fun same : address = session => outside (same ▸ member)) ..
        have linked := (linkFront_twice session ⟨transferId, now⟩ (registry.table (ftHashTransferId transferId))
          before (List.nodup_append'.mp kept.distinct).1 outside (Function.update_self ..) entry).1
        refine ⟨.success, _, session :: active, ?_, kept.added session ⟨transferId, now⟩ fresh entry new⟩
        obtain ⟨heap, first, second⟩ := Option.bind_eq_some_iff.mp linked
        simp only [ftAddToSessionMap, Function.update_self, Option.bind_eq_bind, Option.bind_some, first,
          Option.pure_def, kept.activeHead, second]
        rfl

end Create

section Remove

variable {registry : Registry} {book : SessionBook} {active completed : List Nat}

namespace Kept

/-- The two lists as one looks at them from a session. -/
theorem around (kept : Kept registry book active completed) (front back : List Nat) (session : Nat)
    (split : active = front ++ session :: back ∨ completed = front ++ session :: back) :
    Segment registry.heap none (front ++ session :: back) none ∧ (front ++ session :: back).Nodup ∧
      session ∈ active ++ completed := by
  have apart := List.nodup_append'.mp kept.distinct
  have inside : session ∈ front ++ session :: back := List.mem_append_right _ (List.mem_cons_self ..)
  rcases split with split | split <;> rw [← split] at inside ⊢
  · exact ⟨kept.actives, apart.1, List.mem_append_left _ inside⟩
  · exact ⟨kept.completeds, apart.2.1, List.mem_append_right _ inside⟩

/-- The table's own unlinking bypasses the session in its list. -/
theorem removeFromMap (kept : Kept registry book active completed) (transferId : UInt64)
    (front back : List Nat) (session : Nat)
    (split : active = front ++ session :: back ∨ completed = front ++ session :: back)
    (holds : Holds registry.heap transferId session) :
    ftRemoveFromSessionMap registry transferId = some (.success, { registry with
      heap := bypassed registry.heap front back
      table := Function.update registry.table (ftHashTransferId transferId)
        (if front = [] then back.head? else registry.table (ftHashTransferId transferId)) }) := by
  obtain ⟨segment, -, member⟩ := kept.around front back session split
  obtain ⟨cell, stored⟩ := segment.live session (List.mem_append_right _ (List.mem_cons_self ..))
  unfold ftRemoveFromSessionMap
  simp only [kept.find_present transferId session member holds, Option.bind_eq_bind, Option.bind_some, stored,
    segment.unlinkCell cell stored, Option.pure_def]

theorem removeFromMap_absent (kept : Kept registry book active completed) (transferId : UInt64)
    (absent : ∀ address ∈ active ++ completed, ¬ Holds registry.heap transferId address) :
    ftRemoveFromSessionMap registry transferId = some (.transferNotFound, registry) := by
  unfold ftRemoveFromSessionMap
  simp only [kept.find_absent transferId absent, Option.bind_eq_bind, Option.bind_some, Option.pure_def]

/-- The data of a list without the session, if the other cells keep theirs. -/
theorem erased_data (kept : Kept registry book active completed) (transferId : UInt64) (session : Nat)
    (member : session ∈ active ++ completed) (holds : Holds registry.heap transferId session)
    (heap : Heap (Backlinked Session))
    (same : ∀ address, address ≠ session → dataOf heap address = dataOf registry.heap address)
    (cells : List Nat) (within : ∀ address ∈ cells, address ∈ active ++ completed) :
    dataAt heap (cells.filter (· ≠ session)) =
      (dataAt registry.heap cells).filter fun session => session.transferId ≠ transferId := by
  rw [dataAt_eq_filterMap, dataAt_eq_filterMap, List.filterMap_filter, List.filter_filterMap]
  refine List.filterMap_congr fun address there => ?_
  obtain ⟨data, found⟩ := kept.holds address (within address there)
  by_cases here : address = session
  · obtain ⟨other, known, matching⟩ := holds
    rw [here, known, Option.filter_some, if_neg (by simp), if_neg (by simp [matching])]
  · have foreign : data.transferId ≠ transferId := by
      intro matching
      exact here (kept.unique transferId address (within address there) session member
        ⟨data, found, matching⟩ holds)
    rw [same address here, found, Option.filter_some, if_pos (by simp [here]), if_pos (by simp [foreign])]

/-- A session leaves its list, and every bucket that started elsewhere stays as it is. -/
theorem dropped (kept : Kept registry book active completed) (transferId : UInt64) (session : Nat)
    (member : session ∈ active ++ completed) (holds : Holds registry.heap transferId session)
    (next : Registry) (activeHead : next.activeSessions = (active.filter (· ≠ session)).head?)
    (completedHead : next.completedSessions = (completed.filter (· ≠ session)).head?)
    (actives : Segment next.heap none (active.filter (· ≠ session)) none)
    (completeds : Segment next.heap none (completed.filter (· ≠ session)) none)
    (allocated : next.allocated = registry.allocated)
    (same : ∀ address, address ≠ session → dataOf next.heap address = dataOf registry.heap address)
    (entries : ∀ bucket entry, next.table bucket = some entry → entry ≠ session ∧ entry ∈ active ++ completed)
    (elsewhere : ∀ bucket entry, registry.table bucket = some entry → entry ≠ session →
      next.table bucket = some entry)
    (moved : ∀ bucket, registry.table bucket = some session → ∀ other ∈ active.filter (· ≠ session),
      Ahead active session other → ∃ entry, next.table bucket = some entry ∧
        Ahead (active.filter (· ≠ session)) entry other) :
    Kept next (book.erase transferId) (active.filter (· ≠ session)) (completed.filter (· ≠ session)) := by
  have remaining : active.filter (· ≠ session) ++ completed.filter (· ≠ session) =
      (active ++ completed).filter (· ≠ session) := (List.filter_append ..).symm
  have inside : ∀ address, address ∈ (active ++ completed).filter (· ≠ session) →
      address ∈ active ++ completed ∧ address ≠ session := by
    intro address there
    obtain ⟨here, other⟩ := List.mem_filter.mp there
    exact ⟨here, of_decide_eq_true other⟩
  have others : ∀ address, address ≠ session → ∀ transferId,
      (Holds next.heap transferId address ↔ Holds registry.heap transferId address) :=
    fun address different => holds_congr (same address different)
  have data := kept.erased_data transferId session member holds next.heap same
  exact {
    activeHead := activeHead
    completedHead := completedHead
    actives := actives
    completeds := completeds
    distinct := by
      rw [remaining]
      exact kept.distinct.filter _
    bounded := by
      rw [remaining, allocated]
      exact Nat.le_trans (List.length_filter_le ..) kept.bounded
    activeData := by
      rw [data active fun address there => List.mem_append_left _ there, kept.activeData]
      rfl
    completedData := by
      rw [data completed fun address there => List.mem_append_right _ there, kept.completedData]
      rfl
    unique := by
      rw [remaining]
      intro transferId first here second there one two
      obtain ⟨here, other⟩ := inside first here
      obtain ⟨there, another⟩ := inside second there
      exact kept.unique transferId first here second there ((others first other transferId).mp one)
        ((others second another transferId).mp two)
    entries := by
      intro bucket entry starts
      rw [remaining]
      obtain ⟨different, there⟩ := entries bucket entry starts
      exact List.mem_filter.mpr ⟨there, decide_eq_true different⟩
    leads := by
      intro transferId other there present
      obtain ⟨here, different⟩ := List.mem_filter.mp there
      have apart := of_decide_eq_true different
      obtain ⟨entry, starts, ahead⟩ := kept.leads transferId other here
        ((others other apart transferId).mp present)
      by_cases first : entry = session
      · subst first
        exact moved _ starts other there ahead
      · exact ⟨entry, elsewhere _ entry starts first, ahead.filter first apart⟩
    own := by
      intro transferId other there present
      obtain ⟨here, different⟩ := List.mem_filter.mp there
      have apart := of_decide_eq_true different
      exact elsewhere _ other (kept.own transferId other here ((others other apart transferId).mp present))
        apart }

/-- What is left of the two lists without one of their sessions. -/
theorem without (kept : Kept registry book active completed) (front back : List Nat) (session : Nat)
    (split : active = front ++ session :: back ∨ completed = front ++ session :: back) :
    (active = front ++ session :: back ∧ active.filter (· ≠ session) = front ++ back ∧
        completed.filter (· ≠ session) = completed ∧ session ∉ completed) ∨
      (completed = front ++ session :: back ∧ completed.filter (· ≠ session) = front ++ back ∧
        active.filter (· ≠ session) = active ∧ session ∉ active) := by
  have apart := List.nodup_append'.mp kept.distinct
  have alone (cells : List Nat) (outside : session ∉ cells) : cells.filter (· ≠ session) = cells := by
    rw [List.filter_eq_self]
    rintro address member
    exact decide_eq_true fun same => outside (same ▸ member)
  have middle (distinct : (front ++ session :: back).Nodup) :
      (front ++ session :: back).filter (· ≠ session) = front ++ back := by
    rw [List.nodup_middle, List.nodup_cons, List.mem_append, not_or] at distinct
    rw [List.filter_append, List.filter_cons_of_neg (by simp), alone front distinct.1.1,
      alone back distinct.1.2]
  rcases split with rfl | rfl
  · have outside : session ∉ completed := fun inside =>
      apart.2.2 (List.mem_append_right _ (List.mem_cons_self ..)) inside
    exact .inl ⟨rfl, middle apart.1, alone completed outside, outside⟩
  · have outside : session ∉ active := fun inside =>
      apart.2.2 inside (List.mem_append_right _ (List.mem_cons_self ..))
    exact .inr ⟨rfl, middle apart.2.1, alone active outside, outside⟩

theorem without_active (kept : Kept registry book active completed) (front back : List Nat) (session : Nat)
    (split : active = front ++ session :: back) :
    active.filter (· ≠ session) = front ++ back ∧ completed.filter (· ≠ session) = completed ∧
      session ∉ completed := by
  rcases kept.without front back session (.inl split) with ⟨-, rest⟩ | ⟨-, -, -, missing⟩
  · exact rest
  · exact absurd (split ▸ List.mem_append_right _ (List.mem_cons_self ..)) missing

theorem without_completed (kept : Kept registry book active completed) (front back : List Nat)
    (session : Nat) (split : completed = front ++ session :: back) :
    completed.filter (· ≠ session) = front ++ back ∧ active.filter (· ≠ session) = active ∧
      session ∉ active := by
  rcases kept.without front back session (.inr split) with ⟨-, -, -, missing⟩ | ⟨-, rest⟩
  · exact absurd (split ▸ List.mem_append_right _ (List.mem_cons_self ..)) missing
  · exact rest

/-- Bypassing a session keeps both lists apart from it. -/
theorem bypass (kept : Kept registry book active completed) (front back : List Nat) (session : Nat)
    (split : active = front ++ session :: back ∨ completed = front ++ session :: back) :
    Segment (bypassed registry.heap front back) none (active.filter (· ≠ session)) none ∧
      Segment (bypassed registry.heap front back) none (completed.filter (· ≠ session)) none := by
  obtain ⟨segment, distinct, -⟩ := kept.around front back session split
  have apart := List.nodup_append'.mp kept.distinct
  have within : ∀ address ∈ front ++ back, address ∈ front ++ session :: back := by
    intro address member
    exact (List.mem_append.mp member).elim (fun first => List.mem_append_left _ first)
      (fun last => List.mem_append_right _ (List.mem_cons_of_mem _ last))
  rcases kept.without front back session split with ⟨whole, rest, same, -⟩ | ⟨whole, rest, same, -⟩
  · rw [rest, same]
    refine ⟨segment.bypass distinct, kept.completeds.congr fun address member => ?_⟩
    exact bypassed_other _ _ _ _ fun inside => apart.2.2 (whole ▸ within address inside) member
  · rw [rest, same]
    refine ⟨kept.actives.congr fun address member => ?_, segment.bypass distinct⟩
    exact bypassed_other _ _ _ _ fun inside => apart.2.2 member (whole ▸ within address inside)

/-- The first session of a list is freed, and its own bucket goes on with the next one. -/
theorem freed (kept : Kept registry book active completed) (transferId : UInt64) (session : Nat)
    (back : List Nat) (split : active = session :: back ∨ completed = session :: back)
    (holds : Holds registry.heap transferId session)
    (owned : registry.table (ftHashTransferId transferId) = some session)
    (only : ∀ bucket, registry.table bucket = some session → bucket = ftHashTransferId transferId) :
    Kept ⟨Function.update (bypassed registry.heap [] back) session none,
        Function.update registry.table (ftHashTransferId transferId) back.head?,
        (active.filter (· ≠ session)).head?, (completed.filter (· ≠ session)).head?, registry.allocated⟩
      (book.erase transferId) (active.filter (· ≠ session)) (completed.filter (· ≠ session)) := by
  obtain ⟨segment, distinct, member⟩ := kept.around [] back session split
  obtain ⟨actives, completeds⟩ := kept.bypass [] back session split
  have outside : session ∉ back := (List.nodup_cons.mp distinct).1
  have untouched (cells : List Nat) : ∀ address ∈ cells.filter (· ≠ session),
      Function.update (bypassed registry.heap [] back) session none address =
        bypassed registry.heap [] back address := by
    intro address there
    exact Function.update_of_ne (of_decide_eq_true (List.mem_filter.mp there).2) ..
  have within : ∀ address ∈ back, address ∈ active ++ completed := by
    intro address there
    rcases split with rfl | rfl
    · exact List.mem_append_left _ (List.mem_cons_of_mem _ there)
    · exact List.mem_append_right _ (List.mem_cons_of_mem _ there)
  refine kept.dropped transferId session member holds _ rfl rfl (actives.congr (untouched active))
    (completeds.congr (untouched completed)) rfl ?_ ?_ ?_ ?_
  · intro address different
    dsimp only
    rw [dataOf, Function.update_of_ne different, ← dataOf, dataOf_bypassed]
  · intro bucket entry starts
    dsimp only at starts
    rw [Function.update_apply] at starts
    split at starts
    · have there := List.mem_of_mem_head? starts
      exact ⟨fun same => outside (same ▸ there), within entry there⟩
    · rename_i elsewhere
      exact ⟨fun same => elsewhere (only bucket (same ▸ starts)), kept.entries bucket entry starts⟩
  · intro bucket entry starts different
    dsimp only
    rw [Function.update_of_ne]
    · exact starts
    · rintro rfl
      rw [owned] at starts
      exact different (Option.some.inj starts).symm
  · intro bucket starts other there ahead
    obtain rfl := only bucket starts
    dsimp only
    rw [Function.update_self]
    rcases kept.without [] back session split with ⟨-, rest, -⟩ | ⟨-, -, same, absent⟩
    · rw [rest, List.nil_append] at there ⊢
      cases back with
      | nil => cases there
      | cons entry later => exact ⟨entry, rfl, .head rfl there⟩
    · rw [same] at there
      rcases ahead with rfl | pair
      · exact absurd there absent
      · exact absurd (pair.subset (List.mem_cons_self ..)) absent

/-- A session behind the first one is only bypassed, and it is never freed. -/
theorem leaked (kept : Kept registry book active completed) (transferId : UInt64) (session : Nat)
    (front back : List Nat) (split : active = front ++ session :: back) (inner : front ≠ [])
    (holds : Holds registry.heap transferId session)
    (unused : ∀ bucket, registry.table bucket ≠ some session) :
    Kept { registry with heap := bypassed registry.heap front back } (book.erase transferId)
      (active.filter (· ≠ session)) (completed.filter (· ≠ session)) := by
  obtain ⟨-, -, member⟩ := kept.around front back session (.inl split)
  obtain ⟨actives, completeds⟩ := kept.bypass front back session (.inl split)
  obtain ⟨rest, same, -⟩ := kept.without_active front back session split
  refine kept.dropped transferId session member holds _ ?_ ?_ actives completeds rfl ?_ ?_ ?_ ?_
  · rw [rest, kept.activeHead, split]
    cases front with
    | nil => exact absurd rfl inner
    | cons first front => rfl
  · rw [same]
    exact kept.completedHead
  · exact fun address _ => dataOf_bypassed _ _ _ _
  · intro bucket entry starts
    exact ⟨fun same => unused bucket (same ▸ starts), kept.entries bucket entry starts⟩
  · exact fun bucket entry starts _ => starts
  · exact fun bucket starts => absurd starts (unused bucket)

end Kept

/-- A session that no bucket leads to is freed. -/
theorem ftDestroySession_freed (registry : Registry) (session : Nat) (cell : Cell (Backlinked Session))
    (back : List Nat) (stored : registry.heap session = some cell)
    (segment : Segment registry.heap none back none)
    (starts : registry.table (ftHashTransferId cell.value.data.transferId) = back.head?)
    (enough : back.length ≤ registry.allocated)
    (absent : ∀ address ∈ back, ¬ Holds registry.heap cell.value.data.transferId address) :
    ftDestroySession registry session =
      some { registry with heap := Function.update registry.heap session none } := by
  have missing : ftFindInSessionMap registry cell.value.data.transferId = some none := by
    unfold ftFindInSessionMap
    rw [starts]
    exact findSession_absent segment.forwards _ _ enough absent
  unfold ftDestroySession ftRemoveFromSessionMap
  simp only [stored, missing, Option.bind_eq_bind, Option.bind_some, Option.pure_def]

namespace Kept

/-- The first session of a list and what the heap looks like once it is bypassed. -/
theorem first (kept : Kept registry book active completed) (transferId : UInt64) (session : Nat)
    (back : List Nat) (split : active = session :: back ∨ completed = session :: back)
    (holds : Holds registry.heap transferId session) :
    ∃ data, data.transferId = transferId ∧
      bypassed registry.heap [] back session = some ⟨⟨data, none⟩, back.head?⟩ ∧
      Segment (bypassed registry.heap [] back) none back none ∧ back.length < registry.allocated ∧
      ∀ address ∈ back, ¬ Holds (bypassed registry.heap [] back) transferId address := by
  obtain ⟨segment, distinct, member⟩ := kept.around [] back session split
  have outside : session ∉ back := (List.nodup_cons.mp distinct).1
  obtain ⟨data, stored⟩ := segment.neighbours
  obtain ⟨other, found, same⟩ := holds
  rw [dataOf, stored] at found
  obtain rfl := Option.some.inj found
  refine ⟨data, same, ?_, segment.bypass distinct, ?_, ?_⟩
  · rw [bypassed_other _ _ _ _ (by rwa [List.nil_append])]
    exact stored
  · have bound := kept.bounded
    rw [List.length_append] at bound
    rcases split with rfl | rfl <;> rw [List.length_cons] at bound <;> omega
  · rintro address there ⟨another, holding, matching⟩
    rw [dataOf_bypassed] at holding
    have within : address ∈ active ++ completed := by
      rcases split with rfl | rfl
      · exact List.mem_append_left _ (List.mem_cons_of_mem _ there)
      · exact List.mem_append_right _ (List.mem_cons_of_mem _ there)
    have equal := kept.unique transferId address within session member ⟨another, holding, matching⟩
      ⟨data, by rw [dataOf, stored]; rfl, same⟩
    exact outside (equal ▸ there)

/-- The walk over a list finds its first session at once. -/
theorem findSession_first {heap : Heap (Backlinked Session)} {transferId : UInt64} {session fuel : Nat}
    {cell : Cell (Backlinked Session)} (stored : heap session = some cell)
    (same : cell.value.data.transferId = transferId) (enough : 0 < fuel) :
    findSession heap transferId fuel (some session) = some (some session) := by
  cases fuel with
  | zero => cases enough
  | succ fuel =>
      rw [findSession, stored]
      exact if_pos same

/-- The first session of a list is freed once it is bypassed and its bucket has gone on. -/
theorem destroy_first (kept : Kept registry book active completed) (transferId : UInt64) (session : Nat)
    (back : List Nat) (split : active = session :: back ∨ completed = session :: back)
    (holds : Holds registry.heap transferId session) (activeSessions completedSessions : Option Nat) :
    ftDestroySession ⟨bypassed registry.heap [] back,
        Function.update registry.table (ftHashTransferId transferId) back.head?, activeSessions,
        completedSessions, registry.allocated⟩ session =
      some ⟨Function.update (bypassed registry.heap [] back) session none,
        Function.update registry.table (ftHashTransferId transferId) back.head?, activeSessions,
        completedSessions, registry.allocated⟩ := by
  obtain ⟨data, rfl, stored, segment, enough, absent⟩ := kept.first transferId session back split holds
  exact ftDestroySession_freed ⟨bypassed registry.heap [] back,
    Function.update registry.table (ftHashTransferId data.transferId) back.head?, activeSessions,
    completedSessions, registry.allocated⟩ session _ back stored segment (Function.update_self ..)
    (Nat.le_of_lt enough) absent

/-- Removing the first session of the active list frees it. -/
theorem remove_firstActive (kept : Kept registry book active completed) (transferId : UInt64) (session : Nat)
    (back : List Nat) (split : active = session :: back) (holds : Holds registry.heap transferId session)
    (only : ∀ bucket, registry.table bucket = some session → bucket = ftHashTransferId transferId) :
    ∃ next, ftRemoveSession registry transferId = some (.success, next) ∧
      Kept next (book.erase transferId) (active.filter (· ≠ session)) (completed.filter (· ≠ session)) := by
  obtain ⟨-, distinct, -⟩ := kept.around [] back session (.inl split)
  obtain ⟨data, same, stored, segment, enough, absent⟩ := kept.first transferId session back (.inl split) holds
  have owned : registry.table (ftHashTransferId transferId) = some session := by
    obtain ⟨entry, starts, ahead⟩ := kept.leads transferId session (split ▸ List.mem_cons_self ..) holds
    rw [split] at ahead
    rw [starts, ahead.eq_head distinct]
  have freed := kept.freed transferId session back (.inl split) holds owned only
  have head : registry.activeSessions = some session := by rw [kept.activeHead, split]; rfl
  have found := findSession_first stored same (Nat.lt_of_le_of_lt (Nat.zero_le _) enough)
  obtain ⟨rest, whole, -⟩ := kept.without_active [] back session split
  refine ⟨_, ?_, freed⟩
  rw [rest, whole, ← kept.completedHead, List.nil_append]
  unfold ftRemoveSession
  simp only [kept.removeFromMap transferId [] back session (.inl split) holds, Option.bind_eq_bind,
    Option.bind_some, ne_eq, not_true_eq_false, if_false, head, found, stored, if_true,
    segment.unlinkCell_again, kept.destroy_first transferId session back (.inl split) holds, Option.pure_def]

/-- Removing the first session of the completed list frees it. -/
theorem remove_firstCompleted (kept : Kept registry book active completed) (transferId : UInt64)
    (session : Nat) (back : List Nat) (split : completed = session :: back)
    (holds : Holds registry.heap transferId session)
    (only : ∀ bucket, registry.table bucket = some session → bucket = ftHashTransferId transferId) :
    ∃ next, ftRemoveSession registry transferId = some (.success, next) ∧
      Kept next (book.erase transferId) (active.filter (· ≠ session)) (completed.filter (· ≠ session)) := by
  obtain ⟨-, -, member⟩ := kept.around [] back session (.inr split)
  obtain ⟨data, same, stored, segment, enough, absent⟩ := kept.first transferId session back (.inr split) holds
  have owned := kept.own transferId session (split ▸ List.mem_cons_self ..) holds
  have freed := kept.freed transferId session back (.inr split) holds owned only
  have head : registry.completedSessions = some session := by rw [kept.completedHead, split]; rfl
  have found := findSession_first stored same (Nat.lt_of_le_of_lt (Nat.zero_le _) enough)
  obtain ⟨rest, whole, outside⟩ := kept.without_completed [] back session split
  have elsewhere : findSession (bypassed registry.heap [] back) transferId registry.allocated
      active.head? = some none := by
    have actives := (kept.bypass [] back session (.inr split)).1
    rw [whole] at actives
    refine findSession_absent actives.forwards transferId _ ?_ ?_
    · have bound := kept.bounded
      rw [List.length_append] at bound
      omega
    · intro address there holding
      rw [holds_congr (dataOf_bypassed ..)] at holding
      have equal := kept.unique transferId address (List.mem_append_left _ there) session member holding holds
      exact outside (equal ▸ there)
  refine ⟨_, ?_, freed⟩
  rw [rest, whole, List.nil_append]
  unfold ftRemoveSession
  simp only [kept.removeFromMap transferId [] back session (.inr split) holds, Option.bind_eq_bind,
    Option.bind_some, ne_eq, not_true_eq_false, if_false, kept.activeHead, elsewhere, head, found, stored,
    if_true, segment.unlinkCell_again, kept.destroy_first transferId session back (.inr split) holds,
    Option.pure_def]

/-- Removing a session behind the first one of the active list bypasses it. -/
theorem remove_inner (kept : Kept registry book active completed) (transferId : UInt64) (session : Nat)
    (front back : List Nat) (split : active = front ++ session :: back) (inner : front ≠ [])
    (holds : Holds registry.heap transferId session)
    (unused : ∀ bucket, registry.table bucket ≠ some session) :
    ∃ next, ftRemoveSession registry transferId = some (.success, next) ∧
      Kept next (book.erase transferId) (active.filter (· ≠ session)) (completed.filter (· ≠ session)) := by
  have leaked := kept.leaked transferId session front back split inner holds unused
  have bound := leaked.bounded
  rw [List.length_append] at bound
  obtain ⟨-, -, member⟩ := kept.around front back session (.inl split)
  have gone : ∀ cells : List Nat, (∀ address ∈ cells, address ∈ active ++ completed) →
      ∀ address ∈ cells.filter (· ≠ session),
        ¬ Holds (bypassed registry.heap front back) transferId address := by
    rintro cells within address there ⟨other, holding, matching⟩
    rw [dataOf_bypassed] at holding
    obtain ⟨inside, different⟩ := List.mem_filter.mp there
    exact of_decide_eq_true different (kept.unique transferId address (within address inside) session member
      ⟨other, holding, matching⟩ holds)
  have first := findSession_absent leaked.actives.forwards transferId registry.allocated
    (by dsimp only at bound; omega) (gone active fun address inside => List.mem_append_left _ inside)
  have second := findSession_absent leaked.completeds.forwards transferId registry.allocated
    (by dsimp only at bound; omega) (gone completed fun address inside => List.mem_append_right _ inside)
  rw [← leaked.activeHead] at first
  rw [← leaked.completedHead] at second
  refine ⟨_, ?_, leaked⟩
  dsimp only at first second
  unfold ftRemoveSession
  simp only [kept.removeFromMap transferId front back session (.inl split) holds, Option.bind_eq_bind,
    Option.bind_some, ne_eq, not_true_eq_false, if_false, inner, Function.update_eq_self, first, second,
    Option.pure_def]

/-- A harmless removal takes out exactly the session, or finds that there is none. -/
theorem remove (kept : Kept registry book active completed) (transferId : UInt64)
    (removable : Removable registry transferId) :
    ∃ code next cells others, ftRemoveSession registry transferId = some (code, next) ∧
      Kept next (book.record (.remove transferId) code) cells others := by
  by_cases live : ∃ session ∈ active ++ completed, Holds registry.heap transferId session
  · obtain ⟨session, member, holds⟩ := live
    have guarded (front back : List Nat)
        (split : active = front ++ session :: back ∨ completed = front ++ session :: back) (bucket : Nat)
        (starts : registry.table bucket = some session) :
        bucket = ftHashTransferId transferId ∧ front = [] := by
      obtain ⟨segment, -, -⟩ := kept.around front back session split
      obtain ⟨data, stored⟩ := segment.neighbours
      obtain ⟨own, first⟩ := removable session _ (kept.find_present transferId session member holds) stored
        bucket starts
      exact ⟨own, List.getLast?_eq_none_iff.mp first⟩
    have removed : ∃ next, ftRemoveSession registry transferId = some (.success, next) ∧
        Kept next (book.erase transferId) (active.filter (· ≠ session)) (completed.filter (· ≠ session)) := by
      rcases List.mem_append.mp member with inside | inside
      · obtain ⟨front, back, split⟩ := List.append_of_mem inside
        by_cases first : front = []
        · subst first
          exact kept.remove_firstActive transferId session back split holds
            fun bucket starts => (guarded [] back (.inl split) bucket starts).1
        · exact kept.remove_inner transferId session front back split first holds
            fun bucket starts => first (guarded front back (.inl split) bucket starts).2
      · obtain ⟨front, back, split⟩ := List.append_of_mem inside
        obtain ⟨-, rfl⟩ := guarded front back (.inr split) _ (kept.own transferId session inside holds)
        exact kept.remove_firstCompleted transferId session back split holds
          fun bucket starts => (guarded [] back (.inr split) bucket starts).1
    obtain ⟨next, done, rest⟩ := removed
    exact ⟨.success, next, _, _, done, rest⟩
  · have absent : ∀ address ∈ active ++ completed, ¬ Holds registry.heap transferId address :=
      fun address member holds => live ⟨address, member, holds⟩
    refine ⟨.transferNotFound, registry, active, completed, ?_, kept⟩
    unfold ftRemoveSession
    simp only [kept.removeFromMap_absent transferId absent, Option.bind_eq_bind, Option.bind_some]
    rfl

end Kept

end Remove

end SecureChat.FileTransfer
