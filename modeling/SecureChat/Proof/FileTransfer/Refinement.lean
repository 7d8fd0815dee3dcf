import SecureChat.Proof.FileTransfer.Registry

namespace SecureChat.FileTransfer
open Library

variable {registry : Registry} {book : SessionBook} {active completed : List Nat}

namespace Kept

/-- The heap after a session was moved from the active list to the front of the completed one. -/
def movedHeap (registry : Registry) (front back completed : List Nat) (session : Nat)
    (cell : Cell (Backlinked Session)) (data : Session) : Heap (Backlinked Session) :=
  inFront (Function.update (bypassed registry.heap front back) session
    (some { cell with value := { cell.value with data := data } })) session data completed.head?

theorem dataOf_movedHeap (registry : Registry) (front back completed : List Nat) (session : Nat)
    (cell : Cell (Backlinked Session)) (data : Session) (address : Nat) :
    dataOf (movedHeap registry front back completed session cell data) address =
      if address = session then some data else dataOf registry.heap address := by
  rw [movedHeap, dataOf_inFront]
  split
  · rfl
  · rename_i different
    rw [dataOf, Function.update_of_ne different, ← dataOf, dataOf_bypassed]

/-- The links of both lists after a session was moved. -/
theorem moved_links (kept : Kept registry book active completed) (session : Nat) (front back : List Nat)
    (cell : Cell (Backlinked Session)) (data : Session) (split : active = front ++ session :: back) :
    linkFront (Function.update (bypassed registry.heap front back) session
        (some { cell with value := { cell.value with data := data } })) session completed.head? =
      some (movedHeap registry front back completed session cell data) ∧
    Segment (movedHeap registry front back completed session cell data) none
      (active.filter (· ≠ session)) none ∧
    Segment (movedHeap registry front back completed session cell data) none (session :: completed) none := by
  obtain ⟨actives, completeds⟩ := kept.bypass front back session (.inl split)
  have apart := List.nodup_append'.mp kept.distinct
  obtain ⟨-, whole, outside⟩ := kept.without_active front back session split
  rw [whole] at completeds
  have touched : Segment (Function.update (bypassed registry.heap front back) session
      (some { cell with value := { cell.value with data := data } })) none completed none :=
    completeds.congr fun address there =>
      Function.update_of_ne (fun same : address = session => outside (same ▸ there)) ..
  obtain ⟨linked, longer⟩ := touched.linkFront apart.2.1 session outside _ (Function.update_self ..)
  refine ⟨linked, actives.congr fun address there => ?_, longer⟩
  obtain ⟨inside, different⟩ := List.mem_filter.mp there
  have other := of_decide_eq_true different
  rw [movedHeap, inFront_other, Function.update_of_ne other]
  rw [List.mem_cons, not_or]
  exact ⟨other, fun shared => apart.2.2 inside shared⟩

/-- A failed session leaves the active list and is found through its own bucket. -/
theorem moved (kept : Kept registry book active completed) (transferId : UInt64) (now : Int) (session : Nat)
    (front back : List Nat) (cell : Cell (Backlinked Session)) (split : active = front ++ session :: back)
    (holds : Holds registry.heap transferId session)
    (owned : ∀ bucket, registry.table bucket = some session ↔ bucket = ftHashTransferId transferId)
    (alone : ∀ other ∈ book.active, other.transferId ≠ transferId →
      ftHashTransferId other.transferId ≠ ftHashTransferId transferId) :
    Kept { registry with
        heap := movedHeap registry front back completed session cell ⟨transferId, now⟩
        activeSessions := (front ++ back).head?
        completedSessions := some session }
      (book.fail transferId now) (active.filter (· ≠ session)) (session :: completed) := by
  obtain ⟨-, -, member⟩ := kept.around front back session (.inl split)
  obtain ⟨-, actives, completeds⟩ := kept.moved_links session front back cell ⟨transferId, now⟩ split
  have inside : session ∈ active := split ▸ List.mem_append_right _ (List.mem_cons_self ..)
  have apart := List.nodup_append'.mp kept.distinct
  obtain ⟨rest, -, outside⟩ := kept.without_active front back session split
  have data := dataOf_movedHeap registry front back completed session cell ⟨transferId, now⟩
  have same : ∀ id address, Holds (movedHeap registry front back completed session cell ⟨transferId, now⟩)
      id address ↔ Holds registry.heap id address := by
    intro id address
    unfold Holds
    rw [data]
    split
    · rename_i here
      obtain ⟨old, found, matching⟩ := holds
      rw [here, found]
      simp [matching]
    · rfl
  have members : ∀ address, address ∈ active.filter (· ≠ session) ++ session :: completed ↔
      address ∈ active ++ completed := by
    intro address
    by_cases here : address = session
    · subst here
      simp [inside]
    · simp [here]
  have present : book.active.any fun other => other.transferId = transferId := by
    obtain ⟨old, found, matching⟩ := holds
    have listed := (kept.mem_active old).mpr ⟨session, inside, found⟩
    exact List.any_eq_true.mpr ⟨old, listed, decide_eq_true matching⟩
  have shorter : (active.filter (· ≠ session)).length + 1 = active.length := by
    rw [rest, split, List.length_append, List.length_append, List.length_cons]
    omega
  rw [SessionBook.fail, if_pos present]
  exact {
    activeHead := by rw [rest]
    completedHead := rfl
    actives := actives
    completeds := completeds
    distinct := by
      refine List.nodup_append'.mpr ⟨apart.1.filter _, List.nodup_cons.mpr ⟨outside, apart.2.1⟩, ?_⟩
      intro address first second
      obtain ⟨here, different⟩ := List.mem_filter.mp first
      rcases List.mem_cons.mp second with start | later
      · exact of_decide_eq_true different start
      · exact apart.2.2 here later
    bounded := by
      have bound := kept.bounded
      rw [List.length_append] at bound
      rw [List.length_append, List.length_cons]
      dsimp only
      omega
    activeData := by
      rw [kept.erased_data transferId session member holds _ (fun address different => by
        rw [data, if_neg different]) active (fun address here => List.mem_append_left _ here),
        kept.activeData]
    completedData := by
      rw [dataAt_cons_dataOf ((data session).trans (if_pos rfl)), ← kept.completedData]
      refine congrArg _ (dataAt_congr fun address here => ?_)
      rw [data, if_neg fun start : address = session => outside (start ▸ here)]
    unique := by
      intro id first here second there one two
      exact kept.unique id first ((members first).mp here) second ((members second).mp there)
        ((same id first).mp one) ((same id second).mp two)
    entries := fun bucket entry starts => (members entry).mpr (kept.entries bucket entry starts)
    leads := by
      intro id other there holding
      obtain ⟨here, different⟩ := List.mem_filter.mp there
      have foreign := of_decide_eq_true different
      rw [same] at holding
      obtain ⟨entry, starts, ahead⟩ := kept.leads id other here holding
      refine ⟨entry, starts, ahead.filter ?_ foreign⟩
      rintro rfl
      obtain ⟨old, found, rfl⟩ := holding
      refine alone old ((kept.mem_active old).mpr ⟨other, here, found⟩) ?_ ((owned _).mp starts)
      intro matching
      exact foreign (kept.unique transferId other (List.mem_append_left _ here) entry member
        ⟨old, found, matching⟩ holds)
    own := by
      intro id address there holding
      rw [same] at holding
      rcases List.mem_cons.mp there with rfl | later
      · obtain ⟨old, found, matching⟩ := holds
        obtain ⟨other, again, rfl⟩ := holding
        obtain rfl := Option.some.inj (found.symm.trans again)
        exact (owned _).mpr (congrArg ftHashTransferId matching)
      · exact kept.own id address later holding }

/-- A harmless failure moves exactly the failed session. -/
theorem fail (kept : Kept registry book active completed) (transferId : UInt64) (now : Int)
    (harmless : Harmless (some registry, book) (.fail transferId now)) :
    ∃ next cells others, moveToCompleted registry transferId now = some next ∧
      Kept next (book.fail transferId now) cells others := by
  have bound := kept.bounded
  rw [List.length_append] at bound
  by_cases live : ∃ session ∈ active, Holds registry.heap transferId session
  · obtain ⟨session, inside, holds⟩ := live
    obtain ⟨front, back, split⟩ := List.append_of_mem inside
    have found : findSession registry.heap transferId registry.allocated registry.activeSessions =
        some (some session) := by
      rw [kept.activeHead]
      refine findSession_present kept.actives.forwards transferId _ (by omega) session inside holds ?_
      exact fun address there same => kept.unique transferId address (List.mem_append_left _ there) session
        (List.mem_append_left _ inside) same holds
    obtain ⟨owned, alone⟩ := harmless registry rfl session found
    obtain ⟨segment, -, -⟩ := kept.around front back session (.inl split)
    obtain ⟨cell, stored⟩ := kept.actives.live session inside
    have named : cell.value.data.transferId = transferId := by
      obtain ⟨data, there, same⟩ := holds
      rw [dataOf, stored] at there
      obtain rfl := Option.some.inj there
      exact same
    obtain ⟨linked, -⟩ := kept.moved_links session front back cell ⟨transferId, now⟩ split
    have head : (if front = [] then back.head? else registry.activeSessions) = (front ++ back).head? := by
      rw [kept.activeHead, split]
      cases front <;> rfl
    refine ⟨_, _, _, ?_, kept.moved transferId now session front back cell split holds owned alone⟩
    unfold moveToCompleted
    simp only [found, Option.bind_eq_bind, Option.bind_some, stored, segment.unlinkCell cell stored,
      head, kept.completedHead, named, linked, Option.pure_def]
  · have missing : findSession registry.heap transferId registry.allocated registry.activeSessions =
        some none := by
      rw [kept.activeHead]
      exact findSession_absent kept.actives.forwards transferId _ (by omega)
        fun address there holds => live ⟨address, there, holds⟩
    refine ⟨registry, active, completed, ?_, ?_⟩
    · unfold moveToCompleted
      simp only [missing, Option.bind_eq_bind, Option.bind_some, Option.pure_def]
    · have absent : ¬ book.active.any fun other => other.transferId = transferId := by
        intro present
        obtain ⟨other, there, same⟩ := List.any_eq_true.mp present
        obtain ⟨address, here, found⟩ := (kept.mem_active other).mp there
        exact live ⟨address, here, other, found, of_decide_eq_true same⟩
      rw [SessionBook.fail, if_neg absent]
      exact kept

end Kept

/-- Sessions that are recent enough stay. -/
theorem cleanupLoop_recent (olderThan : Int) {head : Option Nat} {cells : List Nat} (registry : Registry)
    (chain : Chain registry.heap head cells) (fuel : Nat) (enough : cells.length ≤ fuel)
    (recent : ∀ data ∈ dataAt registry.heap cells, ¬ data.lastActivityTime < olderThan) :
    cleanupLoop olderThan fuel registry head = some registry := by
  induction chain generalizing fuel with
  | nil => cases fuel <;> rfl
  | @cons address cell rest stored later ih =>
      rw [dataAt_cons _ _ _ _ stored, List.forall_mem_cons] at recent
      cases fuel with
      | zero => simp at enough
      | succ fuel =>
          rw [cleanupLoop, stored]
          simp only [Option.bind_eq_bind, Option.bind_some, if_neg recent.1]
          exact ih fuel (Nat.le_of_succ_le_succ enough) recent.2

namespace Kept

/-- Only the first completed session can be cleaned up without harm. -/
theorem expired_first (kept : Kept registry book active completed) (olderThan : Int)
    (harmless : ∀ data ∈ book.completed, data.lastActivityTime < olderThan →
      Removable registry data.transferId)
    (front back : List Nat) (session : Nat) (data : Session) (split : completed = front ++ session :: back)
    (found : dataOf registry.heap session = some data) (expired : data.lastActivityTime < olderThan) :
    front = [] ∧ ∀ bucket, registry.table bucket = some session → bucket = ftHashTransferId data.transferId := by
  obtain ⟨segment, -, member⟩ := kept.around front back session (.inr split)
  obtain ⟨other, stored⟩ := segment.neighbours
  have inside : session ∈ completed := split ▸ List.mem_append_right _ (List.mem_cons_self ..)
  have listed : data ∈ book.completed := (kept.mem_completed data).mpr ⟨session, inside, found⟩
  have removable := harmless data listed expired session _
    (kept.find_present data.transferId session member ⟨data, found, rfl⟩) stored
  refine ⟨?_, fun bucket starts => (removable bucket starts).1⟩
  have first := (removable _ (kept.own data.transferId session inside ⟨data, found, rfl⟩)).2
  exact List.getLast?_eq_none_iff.mp first

/-- The cleanup frees the first completed session and goes on behind it. -/
theorem cleanupLoop_first (kept : Kept registry book active completed) (olderThan : Int) (session : Nat)
    (back : List Nat) (data : Session) (split : completed = session :: back)
    (found : dataOf registry.heap session = some data) (expired : data.lastActivityTime < olderThan)
    (fuel : Nat) :
    cleanupLoop olderThan (fuel + 1) registry (some session) =
      cleanupLoop olderThan fuel ⟨Function.update (bypassed registry.heap [] back) session none,
        Function.update registry.table (ftHashTransferId data.transferId) back.head?,
        registry.activeSessions, back.head?, registry.allocated⟩ back.head? := by
  have holds : Holds registry.heap data.transferId session := ⟨data, found, rfl⟩
  obtain ⟨segment, distinct, -⟩ := kept.around [] back session (.inr split)
  obtain ⟨other, stored⟩ := segment.neighbours
  rw [dataOf, stored] at found
  obtain rfl := Option.some.inj found
  obtain ⟨-, -, again, rest, enough, -⟩ := kept.first _ session back (.inr split) holds
  have still : bypassed registry.heap [] back session = some ⟨⟨other, none⟩, back.head?⟩ := by
    rw [bypassed_other _ _ _ _ (List.nodup_cons.mp distinct).1]
    exact stored
  have own := kept.own _ session (split ▸ List.mem_cons_self ..) holds
  have seen := findSession_first still rfl (Nat.lt_of_le_of_lt (Nat.zero_le _) enough)
  have listed : ftFindInSessionMap { registry with
      heap := bypassed registry.heap [] back, completedSessions := back.head? } other.transferId =
        some (some session) := by
    unfold ftFindInSessionMap
    dsimp only
    rw [own]
    exact seen
  rw [cleanupLoop, stored]
  simp only [Option.bind_eq_bind, Option.bind_some, if_pos expired,
    segment.unlinkCell _ stored, if_true, ftRemoveFromSessionMap, listed, still,
    rest.unlinkCell_again, Option.pure_def,
    kept.destroy_first _ session back (.inr split) holds]

/-- A harmless cleanup frees exactly the sessions that are too old. -/
theorem cleanup (kept : Kept registry book active completed) (olderThan : Int)
    (harmless : ∀ data ∈ book.completed, data.lastActivityTime < olderThan →
      Removable registry data.transferId) :
    ∃ next cells, ftCleanupCompletedSessions registry olderThan = some next ∧
      Kept next { book with completed := book.completed.filter fun session =>
        ¬ session.lastActivityTime < olderThan } active cells := by
  have bound := kept.bounded
  rw [List.length_append] at bound
  have first := kept.expired_first olderThan harmless
  unfold ftCleanupCompletedSessions
  rw [kept.completedHead]
  by_cases recent : ∀ data ∈ dataAt registry.heap completed, ¬ data.lastActivityTime < olderThan
  · refine ⟨registry, completed, cleanupLoop_recent olderThan registry kept.completeds.forwards _ (by omega)
      recent, ?_⟩
    rw [kept.completedData] at recent
    have all : (book.completed.filter fun session => ¬ session.lastActivityTime < olderThan) =
        book.completed := List.filter_eq_self.mpr fun data there => decide_eq_true (recent data there)
    rw [all]
    exact kept
  · push Not at recent
    obtain ⟨data, there, expired⟩ := recent
    obtain ⟨session, inside, found⟩ := mem_dataAt.mp there
    obtain ⟨front, back, split⟩ := List.append_of_mem inside
    obtain ⟨rfl, only⟩ := first front back session data split found expired
    have holds : Holds registry.heap data.transferId session := ⟨data, found, rfl⟩
    have outside : session ∉ back := by
      have distinct := (kept.around [] back session (.inr split)).2.1
      exact (List.nodup_cons.mp distinct).1
    have later : ∀ other ∈ dataAt registry.heap back, ¬ other.lastActivityTime < olderThan := by
      intro other there expired
      obtain ⟨address, member, known⟩ := mem_dataAt.mp there
      obtain ⟨before, behind, rfl⟩ := List.append_of_mem member
      obtain ⟨nothing, -⟩ := first (session :: before) behind address other split known expired
      cases nothing
    have own := kept.own _ session inside holds
    have freed := kept.freed data.transferId session back (.inr split) holds own only
    have unchanged (cells : List Nat) (absent : session ∉ cells) :
        dataAt (Function.update (bypassed registry.heap [] back) session none) cells =
          dataAt registry.heap cells := by
      rw [dataAt_update _ _ _ _ absent]
      exact dataAt_congr fun address _ => dataOf_bypassed _ _ _ _
    obtain ⟨rest, whole, absent⟩ := kept.without_completed [] back session split
    rw [rest, whole, List.nil_append, ← kept.activeHead] at freed
    have erased : book.erase data.transferId = { book with
        completed := book.completed.filter fun session => ¬ session.lastActivityTime < olderThan } := by
      have actives := freed.activeData
      have completeds := freed.completedData
      rw [unchanged active absent, kept.activeData] at actives
      rw [unchanged back outside] at completeds
      have listed : book.completed = data :: dataAt registry.heap back := by
        rw [← kept.completedData, split, List.nil_append, dataAt_cons_dataOf found]
      have remaining : (book.completed.filter fun session => ¬ session.lastActivityTime < olderThan) =
          dataAt registry.heap back := by
        rw [listed, List.filter_cons_of_neg (by simpa using expired)]
        exact List.filter_eq_self.mpr fun other there => decide_eq_true (later other there)
      rw [remaining, completeds]
      exact congrArg (SessionBook.mk · _) actives.symm
    rw [← erased]
    refine ⟨_, back, ?_, freed⟩
    rw [split, List.nil_append, List.length_cons] at bound
    obtain ⟨fuel, enough⟩ : ∃ fuel, registry.allocated = fuel + 1 := ⟨registry.allocated - 1, by omega⟩
    rw [split, List.nil_append, List.head?_cons, enough,
      kept.cleanupLoop_first olderThan session back data split found expired, ← enough]
    refine cleanupLoop_recent olderThan _ freed.completeds.forwards fuel (by omega) ?_
    rw [unchanged back outside]
    exact later

end Kept

/-- A harmless call keeps the registry in step with the book. -/
theorem recordedMachine_kept (allocator : Allocator (Backlinked Session))
    (state : Option Registry × SessionBook) (call : RegistryCall)
    (before : ∃ registry active completed, state.1 = some registry ∧
      Kept registry state.2 active completed) (harmless : Harmless state call) :
    ∃ registry active completed, ((recordedMachine allocator).step state call).1.1 = some registry ∧
      Kept registry ((recordedMachine allocator).step state call).1.2 active completed := by
  obtain ⟨state, book⟩ := state
  obtain ⟨registry, active, completed, present, kept⟩ := before
  obtain rfl : state = some registry := present
  have after : ∃ code next cells others, registryStep allocator registry call = some (code, next) ∧
      Kept next (book.record call code) cells others := by
    cases call with
    | create answers seed transferId now =>
        obtain ⟨code, next, cells, created, rest⟩ := ftCreateSession_kept allocator kept answers seed
          transferId now harmless
        exact ⟨code, next, cells, completed, created, rest⟩
    | remove transferId => exact kept.remove transferId (harmless registry rfl)
    | fail transferId now =>
        obtain ⟨next, cells, others, moved, rest⟩ := kept.fail transferId now harmless
        exact ⟨.success, next, cells, others, by rw [registryStep, moved]; rfl, rest⟩
    | cleanup olderThan =>
        obtain ⟨next, cells, cleaned, rest⟩ := kept.cleanup olderThan (harmless registry rfl)
        exact ⟨.success, next, active, cells, by rw [registryStep, cleaned]; rfl, rest⟩
  obtain ⟨code, next, cells, others, done, rest⟩ := after
  refine ⟨next, cells, others, ?_, ?_⟩
  · simp only [recordedMachine, registryMachine, Option.bind_some, done]
  · simp only [recordedMachine, registryMachine, Option.bind_some, done, List.foldl_cons, List.foldl_nil]
    exact rest

/-- In every run of harmless calls lookups find exactly the sessions that were created and not removed,
and both lists hold exactly these sessions. -/
theorem recordedMachine_refines (allocator : Allocator (Backlinked Session)) (calls : List RegistryCall)
    (harmless : (recordedMachine allocator).Along Harmless (some emptyRegistry, ⟨[], []⟩) calls) :
    ∀ visited ∈ (recordedMachine allocator).states (some emptyRegistry, ⟨[], []⟩) calls, Refines visited := by
  have kept := (recordedMachine allocator).states_invariant Harmless
    (fun state => ∃ registry active completed, state.1 = some registry ∧
      Kept registry state.2 active completed)
    (recordedMachine_kept allocator) (some emptyRegistry, ⟨[], []⟩) calls
    ⟨emptyRegistry, [], [], rfl, emptyRegistry_kept⟩ harmless
  rintro ⟨state, book⟩ member
  obtain ⟨registry, active, completed, present, rest⟩ := kept _ member
  obtain rfl : state = some registry := present
  exact rest.refines

/-- Every call of `ft_create_session` succeeds. -/
def goodAnswers : CreateAnswers := ⟨true, true, true, true, true⟩

/-- Two sessions share a bucket. The older one is removed, and the newer one fails and is cleaned up. -/
theorem recordedMachine_refines_shared_bucket :
    (recordedMachine (Allocator.atSeed _)).Along Harmless (some emptyRegistry, ⟨[], []⟩)
      [.create goodAnswers 10 1 0, .create goodAnswers 20 102 0, .remove 1, .fail 102 5, .cleanup 7] ∧
    ∀ visited ∈ (recordedMachine (Allocator.atSeed _)).states (some emptyRegistry, ⟨[], []⟩)
      [.create goodAnswers 10 1 0, .create goodAnswers 20 102 0, .remove 1, .fail 102 5, .cleanup 7],
      Refines visited := by
  have entry : ∀ bucket, Function.update (Function.update (Function.update (fun _ => none) 1 (some 10)) 1
      (some 20)) 1 (some 20) bucket = if bucket = 1 then some 20 else none := by
    intro bucket
    rw [Function.update_idem, Function.update_idem, Function.update_apply]
  suffices harmless : (recordedMachine (Allocator.atSeed _)).Along Harmless (some emptyRegistry, ⟨[], []⟩)
      [.create goodAnswers 10 1 0, .create goodAnswers 20 102 0, .remove 1, .fail 102 5, .cleanup 7] from
    ⟨harmless, recordedMachine_refines _ _ harmless⟩
  refine ⟨?_, ?_, ?_, ?_, ?_, trivial⟩
  · rintro registry ⟨⟩ -
    exact ⟨.inl rfl, rfl⟩
  · rintro registry ⟨⟩ -
    exact ⟨.inr rfl, rfl⟩
  · rintro registry ⟨⟩ session cell found stored bucket starts
    obtain rfl : 10 = session := Option.some.inj (Option.some.inj found)
    revert starts
    show Function.update (Function.update (fun _ => none) 1 (some 10)) 1 (some 20) bucket = some 10 → _
    rw [Function.update_idem, Function.update_apply]
    split
    · rintro ⟨⟩
    · rintro ⟨⟩
  · rintro registry ⟨⟩ session found
    obtain rfl : 20 = session := Option.some.inj (Option.some.inj found)
    refine ⟨fun bucket => ?_, ?_⟩
    · have seen := entry bucket
      by_cases own : bucket = 1
      · rw [if_pos own] at seen
        exact ⟨fun _ => own, fun _ => seen⟩
      · rw [if_neg own] at seen
        refine ⟨fun starts => ?_, fun same => absurd same own⟩
        cases seen.symm.trans starts
    · intro other member different
      obtain rfl := List.mem_singleton.mp member
      exact absurd rfl different
  · rintro registry ⟨⟩ data member -
    obtain rfl := List.mem_singleton.mp member
    rintro session cell found stored bucket starts
    obtain rfl : 20 = session := Option.some.inj (Option.some.inj found)
    obtain rfl := Option.some.inj stored
    refine ⟨?_, rfl⟩
    have seen := entry bucket
    by_cases own : bucket = 1
    · exact own
    · rw [if_neg own] at seen
      cases seen.symm.trans starts

/-- The older of two sessions is still found after it was removed. -/
theorem recordedMachine_finds_removed :
    ¬ ∀ (allocator : Allocator (Backlinked Session)) (calls : List RegistryCall),
      ∀ visited ∈ (recordedMachine allocator).states (some emptyRegistry, ⟨[], []⟩) calls, Refines visited := by
  intro always
  obtain ⟨registry, present, found, -⟩ := always (Allocator.atSeed _)
    [.create goodAnswers 10 1 0, .create goodAnswers 20 2 0, .remove 1] _ (List.mem_of_getElem? (i := 3) rfl)
  obtain rfl := Option.some.inj present
  exact absurd (found 1) (by decide)

end SecureChat.FileTransfer
