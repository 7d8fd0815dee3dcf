import SecureChat.Construction.Utils.Tracking
import SecureChat.Proof.Utils.HashTable

namespace SecureChat.Utils.Tracking
open Library

section Initialiser

variable (answers : MallocAnswers) (fuel size : Nat) (tracker : Tracker)

/-- Nothing happens but the request when the C library refuses it. -/
theorem allocate_refused (refused : answers tracker.requests = none) :
    allocate answers (fuel + 1) size tracker = .ok (none, { tracker with requests := tracker.requests + 1 }) := by
  rw [allocate, request, refused]

/-- Inside of the initialiser every block leads back to `pthread_once`. -/
theorem allocate_running (running : tracker.once = .running) (pointer : Nat)
    (given : answers tracker.requests = some pointer) :
    allocate answers (fuel + 1) size tracker = .error .reentered := by
  rw [allocate, request, given]
  dsimp only [initMemoryTracking]
  rw [running]
  rfl

theorem initMemoryTracking_done (done : tracker.once = .done) :
    initMemoryTracking (allocate answers fuel) tracker = .ok tracker := by
  rw [initMemoryTracking, done]

/-- The initialisation ends without a table when the C library refuses it. -/
theorem initMemoryTracking_refused (fresh : tracker.once = .notRun)
    (refused : answers tracker.requests = none) :
    initMemoryTracking (allocate answers (fuel + 1)) tracker =
      .ok { tracker with once := .done, table := none, requests := tracker.requests + 1 } := by
  have inner := allocate_refused answers fuel sizeofHashTable { tracker with once := .running } refused
  rw [initMemoryTracking, fresh]
  dsimp only [hashTableCreate, utilsMalloc]
  rw [if_neg (by decide), inner]
  rfl

/-- The initialisation leads back to `pthread_once` as soon as the C library has a block for the table. -/
theorem initMemoryTracking_reenters (fresh : tracker.once = .notRun) (table : Nat)
    (given : answers tracker.requests = some table) :
    initMemoryTracking (allocate answers (fuel + 1)) tracker = .error .reentered := by
  have inner := allocate_running answers fuel sizeofHashTable { tracker with once := .running } rfl table given
  rw [initMemoryTracking, fresh]
  dsimp only [hashTableCreate, utilsMalloc]
  rw [if_neg (by decide), inner]
  rfl

end Initialiser

/-- No table was made, and the thread is outside of the tracking. -/
structure Idle (tracker : Tracker) : Prop where
  once : tracker.once ≠ .running
  free : tracker.locked = false
  absent : tracker.table = none

/-- The requests that the initialiser makes. -/
def initRequests (tracker : Tracker) : Nat := if tracker.once = .done then 0 else 1

/-- The initialiser has run, or it gets no block for its table. -/
def Initialises (answers : MallocAnswers) (tracker : Tracker) (first : Nat) : Prop :=
  tracker.once = .done ∨ answers first = none

section Idle

variable (answers : MallocAnswers) (fuel size : Nat) (tracker : Tracker) (idle : Idle tracker)
include idle

theorem initMemoryTracking_idle :
    (Initialises answers tracker tracker.requests → initMemoryTracking (allocate answers (fuel + 1)) tracker =
      .ok { tracker with once := .done, table := none, requests := tracker.requests + initRequests tracker }) ∧
    (¬ Initialises answers tracker tracker.requests →
      initMemoryTracking (allocate answers (fuel + 1)) tracker = .error .reentered) := by
  obtain ⟨once, locked, table, live, requests⟩ := tracker
  obtain rfl : table = none := idle.absent
  unfold Initialises initRequests
  dsimp only
  cases once with
  | running => exact absurd rfl idle.once
  | done =>
      exact ⟨fun _ => initMemoryTracking_done answers _ _ rfl, fun never => absurd (.inl rfl) never⟩
  | notRun =>
      constructor
      · rintro (done | refused)
        · cases done
        · exact initMemoryTracking_refused answers fuel _ rfl refused
      · intro never
        cases given : answers requests with
        | none => exact absurd (.inr given) never
        | some block => exact initMemoryTracking_reenters answers fuel _ rfl block given

/-- A block is handed out and not noted, or the initialisation leads back to `pthread_once`. -/
theorem allocate_idle (pointer : Nat) (given : answers tracker.requests = some pointer) :
    (Initialises answers tracker (tracker.requests + 1) → allocate answers (fuel + 2) size tracker =
      .ok (some pointer,
        { tracker with
          once := .done
          table := none
          requests := tracker.requests + 1 + initRequests tracker + 1
          live := pointer :: tracker.live })) ∧
    (¬ Initialises answers tracker (tracker.requests + 1) →
      allocate answers (fuel + 2) size tracker = .error .reentered) := by
  have initial := initMemoryTracking_idle answers fuel { tracker with requests := tracker.requests + 1 }
    ⟨idle.once, idle.free, idle.absent⟩
  have free := idle.free
  rw [allocate, request, given]
  dsimp only
  constructor
  · intro initialises
    rw [initial.1 initialises]
    show trackBlock (allocate answers (fuel + 1)) answers pointer size
      ⟨.done, tracker.locked, none, tracker.live, tracker.requests + 1 + initRequests tracker⟩ >>= _ = _
    rw [trackBlock, request, free]
    dsimp only
    cases answers (tracker.requests + 1 + initRequests tracker) <;> rfl
  · intro never
    rw [initial.2 never]
    rfl

end Idle

/-- Two computations that agree, and that do not nest too deeply. -/
structure Agrees {Result : Type} (first second : Except Stop Result) : Prop where
  same : first = second
  fuel : first ≠ .error .outOfFuel

section Fuel

theorem Agrees.of_ok {Result : Type} (result : Result) : Agrees (.ok result) (.ok result) := ⟨rfl, nofun⟩

theorem Agrees.of_error {Result : Type} {stop : Stop} (other : stop ≠ .outOfFuel) :
    Agrees (.error stop : Except Stop Result) (.error stop) :=
  ⟨rfl, fun same => other (Except.error.inj same)⟩

theorem Agrees.bind {First Second : Type} {first second : Except Stop First}
    {next further : First → Except Stop Second} (agrees : Agrees first second)
    (later : ∀ result, first = .ok result → Agrees (next result) (further result)) :
    Agrees (first >>= next) (second >>= further) := by
  obtain ⟨rfl, fuel⟩ := agrees
  cases first with
  | error stop => exact Agrees.of_error fun same => fuel (congrArg Except.error same)
  | ok result => exact later result rfl

variable (answers : MallocAnswers) (fuel size : Nat) (tracker : Tracker)

/-- With the mutex held, a block is handed out only without a record of it. -/
theorem allocate_locked (done : tracker.once = .done) (held : tracker.locked = true) :
    allocate answers (fuel + 1) size tracker =
      match answers tracker.requests, answers (tracker.requests + 1) with
      | none, _ => .ok (none, { tracker with requests := tracker.requests + 1 })
      | some pointer, none =>
          .ok (some pointer, { tracker with requests := tracker.requests + 2, live := pointer :: tracker.live })
      | some _, some _ => .error .deadlock := by
  obtain ⟨once, locked, table, live, requests⟩ := tracker
  subst done held
  rw [allocate, request]
  dsimp only
  cases answers requests with
  | none => rfl
  | some pointer =>
      dsimp only [initMemoryTracking]
      show trackBlock (allocate answers fuel) answers pointer size ⟨.done, true, table, live, requests + 1⟩ >>= _ = _
      rw [trackBlock, request]
      dsimp only
      cases answers (requests + 1) <;> rfl

/-- Behind the mutex a single level is enough, and the mutex stays held. -/
theorem allocate_locked_agrees (done : tracker.once = .done) (held : tracker.locked = true) :
    Agrees (allocate answers (fuel + 1) size tracker) (allocate answers 1 size tracker) ∧
      ∀ result, allocate answers (fuel + 1) size tracker = .ok result →
        result.2.once = .done ∧ result.2.locked = true := by
  have one := allocate_locked answers 0 size tracker done held
  rw [allocate_locked answers fuel size tracker done held, one]
  split
  · refine ⟨Agrees.of_ok _, ?_⟩
    rintro _ same
    obtain rfl := Except.ok.inj same
    exact ⟨done, held⟩
  · refine ⟨Agrees.of_ok _, ?_⟩
    rintro _ same
    obtain rfl := Except.ok.inj same
    exact ⟨done, held⟩
  · exact ⟨Agrees.of_error nofun, nofun⟩

theorem hashTableInsert_agrees (pointer : Nat) (done : tracker.once = .done) (held : tracker.locked = true) :
    Agrees (hashTableInsert (allocate answers (fuel + 1)) pointer size tracker)
      (hashTableInsert (allocate answers 1) pointer size tracker) := by
  unfold hashTableInsert
  split
  · exact Agrees.of_ok _
  · split
    · exact Agrees.of_ok _
    · have node := allocate_locked_agrees answers fuel sizeofHashTableNode tracker done held
      refine node.1.bind ?_
      rintro ⟨node', between⟩ allocated
      obtain ⟨done', held'⟩ := node.2 _ allocated
      cases node' with
      | none => exact Agrees.of_ok _
      | some node =>
          refine (allocate_locked_agrees answers fuel (pointerLength pointer + 1) between done' held').1.bind ?_
          rintro ⟨key, after⟩ _
          cases key with
          | none => exact Agrees.of_ok _
          | some key => exact Agrees.of_ok _

theorem trackBlock_agrees (pointer : Nat) (done : tracker.once = .done) :
    Agrees (trackBlock (allocate answers (fuel + 1)) answers pointer size tracker)
      (trackBlock (allocate answers 1) answers pointer size tracker) := by
  unfold trackBlock request
  cases answers tracker.requests with
  | none => exact Agrees.of_ok _
  | some record =>
      dsimp only
      cases held : tracker.locked with
      | true =>
          have stuck : Stop.deadlock ≠ .outOfFuel := nofun
          exact Agrees.of_error stuck
      | false =>
          refine (hashTableInsert_agrees answers fuel size
            ⟨tracker.once, true, tracker.table, tracker.live, tracker.requests + 1⟩ pointer done rfl).bind ?_
          exact fun result _ => Agrees.of_ok _

theorem initMemoryTracking_agrees :
    Agrees (initMemoryTracking (allocate answers (fuel + 1)) tracker)
        (initMemoryTracking (allocate answers 1) tracker) ∧
      ∀ result, initMemoryTracking (allocate answers (fuel + 1)) tracker = .ok result → result.once = .done := by
  cases once : tracker.once with
  | done =>
      rw [initMemoryTracking_done answers _ tracker once, initMemoryTracking_done answers _ tracker once]
      refine ⟨Agrees.of_ok _, ?_⟩
      rintro _ same
      exact Except.ok.inj same ▸ once
  | running =>
      unfold initMemoryTracking
      rw [once]
      exact ⟨Agrees.of_error nofun, nofun⟩
  | notRun =>
      cases table : answers tracker.requests with
      | none =>
          rw [initMemoryTracking_refused answers fuel tracker once table,
            initMemoryTracking_refused answers 0 tracker once table]
          refine ⟨Agrees.of_ok _, ?_⟩
          rintro _ same
          exact Except.ok.inj same ▸ rfl
      | some block =>
          rw [initMemoryTracking_reenters answers fuel tracker once block table,
            initMemoryTracking_reenters answers 0 tracker once block table]
          exact ⟨Agrees.of_error nofun, nofun⟩

/-- From any state whatever the functions call each other at most twice in a row:
a call ends or gets stuck, and more fuel changes nothing. -/
theorem allocate_agrees :
    Agrees (allocate answers (fuel + 2) size tracker) (allocate answers 2 size tracker) := by
  rw [allocate, allocate, request]
  cases answers tracker.requests with
  | none => exact Agrees.of_ok _
  | some pointer =>
      have initial := initMemoryTracking_agrees answers fuel { tracker with requests := tracker.requests + 1 }
      refine initial.1.bind fun initialised returned => ?_
      refine (trackBlock_agrees answers fuel size initialised pointer (initial.2 _ returned)).bind ?_
      exact fun result _ => Agrees.of_ok _

/-- With a table a new block would be noted behind the mutex, where its node asks for the mutex again. -/
theorem trackBlock_deadlocks (done : tracker.once = .done) (free : tracker.locked = false)
    (nodes : List TrackedNode) (table : tracker.table = some nodes) (pointer : Nat)
    (fresh : ∀ node ∈ nodes, node.pointer ≠ pointer)
    (given : ∀ index < 3, answers (tracker.requests + index) ≠ none) :
    trackBlock (allocate answers (fuel + 1)) answers pointer size tracker = .error .deadlock := by
  obtain ⟨once, locked, present, live, requests⟩ := tracker
  subst done free table
  obtain ⟨record, recorded⟩ := Option.ne_none_iff_exists'.mp (given 0 (by decide))
  obtain ⟨node, noded⟩ := Option.ne_none_iff_exists'.mp (given 1 (by decide))
  obtain ⟨inner, noted⟩ := Option.ne_none_iff_exists'.mp (given 2 (by decide))
  have stuck := allocate_locked answers fuel sizeofHashTableNode ⟨.done, true, some nodes, live, requests + 1⟩ rfl rfl
  dsimp only at recorded noded noted stuck
  rw [noded, noted] at stuck
  have missing : ¬ nodes.any (·.pointer = pointer) = true := by
    simpa using fresh
  rw [Nat.add_zero] at recorded
  rw [trackBlock, request, recorded]
  show hashTableInsert _ pointer size ⟨.done, true, some nodes, live, requests + 1⟩ >>= _ = _
  rw [hashTableInsert]
  dsimp only
  rw [if_neg missing, utilsMalloc, if_neg (by decide), stuck]
  rfl

end Fuel

/-- The table has an entry for exactly the blocks that were handed out and not freed. -/
def Tracks (tracker : Tracker) : Prop :=
  ∀ pointer, pointer ∈ (tracker.table.getD []).map (·.pointer) ↔ pointer ∈ tracker.live

/-- The thread came back from all its calls, and the table is right. -/
def Healthy (state : Except Stop Tracker) : Prop := ∃ tracker, state = .ok tracker ∧ Tracks tracker

/-- There is neither a table nor a block that should be in it. -/
structure Quiet (tracker : Tracker) : Prop extends Idle tracker where
  live : tracker.live = []

/-- A call ends well under one condition, and it leaves everything quiet then. -/
structure Settles (result : Except Stop Tracker) (good : Prop) : Prop where
  quiet : good → ∃ tracker, result = .ok tracker ∧ Quiet tracker
  good : Healthy result → good

/-- What the C library must refuse in a call that ends well. -/
def CallAllowed (tracker : Tracker) (answers : MallocAnswers) : TrackerCall → Prop
  | .malloc size => size = 0 ∨ answers 0 = none
  | .calloc count size => (count = 0 ∨ size = 0) ∨ sizeLimit ≤ count * size ∨ answers 0 = none
  | .realloc none size => size = 0 ∨ answers 0 = none
  | .realloc (some _) size =>
      Initialises answers tracker 0 ∧ (size = 0 ∨ answers (initRequests tracker) = none)
  | .strdup length => length = none ∨ answers 0 = none
  | .hashTableCreate size =>
      answers 0 = none ∨ Initialises answers tracker 1 ∧
        (sizeLimit ≤ tableSize size * sizeofPointer ∨ answers (2 + initRequests tracker) = none)
  | .free pointer => pointer = none ∨ Initialises answers tracker 0

section Settle

theorem Quiet.tracks {tracker : Tracker} (quiet : Quiet tracker) : Tracks tracker := by
  intro pointer
  rw [quiet.absent, quiet.live]
  exact Iff.rfl

theorem Idle.quiet {tracker : Tracker} (idle : Idle tracker) (tracks : Tracks tracker) : Quiet tracker where
  toIdle := idle
  live := by
    apply List.eq_nil_iff_forall_not_mem.mpr
    intro pointer member
    have noted := (tracks pointer).mpr member
    rw [idle.absent] at noted
    cases noted

theorem Settles.of_quiet {tracker : Tracker} {good : Prop} (quiet : Quiet tracker) (holds : good) :
    Settles (.ok tracker) good :=
  ⟨fun _ => ⟨tracker, rfl, quiet⟩, fun _ => holds⟩

theorem Settles.of_error {stop : Stop} {good : Prop} (fails : ¬ good) : Settles (.error stop) good :=
  ⟨fun holds => absurd holds fails, fun ⟨_, same, _⟩ => nomatch same⟩

/-- A block without a table is missing in it. -/
theorem Settles.of_live {tracker : Tracker} {good : Prop} {pointer : Nat} (absent : tracker.table = none)
    (member : pointer ∈ tracker.live) (fails : ¬ good) : Settles (.ok tracker) good := by
  refine ⟨fun holds => absurd holds fails, ?_⟩
  rintro ⟨same, equal, tracks⟩
  obtain rfl := Except.ok.inj equal
  have noted := (tracks pointer).mpr member
  rw [absent] at noted
  cases noted

variable (answers : MallocAnswers) (fuel : Nat) (tracker : Tracker) (quiet : Quiet tracker)
include quiet

/-- The next request finds everything quiet. -/
theorem Quiet.asked (requests : Nat) : Quiet { tracker with requests := requests } :=
  ⟨⟨quiet.once, quiet.free, quiet.absent⟩, quiet.live⟩

theorem Quiet.initialised (requests : Nat) :
    Quiet { tracker with once := .done, table := none, requests := requests } :=
  ⟨⟨nofun, quiet.free, rfl⟩, quiet.live⟩

/-- An allocation ends well only without a block. -/
theorem allocate_settles (size : Nat) :
    Settles ((allocate answers (fuel + 2) size tracker).map Prod.snd) (answers tracker.requests = none) := by
  cases given : answers tracker.requests with
  | none =>
      rw [allocate_refused answers (fuel + 1) size tracker given]
      exact Settles.of_quiet (quiet.asked tracker _) rfl
  | some pointer =>
      have outcome := allocate_idle answers fuel size tracker quiet.toIdle pointer given
      by_cases initialises : Initialises answers tracker (tracker.requests + 1)
      · rw [outcome.1 initialises]
        exact Settles.of_live rfl (List.mem_cons_self ..) nofun
      · rw [outcome.2 initialises]
        exact Settles.of_error nofun

theorem utilsMalloc_settles (size : Nat) :
    Settles ((utilsMalloc (allocate answers (fuel + 2)) size tracker).map Prod.snd)
      (size = 0 ∨ answers tracker.requests = none) := by
  unfold utilsMalloc
  split
  · rename_i empty
    exact Settles.of_quiet quiet (.inl empty)
  · rename_i nonempty
    rw [or_iff_right nonempty]
    exact allocate_settles answers fuel tracker quiet size

theorem utilsCalloc_settles (count size : Nat) :
    Settles ((utilsCalloc (allocate answers (fuel + 2)) count size tracker).map Prod.snd)
      ((count = 0 ∨ size = 0) ∨ sizeLimit ≤ count * size ∨ answers tracker.requests = none) := by
  unfold utilsCalloc
  split
  · rename_i empty
    exact Settles.of_quiet quiet (.inl empty)
  · rename_i nonempty
    split
    · rename_i overflow
      exact Settles.of_quiet quiet (.inr (.inl overflow))
    · rename_i fits
      rw [or_iff_right nonempty, or_iff_right fits]
      exact allocate_settles answers fuel tracker quiet (count * size)

theorem utilsFree_settles (pointer : Option Nat) :
    Settles (utilsFree answers (fuel + 2) pointer tracker)
      (pointer = none ∨ Initialises answers tracker tracker.requests) := by
  cases pointer with
  | none => exact Settles.of_quiet quiet (.inl rfl)
  | some pointer =>
      have outcome := initMemoryTracking_idle answers (fuel + 1) tracker quiet.toIdle
      rw [or_iff_right (Option.some_ne_none pointer), utilsFree]
      by_cases initialises : Initialises answers tracker tracker.requests
      · rw [outcome.1 initialises]
        refine Settles.of_quiet ⟨⟨nofun, quiet.free, rfl⟩, ?_⟩ initialises
        exact congrArg (List.erase · pointer) quiet.live
      · rw [outcome.2 initialises]
        exact Settles.of_error initialises

theorem utilsRealloc_settles (pointer size : Nat) :
    Settles ((utilsRealloc answers (fuel + 2) (some pointer) size tracker).map Prod.snd)
      (Initialises answers tracker tracker.requests ∧
        (size = 0 ∨ answers (tracker.requests + initRequests tracker) = none)) := by
  have outcome := initMemoryTracking_idle answers (fuel + 1) tracker quiet.toIdle
  unfold utilsRealloc
  by_cases nothing : size = 0
  · have freed := utilsFree_settles answers fuel tracker quiet (some pointer)
    rw [or_iff_right (Option.some_ne_none pointer)] at freed
    rw [if_pos nothing, and_iff_left (.inl nothing)]
    generalize utilsFree answers (fuel + 2) (some pointer) tracker = result at freed ⊢
    cases result with
    | error stop => exact freed
    | ok freed' => exact freed
  · rw [if_neg nothing, or_iff_right nothing]
    dsimp only
    by_cases initialises : Initialises answers tracker tracker.requests
    · rw [outcome.1 initialises, and_iff_right initialises]
      dsimp only [bind, Except.bind, untrack, request]
      cases answers (tracker.requests + initRequests tracker) with
      | none => exact Settles.of_quiet ⟨⟨by rintro ⟨⟩, quiet.free, rfl⟩, quiet.live⟩ rfl
      | some renewed => exact Settles.of_live rfl (List.mem_cons_self ..) (by rintro ⟨⟩)
    · rw [outcome.2 initialises]
      exact Settles.of_error fun good => initialises good.1

/-- A table that gets no buckets is given back. -/
theorem hashTableCreate_settles (size : Nat) :
    Settles ((hashTableCreate (allocate answers (fuel + 2)) size tracker).map Prod.snd)
      (answers tracker.requests = none ∨ Initialises answers tracker (tracker.requests + 1) ∧
        (sizeLimit ≤ tableSize size * sizeofPointer ∨
          answers (tracker.requests + 1 + initRequests tracker + 1) = none)) := by
  have buckets := tableSize_pos size
  have nonempty : ¬ (tableSize size = 0 ∨ sizeofPointer = 0) := by
    rintro (empty | empty)
    · exact absurd empty (Nat.pos_iff_ne_zero.mp buckets)
    · cases empty
  unfold hashTableCreate utilsMalloc
  rw [if_neg (by decide)]
  cases given : answers tracker.requests with
  | none =>
      rw [allocate_refused answers (fuel + 1) _ tracker given]
      exact Settles.of_quiet (quiet.asked tracker _) (.inl rfl)
  | some table =>
      have outcome := allocate_idle answers fuel sizeofHashTable tracker quiet.toIdle table given
      rw [or_iff_right (Option.some_ne_none table)]
      by_cases initialises : Initialises answers tracker (tracker.requests + 1)
      · rw [outcome.1 initialises, and_iff_right initialises]
        dsimp only [Except.bind, bind, utilsCalloc]
        rw [if_neg nonempty]
        have returned (requests : Nat) : Quiet (Tracker.free
            ⟨.done, tracker.locked, none, table :: tracker.live, requests⟩ table) := by
          refine ⟨⟨nofun, quiet.free, rfl⟩, ?_⟩
          show (table :: tracker.live).erase table = []
          rw [List.erase_cons_head, quiet.live]
        by_cases overflow : sizeLimit ≤ tableSize size * sizeofPointer
        · rw [if_pos overflow]
          exact Settles.of_quiet (returned _) (.inl overflow)
        · rw [if_neg overflow, or_iff_right overflow]
          have idle : Idle ⟨.done, tracker.locked, none, table :: tracker.live,
            tracker.requests + 1 + initRequests tracker + 1⟩ := ⟨nofun, quiet.free, rfl⟩
          cases more : answers (tracker.requests + 1 + initRequests tracker + 1) with
          | none =>
              rw [allocate_refused answers (fuel + 1) _ _ more]
              exact Settles.of_quiet (returned _) rfl
          | some block =>
              rw [(allocate_idle answers fuel _ _ idle block more).1 (.inl rfl)]
              exact Settles.of_live rfl (List.mem_cons_self ..) nofun
      · rw [outcome.2 initialises]
        exact Settles.of_error fun good => initialises good.1

/-- A call ends well exactly when the C library refuses all that the call would keep. -/
theorem trackerCall_settles (call : TrackerCall) :
    Settles (trackerCall answers (fuel + 2) call tracker) (CallAllowed tracker answers call) := by
  have asked := quiet.asked tracker 0
  cases call with
  | malloc size => exact utilsMalloc_settles answers fuel _ asked size
  | calloc count size => exact utilsCalloc_settles answers fuel _ asked count size
  | realloc pointer size =>
      cases pointer with
      | none =>
          by_cases empty : size = 0
          · subst empty
            exact Settles.of_quiet asked (.inl rfl)
          · have outcome := utilsMalloc_settles answers fuel _ asked size
            dsimp only [trackerCall, utilsRealloc]
            rw [if_neg empty]
            exact outcome
      | some pointer =>
          have outcome := utilsRealloc_settles answers fuel _ asked pointer size
          rw [Nat.zero_add] at outcome
          exact outcome
  | strdup length =>
      cases length with
      | none => exact Settles.of_quiet asked (.inl rfl)
      | some length =>
          have outcome := utilsMalloc_settles answers fuel _ asked (length + 1)
          rw [or_iff_right (Nat.succ_ne_zero length)] at outcome
          dsimp only [CallAllowed]
          rw [or_iff_right (Option.some_ne_none length)]
          exact outcome
  | hashTableCreate size =>
      have outcome := hashTableCreate_settles answers fuel _ asked size
      dsimp only [CallAllowed]
      rw [Nat.add_comm 2]
      rw [Nat.zero_add, Nat.add_comm 1] at outcome
      exact outcome
  | free pointer => exact utilsFree_settles answers fuel _ asked pointer

end Settle

/-- The guard of a run. A thread that never comes back makes no call. -/
def TrackingAllowed (state : Except Stop Tracker) (input : TrackerCall × MallocAnswers) : Prop :=
  ∀ tracker, state = .ok tracker → CallAllowed tracker input.2 input.1

/-- All calls of a thread come back and the table has exactly the live blocks
if and only if the C library refuses all that the calls would keep. -/
theorem trackedCalls_iff (fuel : Nat) (inputs : List (TrackerCall × MallocAnswers)) :
    (∀ visited ∈ (trackerMachine (fuel + 2)).states (.ok freshTracker) inputs, Healthy visited) ↔
      (trackerMachine (fuel + 2)).Along TrackingAllowed (.ok freshTracker) inputs := by
  apply (trackerMachine (fuel + 2)).states_iff_guarded TrackingAllowed
    (fun state => ∃ tracker, state = .ok tracker ∧ Quiet tracker) Healthy
  · rintro _ input ⟨tracker, rfl, quiet⟩ -
    have settles := trackerCall_settles input.2 fuel tracker quiet input.1
    constructor
    · rintro healthy _ same
      obtain rfl := Except.ok.inj same
      exact settles.good healthy
    · intro allowed
      obtain ⟨next, same, quiet⟩ := settles.quiet (allowed tracker rfl)
      exact ⟨next, same, quiet.tracks⟩
  · rintro _ input ⟨tracker, rfl, quiet⟩ - allowed
    exact (trackerCall_settles input.2 fuel tracker quiet input.1).quiet (allowed tracker rfl)
  · exact ⟨freshTracker, rfl, ⟨nofun, rfl, rfl⟩, rfl⟩
  · exact ⟨freshTracker, rfl, fun pointer => Iff.rfl⟩

/-- A C library with memory for every request. -/
def plentyOfMemory : MallocAnswers := fun index => some (4096 + 512 * index)

/-- The very first allocation enters `pthread_once` from inside of its initialiser. -/
theorem firstMalloc_reenters :
    ¬ ∀ (fuel : Nat) (inputs : List (TrackerCall × MallocAnswers)),
      ∀ visited ∈ (trackerMachine (fuel + 2)).states (.ok freshTracker) inputs, Healthy visited := by
  intro always
  have stopped : trackerCall plentyOfMemory 2 (.malloc 16) freshTracker = .error .reentered := by decide
  obtain ⟨tracker, same, -⟩ := always 0 [(.malloc 16, plentyOfMemory)]
    (trackerCall plentyOfMemory 2 (.malloc 16) freshTracker) (List.mem_of_getElem? (i := 1) rfl)
  rw [stopped] at same
  cases same

end SecureChat.Utils.Tracking
