import Mathlib.Data.List.Basic
import Mathlib.Data.Option.Basic
import Mathlib.Tactic.Common

namespace SecureChat.Library

/-- A command opens or ends a transaction, or it asks for a change. -/
inductive SqlCommand (Change : Type*) where
  | begin
  | commit
  | rollback
  | change (change : Change)
  deriving DecidableEq, Repr

/-- What a change makes of a database, inside or outside a transaction. The result is absent when the
engine refuses the change. -/
abbrev SqlEngine (Change Db : Type*) := Bool → Change → Db → Option Db

/-- What is saved in the database of a connection, and what its open transaction sees. -/
structure SqlSession (Db : Type*) where
  saved : Db
  pending : Option Db
  deriving DecidableEq, Repr

namespace SqlSession

variable {Change Db : Type*}

section Engine

variable (engine : SqlEngine Change Db) (accepts : Bool)

/-- Transactions do not nest, and the engine may refuse to commit. -/
def step (session : SqlSession Db) : SqlCommand Change → Option (SqlSession Db)
  | .begin =>
      match session.pending with
      | none => some ⟨session.saved, some session.saved⟩
      | some _ => none
  | .commit =>
      match session.pending with
      | none => none
      | some db => if accepts then some ⟨db, none⟩ else none
  | .rollback =>
      match session.pending with
      | none => none
      | some _ => some ⟨session.saved, none⟩
  | .change change =>
      match session.pending with
      | none => (engine false change session.saved).map fun db => ⟨db, none⟩
      | some db => (engine true change db).map fun db => ⟨session.saved, some db⟩

/-- The commands up to the first one that fails. -/
def run : SqlSession Db → List (SqlCommand Change) → SqlSession Db × Bool
  | session, [] => (session, true)
  | session, command :: rest =>
      match session.step engine accepts command with
      | none => (session, false)
      | some next => next.run rest

/-- An open transaction is given up. -/
def abandon (session : SqlSession Db) : SqlSession Db := ⟨session.saved, none⟩

/-- The open transaction is committed behind a complete script and given up behind any other. -/
def finish (complete : Bool) (session : SqlSession Db) : SqlSession Db × Bool :=
  if complete then
    match session.step engine accepts .commit with
    | some committed => (committed, true)
    | none => (session, false)
  else (session.abandon, false)

/-- A script is complete when it does not end within a statement. -/
def attempt (session : SqlSession Db) (commands : List (SqlCommand Change)) (complete : Bool) :
    SqlSession Db × Bool :=
  finish engine accepts ((session.run engine accepts commands).2 && complete)
    (session.run engine accepts commands).1

variable {engine accepts}

@[simp] theorem run_nil (session : SqlSession Db) : session.run engine accepts [] = (session, true) := rfl

theorem run_cons_of_none {session : SqlSession Db} {command : SqlCommand Change}
    (failed : session.step engine accepts command = none) (rest : List (SqlCommand Change)) :
    session.run engine accepts (command :: rest) = (session, false) := by
  rw [run, failed]

theorem run_cons_of_some {session next : SqlSession Db} {command : SqlCommand Change}
    (done : session.step engine accepts command = some next) (rest : List (SqlCommand Change)) :
    session.run engine accepts (command :: rest) = next.run engine accepts rest := by
  rw [run, done]

/-- A longer script runs its first part and then the rest. -/
theorem run_append (session : SqlSession Db) (first second : List (SqlCommand Change)) :
    session.run engine accepts (first ++ second) =
      if (session.run engine accepts first).2 then
        (session.run engine accepts first).1.run engine accepts second
      else session.run engine accepts first := by
  induction first generalizing session with
  | nil => rfl
  | cons command rest ih =>
      cases outcome : session.step engine accepts command with
      | none =>
          rw [List.cons_append, run_cons_of_none outcome, run_cons_of_none outcome]
          rfl
      | some next =>
          rw [List.cons_append, run_cons_of_some outcome, run_cons_of_some outcome]
          exact ih next

theorem attempt_cons_of_none {session : SqlSession Db} {command : SqlCommand Change}
    (failed : session.step engine accepts command = none) (rest : List (SqlCommand Change)) (complete : Bool) :
    session.attempt engine accepts (command :: rest) complete = (session.abandon, false) := by
  rw [attempt, run_cons_of_none failed]
  rfl

theorem attempt_cons_of_some {session next : SqlSession Db} {command : SqlCommand Change}
    (done : session.step engine accepts command = some next) (rest : List (SqlCommand Change)) (complete : Bool) :
    session.attempt engine accepts (command :: rest) complete = next.attempt engine accepts rest complete := by
  rw [attempt, run_cons_of_some done]
  rfl

end Engine

end SqlSession

/-- The changes that a database has taken, and whether a transaction was open for each of them. -/
abbrev SqlRecord (Change : Type*) := List (Bool × Change)

/-- This engine only keeps a record. It refuses a change when these records contain the new one. -/
def recorder {Change : Type*} (refused : SqlRecord Change → Bool) : SqlEngine Change (SqlRecord Change) :=
  fun inside change record =>
    if refused (record ++ [(inside, change)]) then none else some (record ++ [(inside, change)])

/-- The engine that refuses no change. -/
def freeRecorder {Change : Type*} : SqlEngine Change (SqlRecord Change) := recorder fun _ => false

/-- What another engine makes of the recorded changes. -/
def replay {Change Db : Type*} (engine : SqlEngine Change Db) (db : Db) (record : SqlRecord Change) : Option Db :=
  record.foldlM (fun db entry => engine entry.1 entry.2 db) db

@[simp] theorem replay_nil {Change Db : Type*} (engine : SqlEngine Change Db) (db : Db) :
    replay engine db [] = some db := rfl

theorem replay_concat {Change Db : Type*} (engine : SqlEngine Change Db) (db : Db) (record : SqlRecord Change)
    (inside : Bool) (change : Change) :
    replay engine db (record ++ [(inside, change)]) = (replay engine db record).bind (engine inside change) := by
  rw [replay, List.foldlM_append]
  show (replay engine db record).bind (fun db => (engine inside change db).bind some) = _
  congr 1
  funext db
  exact Option.bind_fun_some _

namespace SqlSession

variable {Change Db : Type*} {accepts : Bool}

/-- The new record that a command asks the engine for. -/
def asks (session : SqlSession (SqlRecord Change)) : SqlCommand Change → Option (SqlRecord Change)
  | .change change => some (session.pending.getD session.saved ++ [(session.pending.isSome, change)])
  | _ => none

/-- The new records that a script asks for as long as no change is refused. -/
def asked (accepts : Bool) : SqlSession (SqlRecord Change) → List (SqlCommand Change) → List (SqlRecord Change)
  | _, [] => []
  | session, command :: rest =>
      (session.asks command).toList ++
        match session.step freeRecorder accepts command with
        | none => []
        | some next => asked accepts next rest

/-- Refusals stop a command that asks for a refused record, and change nothing else. -/
theorem step_recorder (refused : SqlRecord Change → Bool) (session : SqlSession (SqlRecord Change))
    (command : SqlCommand Change) :
    session.step (recorder refused) accepts command =
      if (session.asks command).any refused then none else session.step freeRecorder accepts command := by
  cases command with
  | begin => rfl
  | commit => rfl
  | rollback => rfl
  | change change =>
      obtain ⟨saved, pending⟩ := session
      cases pending with
      | none =>
          show (recorder refused false change saved).map _ =
            if refused (saved ++ [(false, change)]) then none else _
          unfold recorder
          split <;> rfl
      | some record =>
          show (recorder refused true change record).map _ =
            if refused (record ++ [(true, change)]) then none else _
          unfold recorder
          split <;> rfl

theorem passed_iff {refused : SqlRecord Change → Bool} {session : SqlSession (SqlRecord Change)}
    {command : SqlCommand Change} :
    (session.asks command).any refused ≠ true ↔
      ∀ record ∈ (session.asks command).toList, refused record = false := by
  cases session.asks command with
  | none => exact iff_of_true Bool.false_ne_true fun _ absent => absurd absent List.not_mem_nil
  | some record =>
      rw [Option.any_some, ne_eq, Bool.not_eq_true]
      exact (List.forall_mem_singleton (p := fun record => refused record = false)).symm

theorem step_recorder_of_passed {refused : SqlRecord Change → Bool} {session : SqlSession (SqlRecord Change)}
    {command : SqlCommand Change} (passed : (session.asks command).any refused ≠ true) :
    session.step (recorder refused) accepts command = session.step freeRecorder accepts command := by
  rw [step_recorder, if_neg passed]

theorem step_recorder_of_none (refused : SqlRecord Change → Bool) {session : SqlSession (SqlRecord Change)}
    {command : SqlCommand Change} (failed : session.step freeRecorder accepts command = none) :
    session.step (recorder refused) accepts command = none := by
  rw [step_recorder, failed, ite_self]

theorem attempt_recorder_of_refused {refused : SqlRecord Change → Bool} {session : SqlSession (SqlRecord Change)}
    {command : SqlCommand Change} (refusal : (session.asks command).any refused = true)
    (rest : List (SqlCommand Change)) (complete : Bool) :
    session.attempt (recorder refused) accepts (command :: rest) complete = (session.abandon, false) :=
  attempt_cons_of_none (by rw [step_recorder, if_pos refusal]) rest complete

/-- A script goes through under refusals when it goes through without them and asks for no refused record. -/
theorem attempt_recorder_succeeds (accepts : Bool) (refused : SqlRecord Change → Bool)
    (session : SqlSession (SqlRecord Change)) (commands : List (SqlCommand Change)) (complete : Bool) :
    (session.attempt (recorder refused) accepts commands complete).2 = true ↔
      (session.attempt freeRecorder accepts commands complete).2 = true ∧
        ∀ record ∈ session.asked accepts commands, refused record = false := by
  induction commands generalizing session with
  | nil => exact ⟨fun done => ⟨done, fun _ absent => absurd absent List.not_mem_nil⟩, fun both => both.1⟩
  | cons command rest ih =>
      cases outcome : session.step freeRecorder accepts command with
      | none =>
          rw [attempt_cons_of_none outcome, attempt_cons_of_none (step_recorder_of_none refused outcome)]
          exact ⟨fun done => absurd done Bool.false_ne_true, fun both => both.1⟩
      | some next =>
          rw [attempt_cons_of_some outcome, asked, outcome]
          by_cases refusal : (session.asks command).any refused = true
          · rw [attempt_recorder_of_refused refusal]
            refine ⟨fun done => absurd done Bool.false_ne_true, fun both => absurd refusal ?_⟩
            exact passed_iff.mpr fun record member => both.2 record (List.mem_append_left _ member)
          · rw [attempt_cons_of_some ((step_recorder_of_passed refusal).trans outcome), ih next]
            refine and_congr_right fun _ => ⟨fun later record member => ?_, fun all record member =>
              all record (List.mem_append_right _ member)⟩
            rcases List.mem_append.mp member with now | later'
            · exact passed_iff.mp refusal record now
            · exact later record later'

/-- Refusals do not change where a script ends that goes through. -/
theorem attempt_recorder_eq {refused : SqlRecord Change → Bool} {session : SqlSession (SqlRecord Change)}
    {commands : List (SqlCommand Change)} {complete : Bool}
    (done : (session.attempt (recorder refused) accepts commands complete).2 = true) :
    session.attempt (recorder refused) accepts commands complete =
      session.attempt freeRecorder accepts commands complete := by
  induction commands generalizing session with
  | nil => rfl
  | cons command rest ih =>
      have passed : (session.asks command).any refused ≠ true := by
        intro refusal
        rw [attempt_recorder_of_refused refusal] at done
        exact absurd done Bool.false_ne_true
      cases outcome : session.step freeRecorder accepts command with
      | none =>
          rw [attempt_cons_of_none (step_recorder_of_none refused outcome), attempt_cons_of_none outcome]
      | some next =>
          have kept := (step_recorder_of_passed passed).trans outcome
          rw [attempt_cons_of_some kept] at done ⊢
          rw [attempt_cons_of_some outcome]
          exact ih done

/-- The session of an engine holds what its own session of records comes to. -/
structure Shows (engine : SqlEngine Change Db) (db : Db) (records : SqlSession (SqlRecord Change))
    (session : SqlSession Db) : Prop where
  saved : replay engine db records.saved = some session.saved
  pending : records.pending.map (replay engine db) = session.pending.map some

/-- The records that an engine refuses from this database on. -/
def refusedBy (engine : SqlEngine Change Db) (db : Db) (record : SqlRecord Change) : Bool :=
  (replay engine db record).isNone

private theorem rel_cases {First Second : Type*} {both : First → Second → Prop} {first : Option First}
    {second : Option Second} (related : Option.Rel both first second) :
    first = none ∧ second = none ∨ ∃ x y, first = some x ∧ second = some y ∧ both x y := by
  cases related with
  | none => exact .inl ⟨rfl, rfl⟩
  | some same => exact .inr ⟨_, _, rfl, rfl, same⟩

theorem Shows.change {engine : SqlEngine Change Db} {db current : Db} {record : SqlRecord Change}
    (shown : replay engine db record = some current) (inside : Bool) (change : Change) :
    Option.Rel (fun next db' => replay engine db next = some db')
      (recorder (refusedBy engine db) inside change record) (engine inside change current) := by
  have replayed : replay engine db (record ++ [(inside, change)]) = engine inside change current := by
    rw [replay_concat, shown, Option.bind_some]
  unfold recorder refusedBy
  rw [replayed]
  cases answer : engine inside change current with
  | none => exact .none
  | some next => exact .some (replayed.trans answer)

private theorem rel_map {First Second Third Fourth : Type*} {before : First → Second → Prop}
    {after : Third → Fourth → Prop} {left : First → Third} {right : Second → Fourth} {first : Option First}
    {second : Option Second} (both : Option.Rel before first second)
    (kept : ∀ x y, before x y → after (left x) (right y)) :
    Option.Rel after (first.map left) (second.map right) := by
  cases both with
  | none => exact .none
  | some same => exact .some (kept _ _ same)

/-- Both sessions fail together, and otherwise they stay together. -/
theorem Shows.step {engine : SqlEngine Change Db} {db : Db} {records : SqlSession (SqlRecord Change)}
    {session : SqlSession Db} (shows : Shows engine db records session) (accepts : Bool)
    (command : SqlCommand Change) :
    Option.Rel (Shows engine db) (records.step (recorder (refusedBy engine db)) accepts command)
      (session.step engine accepts command) := by
  obtain ⟨recorded, open'⟩ := records
  obtain ⟨saved, pending⟩ := session
  obtain ⟨savedShown, pendingShown⟩ := shows
  cases open' with
  | none =>
      cases pending with
      | some db => exact absurd pendingShown (by simp)
      | none =>
          cases command with
          | begin => exact .some ⟨savedShown, congrArg some savedShown⟩
          | commit => exact .none
          | rollback => exact .none
          | change change => exact rel_map (Shows.change savedShown false change) fun _ _ same => ⟨same, rfl⟩
  | some record =>
      cases pending with
      | none => exact absurd pendingShown (by simp)
      | some current =>
          have shown : replay engine db record = some current := Option.some.inj pendingShown
          cases command with
          | begin => exact .none
          | commit =>
              cases accepts with
              | false => exact .none
              | true => exact .some ⟨shown, rfl⟩
          | rollback => exact .some ⟨savedShown, rfl⟩
          | change change =>
              exact rel_map (Shows.change shown true change) fun _ _ same => ⟨savedShown, congrArg some same⟩

/-- The engine decides as its own records do, and its database is what these come to. -/
theorem Shows.attempt {engine : SqlEngine Change Db} {db : Db} {records : SqlSession (SqlRecord Change)}
    {session : SqlSession Db} (shows : Shows engine db records session) (accepts : Bool)
    (commands : List (SqlCommand Change)) (complete : Bool) :
    (records.attempt (recorder (refusedBy engine db)) accepts commands complete).2 =
        (session.attempt engine accepts commands complete).2 ∧
      Shows engine db (records.attempt (recorder (refusedBy engine db)) accepts commands complete).1
        (session.attempt engine accepts commands complete).1 := by
  induction commands generalizing records session with
  | nil =>
      cases complete with
      | false => exact ⟨rfl, shows.saved, rfl⟩
      | true =>
          show (finish (recorder (refusedBy engine db)) accepts true records).2 =
              (finish engine accepts true session).2 ∧
            Shows engine db (finish (recorder (refusedBy engine db)) accepts true records).1
              (finish engine accepts true session).1
          unfold finish
          rcases rel_cases (shows.step accepts .commit) with ⟨first, second⟩ | ⟨_, _, first, second, later⟩
          · rw [first, second]
            exact ⟨rfl, shows⟩
          · rw [first, second]
            exact ⟨rfl, later⟩
  | cons command rest ih =>
      rcases rel_cases (shows.step accepts command) with ⟨first, second⟩ | ⟨_, _, first, second, later⟩
      · rw [attempt_cons_of_none first, attempt_cons_of_none second]
        exact ⟨rfl, shows.saved, rfl⟩
      · rw [attempt_cons_of_some first, attempt_cons_of_some second]
        exact ih later

/-- A failure leaves the database as it was, with no open transaction. -/
def Clean (db : Db) (result : SqlSession Db × Bool) : Prop := result.2 = false → result.1 = ⟨db, none⟩

/-- The script has saved nothing wherever it can fail. It cannot be refused a record that it knows. -/
def Safe (accepts complete : Bool) :
    List (SqlRecord Change) → SqlSession (SqlRecord Change) → List (SqlCommand Change) → Prop
  | _, session, [] => if complete ∧ session.pending.isSome then accepts = true else session.saved = []
  | known, session, command :: rest =>
      (∀ record ∈ session.asks command, record ∉ known → session.saved = []) ∧
        match session.step freeRecorder accepts command with
        | none => session.saved = []
        | some next => Safe accepts complete (known ++ (session.asks command).toList) next rest

theorem clean_abandon {session : SqlSession (SqlRecord Change)} :
    Clean [] (session.abandon, false) ↔ session.saved = [] := by
  constructor
  · intro clean
    exact congrArg SqlSession.saved (clean rfl)
  · intro empty _
    show (⟨session.saved, none⟩ : SqlSession (SqlRecord Change)) = ⟨[], none⟩
    rw [empty]

theorem clean_finish {engine : SqlEngine Change (SqlRecord Change)} {session : SqlSession (SqlRecord Change)}
    {complete : Bool} :
    Clean [] (finish engine accepts complete session) ↔
      if complete ∧ session.pending.isSome then accepts = true else session.saved = [] := by
  obtain ⟨saved, pending⟩ := session
  cases complete with
  | false => exact clean_abandon
  | true =>
      cases pending with
      | none =>
          constructor
          · intro clean
            exact congrArg SqlSession.saved (clean rfl)
          · intro empty _
            exact congrArg (SqlSession.mk · none) empty
      | some record =>
          cases accepts with
          | false => exact ⟨fun clean => absurd (congrArg SqlSession.pending (clean rfl)) (by simp [finish, step]),
              fun accepted => absurd accepted Bool.false_ne_true⟩
          | true => exact ⟨fun _ => rfl, fun _ done => absurd done (by simp [finish, step])⟩

/-- A safe script is clean whatever is refused, and a script that is not safe can be refused a record
that makes it unclean. -/
theorem safe_iff [DecidableEq Change] {complete : Bool} (known : List (SqlRecord Change))
    (session : SqlSession (SqlRecord Change)) (commands : List (SqlCommand Change)) :
    (∀ refused : SqlRecord Change → Bool, (∀ record ∈ known, refused record = false) →
        Clean [] (session.attempt (recorder refused) accepts commands complete)) ↔
      Safe accepts complete known session commands := by
  induction commands generalizing known session with
  | nil =>
      constructor
      · intro clean
        exact clean_finish.mp (clean (fun _ => false) fun _ _ => rfl)
      · intro safe refused _
        exact clean_finish.mpr safe
  | cons command rest ih =>
      rw [Safe]
      constructor
      · intro clean
        refine ⟨fun record asks new => ?_, ?_⟩
        · -- The engine that refuses just this record stops here.
          have stops := clean (fun other => other == record)
            fun other member => beq_eq_false_iff_ne.mpr fun same => new (same ▸ member)
          rw [attempt_recorder_of_refused (by rw [asks]; exact beq_self_eq_true record)] at stops
          exact clean_abandon.mp stops
        · cases outcome : session.step freeRecorder accepts command with
          | none =>
              have stopped : session.step (recorder fun _ => false) accepts command = none := outcome
              have stops := clean (fun _ => false) fun _ _ => rfl
              rw [attempt_cons_of_none stopped] at stops
              exact clean_abandon.mp stops
          | some next =>
              refine (ih _ next).mp fun refused passes => ?_
              have passed : (session.asks command).any refused ≠ true :=
                passed_iff.mpr fun record member => passes record (List.mem_append_right _ member)
              have kept := (step_recorder_of_passed passed).trans outcome
              have later := clean refused fun record member => passes record (List.mem_append_left _ member)
              rw [attempt_cons_of_some kept] at later
              exact later
      · rintro ⟨now, later⟩ refused passes
        by_cases refusal : (session.asks command).any refused = true
        · rw [attempt_recorder_of_refused refusal]
          obtain ⟨record, asks, bad⟩ := (Option.any_eq_true _ _).mp refusal
          exact clean_abandon.mpr (now record asks fun member =>
            absurd (bad.symm.trans (passes record member)) (by decide))
        · have same : session.step (recorder refused) accepts command =
              session.step freeRecorder accepts command := step_recorder_of_passed refusal
          cases outcome : session.step freeRecorder accepts command with
          | none =>
              rw [outcome] at later same
              rw [attempt_cons_of_none same]
              exact clean_abandon.mpr later
          | some next =>
              rw [outcome] at later same
              rw [attempt_cons_of_some same]
              refine (ih _ next).mpr later refused fun record member => ?_
              rcases List.mem_append.mp member with old | new
              · exact passes record old
              · exact passed_iff.mp refusal record new

/-- A session whose transaction has just begun. -/
def begun (db : Db) : SqlSession Db := ⟨db, some db⟩

/-- The commands that reach the engine, and whether the text that holds them is complete. -/
abbrev Script (Change : Type*) := List (SqlCommand Change) × Bool

/-- The first script, in a transaction, does the same as the second one, and it is clean. -/
structure Carries (engine : SqlEngine Change Db) (accepts : Bool) (db : Db) (fed whole : Script Change) :
    Prop where
  succeeds : ((begun db).attempt engine accepts fed.1 fed.2).2 = true ↔
    ((begun db).attempt engine accepts whole.1 whole.2).2 = true
  same : ((begun db).attempt engine accepts fed.1 fed.2).2 = true →
    (begun db).attempt engine accepts fed.1 fed.2 = (begun db).attempt engine accepts whole.1 whole.2
  clean : Clean db ((begun db).attempt engine accepts fed.1 fed.2)

instance Safe.decidable [DecidableEq Change] (accepts complete : Bool) :
    (known : List (SqlRecord Change)) → (session : SqlSession (SqlRecord Change)) →
      (commands : List (SqlCommand Change)) → Decidable (Safe accepts complete known session commands)
  | _, session, [] =>
      inferInstanceAs (Decidable (if complete ∧ session.pending.isSome then accepts = true else session.saved = []))
  | known, session, command :: rest =>
      have : Decidable (match session.step freeRecorder accepts command with
          | none => session.saved = []
          | some next => Safe accepts complete (known ++ (session.asks command).toList) next rest) :=
        match session.step freeRecorder accepts command with
        | none => inferInstanceAs (Decidable (session.saved = []))
        | some next => Safe.decidable accepts complete (known ++ (session.asks command).toList) next rest
      inferInstanceAs (Decidable (_ ∧ _))

/-- What a script does when no change is refused. -/
def unrefused (accepts : Bool) (script : Script Change) : SqlSession (SqlRecord Change) × Bool :=
  (begun []).attempt freeRecorder accepts script.1 script.2

/-- Either no script can go through, or both go through, end in the same record and ask the engine for
the same records. -/
def Agrees (accepts : Bool) (fed whole : Script Change) : Prop :=
  ((unrefused accepts fed).2 = true ↔ (unrefused accepts whole).2 = true) ∧
    ((unrefused accepts fed).2 = true →
      unrefused accepts fed = unrefused accepts whole ∧
        (begun []).asked accepts fed.1 ⊆ (begun []).asked accepts whole.1 ∧
        (begun []).asked accepts whole.1 ⊆ (begun []).asked accepts fed.1)

instance [DecidableEq Change] (accepts : Bool) (fed whole : Script Change) :
    Decidable (Agrees accepts fed whole) := inferInstanceAs (Decidable (_ ∧ _))

theorem shows_begun (engine : SqlEngine Change Db) (db : Db) : Shows engine db (begun []) (begun db) :=
  ⟨rfl, rfl⟩

/-- The records of a session determine it. -/
theorem Shows.unique {engine : SqlEngine Change Db} {db : Db} {records : SqlSession (SqlRecord Change)}
    {first second : SqlSession Db} (one : Shows engine db records first) (other : Shows engine db records second) :
    first = second := by
  have pendings := one.pending.symm.trans other.pending
  obtain ⟨saved, pending⟩ := first
  obtain ⟨saved', pending'⟩ := second
  have same : saved = saved' := Option.some.inj (one.saved.symm.trans other.saved)
  have same' : pending = pending' := Option.map_injective (Option.some_injective Db) pendings
  rw [same, same']

end SqlSession

namespace SqlSession

universe u

variable {Change : Type u} {accepts : Bool} {fed whole : Script Change}

/-- The first script asks for nothing that the second one does not ask for, since an engine may refuse it. -/
theorem asked_subset {first second : Script Change} [DecidableEq Change]
    (follows : ∀ refused : SqlRecord Change → Bool,
      ((begun []).attempt (recorder refused) accepts second.1 second.2).2 = true →
        ((begun []).attempt (recorder refused) accepts first.1 first.2).2 = true)
    (done : (unrefused accepts second).2 = true) :
    (begun []).asked accepts first.1 ⊆ (begun []).asked accepts second.1 := by
  intro record asked
  by_contra absent
  have passes := (attempt_recorder_succeeds accepts (fun other => other == record) _ second.1 second.2).mpr
    ⟨done, fun other member => beq_eq_false_iff_ne.mpr fun same => absent (same ▸ member)⟩
  have free := ((attempt_recorder_succeeds _ _ _ _ _).mp (follows _ passes)).2 record asked
  exact absurd (free.symm.trans (beq_self_eq_true record)) (by decide)

/-- One script does the same as another in every engine exactly when both agree where nothing is refused
and the first one has saved nothing wherever it can fail. -/
theorem carries_iff [DecidableEq Change] :
    (∀ (Db : Type u) (engine : SqlEngine Change Db) (db : Db), Carries engine accepts db fed whole) ↔
      Agrees accepts fed whole ∧ Safe accepts fed.2 [] (begun []) fed.1 := by
  constructor
  · intro carries
    have recorded (refused : SqlRecord Change → Bool) := carries _ (recorder refused) []
    refine ⟨⟨(recorded fun _ => false).succeeds, fun done => ⟨(recorded fun _ => false).same done, ?_, ?_⟩⟩,
      (safe_iff [] _ _).mp fun refused _ => (recorded refused).clean⟩
    · exact asked_subset (fun refused => (recorded refused).succeeds.mpr) ((recorded fun _ => false).succeeds.mp done)
    · exact asked_subset (fun refused => (recorded refused).succeeds.mp) done
  · rintro ⟨⟨through, agree⟩, safe⟩ Db engine db
    have showsFed := (shows_begun engine db).attempt accepts fed.1 fed.2
    have showsWhole := (shows_begun engine db).attempt accepts whole.1 whole.2
    have passesFed := attempt_recorder_succeeds accepts (refusedBy engine db) (begun []) fed.1 fed.2
    have passesWhole := attempt_recorder_succeeds accepts (refusedBy engine db) (begun []) whole.1 whole.2
    rw [showsFed.1] at passesFed
    rw [showsWhole.1] at passesWhole
    have succeeds : ((begun db).attempt engine accepts fed.1 fed.2).2 = true ↔
        ((begun db).attempt engine accepts whole.1 whole.2).2 = true := by
      rw [passesFed, passesWhole]
      constructor
      · rintro ⟨done, passes⟩
        exact ⟨through.mp done, fun record asked => passes record ((agree done).2.2 asked)⟩
      · rintro ⟨done, passes⟩
        exact ⟨through.mpr done, fun record asked => passes record ((agree (through.mpr done)).2.1 asked)⟩
    refine ⟨succeeds, fun done => ?_, fun failed => ?_⟩
    · have fedEnds := attempt_recorder_eq (showsFed.1.trans done)
      have wholeEnds := attempt_recorder_eq (showsWhole.1.trans (succeeds.mp done))
      have same := (agree (passesFed.mp done).1).1
      have shown := showsFed.2
      rw [fedEnds, show (begun []).attempt freeRecorder accepts fed.1 fed.2 =
        (begun []).attempt freeRecorder accepts whole.1 whole.2 from same, ← wholeEnds] at shown
      exact Prod.ext (shown.unique showsWhole.2) (done.trans (succeeds.mp done).symm)
    · have clean := (safe_iff [] (begun []) fed.1).mpr safe (refusedBy engine db)
        fun _ absent => absurd absent List.not_mem_nil
      have shown := showsFed.2
      rw [clean (showsFed.1.trans failed)] at shown
      exact shown.unique ⟨rfl, rfl⟩

/-- Changes within a transaction only make its record longer. -/
theorem run_changes (accepts : Bool) (saved record : SqlRecord Change) (changes : List Change) :
    (⟨saved, some record⟩ : SqlSession (SqlRecord Change)).run freeRecorder accepts (changes.map .change) =
      (⟨saved, some (record ++ changes.map (true, ·))⟩, true) := by
  induction changes generalizing record with
  | nil => rw [List.map_nil, List.map_nil, run_nil, List.append_nil]
  | cons change rest ih =>
      have done : (⟨saved, some record⟩ : SqlSession (SqlRecord Change)).step freeRecorder accepts (.change change) =
          some ⟨saved, some (record ++ [(true, change)])⟩ := rfl
      rw [List.map_cons, run_cons_of_some done, ih, List.map_cons, List.append_assoc, List.singleton_append]

theorem unrefused_changes (changes : List Change) (complete : Bool) :
    unrefused accepts (changes.map .change, complete) =
      if complete then
        if accepts then (⟨changes.map (true, ·), none⟩, true) else (⟨[], some (changes.map (true, ·))⟩, false)
      else (⟨[], none⟩, false) := by
  have ran := run_changes accepts [] [] changes
  unfold unrefused attempt begun
  rw [ran, List.nil_append]
  cases complete <;> cases accepts <;> rfl

/-- Nothing is saved before the end, so only the end can be unclean. -/
theorem safe_changes_iff {complete : Bool} (known : List (SqlRecord Change)) (record : SqlRecord Change)
    (changes : List Change) :
    Safe accepts complete known ⟨[], some record⟩ (changes.map .change) ↔ (complete = true → accepts = true) := by
  induction changes generalizing known record with
  | nil => cases complete <;> simp [Safe]
  | cons change rest ih =>
      refine ⟨fun safe => (ih _ _).mp safe.2, fun accepted => ⟨fun _ _ _ => rfl, (ih _ _).mpr accepted⟩⟩

/-- Without commands for transactions, both scripts must be complete and make the same changes, or both
must be incomplete. If the engine refuses to commit, only an incomplete script is handled. -/
theorem changes_carry_iff {changes changes' : List Change} {complete complete' : Bool} :
    Agrees accepts (changes.map .change, complete) (changes'.map .change, complete') ∧
        Safe accepts complete [] (begun []) (changes.map .change) ↔
      if accepts then complete = complete' ∧ (complete = true → changes = changes') else complete = false := by
  rw [begun, safe_changes_iff, Agrees, unrefused_changes, unrefused_changes]
  cases accepts with
  | false =>
      rw [if_neg Bool.false_ne_true]
      constructor
      · intro both
        exact Bool.eq_false_iff.mpr fun done => Bool.false_ne_true (both.2 done)
      · rintro rfl
        cases complete' <;> simp
  | true =>
      rw [if_pos rfl]
      cases complete with
      | false => cases complete' <;> simp
      | true =>
          cases complete' with
          | false => simp
          | true =>
              have injective : Function.Injective fun change : Change => (true, change) :=
                fun _ _ same => (Prod.mk.inj same).2
              constructor
              · rintro ⟨⟨_, agree⟩, _⟩
                have same := congrArg SqlSession.saved (congrArg Prod.fst (agree rfl).1)
                exact ⟨rfl, fun _ => injective.list_map same⟩
              · rintro ⟨_, same⟩
                obtain rfl := same rfl
                exact ⟨⟨Iff.rfl, fun _ => ⟨rfl, List.Subset.refl _, List.Subset.refl _⟩⟩, fun _ => rfl⟩

end SqlSession

def byteOf (char : Char) : UInt8 := UInt8.ofNat char.toNat

def sqlBytes (text : String) : List UInt8 := text.toList.map byteOf

/-- A word holds its letters in lower case. -/
inductive SqlToken where
  | semicolon
  | word (letters : List UInt8)
  | other
  deriving DecidableEq, Repr

/-- The tokens that decide where a statement ends. -/
inductive SqlKeyword where
  | semicolon | other | explain | create | temp | trigger | finish
  deriving DecidableEq, Repr

def SqlToken.spells (token : SqlToken) (text : String) : Bool := token = .word (sqlBytes text)

def SqlToken.keyword (token : SqlToken) : SqlKeyword :=
  if token = .semicolon then .semicolon
  else if token.spells "explain" then .explain
  else if token.spells "create" then .create
  else if token.spells "temp" || token.spells "temporary" then .temp
  else if token.spells "trigger" then .trigger
  else if token.spells "end" then .finish
  else .other

/-- How far a statement is. The body of a trigger holds statements of its own, up to an `END;`. -/
inductive SqlStage where
  | start | normal | explain | create | trigger | semicolon | finish
  deriving DecidableEq, Repr

/-- These are the transitions of `sqlite3_complete`. -/
def SqlStage.next : SqlStage → SqlKeyword → SqlStage
  | .trigger, .semicolon => .semicolon
  | .semicolon, .semicolon => .semicolon
  | _, .semicolon => .start
  | .start, .explain => .explain
  | .start, .create => .create
  | .start, _ => .normal
  | .normal, _ => .normal
  | .explain, .other => .explain
  | .explain, .create => .create
  | .explain, _ => .normal
  | .create, .temp => .create
  | .create, .trigger => .trigger
  | .create, _ => .normal
  | .trigger, _ => .trigger
  | .semicolon, .finish => .finish
  | .semicolon, _ => .trigger
  | .finish, _ => .trigger

/-- What the next byte belongs to. A dash or a slash may begin a comment. -/
inductive SqlLexeme where
  | between
  | word (letters : List UInt8)
  | dash
  | slash
  | lineComment
  | blockOpen
  | blockComment
  | blockStar
  | quoted (close : UInt8)
  deriving DecidableEq, Repr

/-- The end of the text ends a comment. An opening alone is no comment yet. -/
def SqlLexeme.isBlank : SqlLexeme → Bool
  | .between | .lineComment | .blockComment | .blockStar => true
  | _ => false

def isSqlSpace (byte : UInt8) : Bool :=
  byte = byteOf ' ' ∨ byte = byteOf '\t' ∨ byte = byteOf '\n' ∨ byte = byteOf '\r' ∨ byte = 0x0C

def isSqlUpper (byte : UInt8) : Bool := byteOf 'A' ≤ byte ∧ byte ≤ byteOf 'Z'

/-- Every byte of a multibyte character may stand in a word. -/
def isSqlWord (byte : UInt8) : Bool :=
  isSqlUpper byte ∨ (byteOf 'a' ≤ byte ∧ byte ≤ byteOf 'z') ∨
    (byteOf '0' ≤ byte ∧ byte ≤ byteOf '9') ∨ byte = byteOf '_' ∨ byte = byteOf '$' ∨ 0x80 ≤ byte

def sqlLower (byte : UInt8) : UInt8 := if isSqlUpper byte then byte + 0x20 else byte

/-- The text of a statement runs from its first token to its semicolon. -/
structure SqlStatement where
  text : List UInt8
  tokens : List SqlToken
  deriving DecidableEq, Repr

/-- The statement that is being read, and the statements before it. -/
structure SqlScanner where
  stage : SqlStage
  lexeme : SqlLexeme
  text : List UInt8
  tokens : List SqlToken
  statements : List SqlStatement
  deriving DecidableEq, Repr

namespace SqlScanner

def initial : SqlScanner := ⟨.start, .between, [], [], []⟩

/-- A semicolon without a statement is no statement. -/
def emit (scanner : SqlScanner) (token : SqlToken) : SqlScanner :=
  let tokens := scanner.tokens ++ [token]
  if scanner.stage.next token.keyword = .start then
    ⟨.start, .between, [], [],
      if scanner.tokens = [] then scanner.statements else scanner.statements ++ [⟨scanner.text, tokens⟩]⟩
  else ⟨scanner.stage.next token.keyword, .between, scanner.text, tokens, scanner.statements⟩

def within (scanner : SqlScanner) (lexeme : SqlLexeme) : SqlScanner := { scanner with lexeme := lexeme }

/-- A byte that stands between two lexemes. -/
def begin (scanner : SqlScanner) (byte : UInt8) : SqlScanner :=
  if byte = byteOf ';' then scanner.emit .semicolon
  else if isSqlSpace byte then scanner.within .between
  else if isSqlWord byte then scanner.within (.word [sqlLower byte])
  else if byte = byteOf '-' then scanner.within .dash
  else if byte = byteOf '/' then scanner.within .slash
  else if byte = byteOf '[' then (scanner.emit .other).within (.quoted (byteOf ']'))
  else if byte = byteOf '\'' ∨ byte = byteOf '"' ∨ byte = 0x60 then (scanner.emit .other).within (.quoted byte)
  else scanner.emit .other

/-- A byte that does not continue a word, a dash or a slash is read behind it. -/
def read (scanner : SqlScanner) (byte : UInt8) : SqlScanner :=
  match scanner.lexeme with
  | .between => scanner.begin byte
  | .word letters =>
      if isSqlWord byte then scanner.within (.word (letters ++ [sqlLower byte]))
      else (scanner.emit (.word letters)).begin byte
  | .dash => if byte = byteOf '-' then scanner.within .lineComment else (scanner.emit .other).begin byte
  | .slash => if byte = byteOf '*' then scanner.within .blockOpen else (scanner.emit .other).begin byte
  | .lineComment => if byte = byteOf '\n' then scanner.within .between else scanner
  | .blockOpen => scanner.within (if byte = byteOf '*' then .blockStar else .blockComment)
  | .blockComment => scanner.within (if byte = byteOf '*' then .blockStar else .blockComment)
  | .blockStar =>
      scanner.within (if byte = byteOf '/' then .between else if byte = byteOf '*' then .blockStar
        else .blockComment)
  | .quoted close => if byte = close then scanner.within .between else scanner

/-- Nothing is left but white space and comments. -/
def complete (scanner : SqlScanner) : Bool := scanner.stage = .start ∧ scanner.lexeme.isBlank

/-- What stands before the first token is not part of a statement. -/
def tidy (scanner : SqlScanner) : SqlScanner := if scanner.complete then { scanner with text := [] } else scanner

def feed (scanner : SqlScanner) (byte : UInt8) : SqlScanner :=
  (({ scanner with text := scanner.text ++ [byte] } : SqlScanner).read byte).tidy

def scan (scanner : SqlScanner) (text : List UInt8) : SqlScanner := text.foldl feed scanner

end SqlScanner

/-- The words that may stand behind a command for transactions. The name of a transaction means nothing. -/
def isTransactionTail : List SqlToken → Bool
  | [.semicolon] => true
  | [first, .semicolon] => first.spells "transaction"
  | [first, .word _, .semicolon] => first.spells "transaction"
  | _ => false

/-- A transaction begins with a lock mode or without one. -/
def isBeginTail : List SqlToken → Bool
  | [] => false
  | mode :: rest =>
      isTransactionTail (mode :: rest) ||
        (mode.spells "deferred" || mode.spells "immediate" || mode.spells "exclusive") && isTransactionTail rest

/-- A savepoint and the way back to it are changes of what a transaction holds. -/
def SqlStatement.command (statement : SqlStatement) : SqlCommand (List UInt8) :=
  match statement.tokens with
  | [] => .change statement.text
  | first :: rest =>
      if first.spells "begin" && isBeginTail rest then .begin
      else if (first.spells "commit" || first.spells "end") && isTransactionTail rest then .commit
      else if first.spells "rollback" && isTransactionTail rest then .rollback
      else .change statement.text

/-- The complete statements of a text, and whether the text holds nothing else. -/
def splitScript (text : List UInt8) : List SqlStatement × Bool :=
  ((SqlScanner.initial.scan text).statements, (SqlScanner.initial.scan text).complete)

namespace SqlScanner

/-- The same scanner behind other statements. -/
def after (scanner : SqlScanner) (before : List SqlStatement) : SqlScanner :=
  { scanner with statements := before ++ scanner.statements }

theorem scan_append (scanner : SqlScanner) (first second : List UInt8) :
    scanner.scan (first ++ second) = (scanner.scan first).scan second := List.foldl_append

theorem within_after (scanner : SqlScanner) (before : List SqlStatement) (lexeme : SqlLexeme) :
    (scanner.after before).within lexeme = (scanner.within lexeme).after before := rfl

theorem emit_after (scanner : SqlScanner) (before : List SqlStatement) (token : SqlToken) :
    (scanner.after before).emit token = (scanner.emit token).after before := by
  unfold emit after
  dsimp only
  split
  · split
    · rfl
    · rw [List.append_assoc]
  · rfl

theorem begin_after (scanner : SqlScanner) (before : List SqlStatement) (byte : UInt8) :
    (scanner.after before).begin byte = (scanner.begin byte).after before := by
  unfold begin
  simp only [emit_after, within_after]
  split_ifs <;> rfl

theorem emit_begin_after (scanner : SqlScanner) (before : List SqlStatement) (token : SqlToken) (byte : UInt8) :
    ((scanner.after before).emit token).begin byte = ((scanner.emit token).begin byte).after before := by
  rw [emit_after, begin_after]

theorem read_after (scanner : SqlScanner) (before : List SqlStatement) (byte : UInt8) :
    (scanner.after before).read byte = (scanner.read byte).after before := by
  unfold read
  rw [show (scanner.after before).lexeme = scanner.lexeme from rfl]
  cases scanner.lexeme with
  | between => exact begin_after scanner before byte
  | word letters =>
      dsimp only
      rw [emit_begin_after, within_after, apply_ite (after · before)]
  | dash =>
      dsimp only
      rw [emit_begin_after, within_after, apply_ite (after · before)]
  | slash =>
      dsimp only
      rw [emit_begin_after, within_after, apply_ite (after · before)]
  | lineComment =>
      dsimp only
      rw [within_after, apply_ite (after · before)]
  | blockOpen => rfl
  | blockComment => rfl
  | blockStar => rfl
  | quoted close =>
      dsimp only
      rw [within_after, apply_ite (after · before)]

theorem tidy_after (scanner : SqlScanner) (before : List SqlStatement) :
    (scanner.after before).tidy = scanner.tidy.after before := by
  unfold tidy
  show (if scanner.complete then _ else _) = _
  split <;> rfl

theorem feed_after (scanner : SqlScanner) (before : List SqlStatement) (byte : UInt8) :
    (scanner.after before).feed byte = (scanner.feed byte).after before := by
  unfold feed
  rw [← tidy_after, ← read_after]
  rfl

/-- What is read does not depend on the statements before it. -/
theorem scan_after (scanner : SqlScanner) (before : List SqlStatement) (text : List UInt8) :
    (scanner.after before).scan text = (scanner.scan text).after before := by
  induction text generalizing scanner with
  | nil => rfl
  | cons byte rest ih =>
      show ((scanner.after before).feed byte).scan rest = _
      rw [feed_after]
      exact ih (scanner.feed byte)

/-- The text ends between two statements. -/
def Settled (text : List UInt8) : Prop := initial.scan text = initial.after (splitScript text).1

instance (text : List UInt8) : Decidable (Settled text) := inferInstanceAs (Decidable (_ = _))

theorem Settled.complete {text : List UInt8} (settled : Settled text) : (splitScript text).2 = true := by
  show (initial.scan text).complete = true
  rw [settled]
  rfl

theorem Settled.splitScript_append {first : List UInt8} (settled : Settled first) (second : List UInt8) :
    splitScript (first ++ second) = ((splitScript first).1 ++ (splitScript second).1, (splitScript second).2) := by
  have scanned : initial.scan (first ++ second) = (initial.scan second).after (splitScript first).1 := by
    rw [scan_append, settled, scan_after]
  unfold splitScript at scanned ⊢
  rw [scanned]
  rfl

/-- A text whose pieces all end between statements holds the statements of its pieces. -/
theorem splitScript_flatten {pieces : List (List UInt8)} (settled : ∀ piece ∈ pieces, Settled piece) :
    splitScript pieces.flatten = (pieces.flatMap fun piece => (splitScript piece).1, true) := by
  induction pieces with
  | nil => rfl
  | cons piece rest ih =>
      rw [List.flatten_cons, (settled piece List.mem_cons_self).splitScript_append,
        ih fun other member => settled other (List.mem_cons_of_mem piece member), List.flatMap_cons]

end SqlScanner

end SecureChat.Library
