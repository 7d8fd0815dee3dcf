import SecureChat.Construction.FileTransfer.Rounds
import Mathlib.Data.Prod.Lex

namespace SecureChat.FileTransfer
open Library

/-- The session that the manager turns to is prepared, nobody keeps its mutex,
and the callback that is called leaves the mutex alone. -/
def ProcessAllowed (session : RoundSession) (answers : ProcessAnswers) : Prop :=
  session.managed.blocked = false ∧ session.managed.session.status ≠ .pending ∧
    (session.managed.session.status = .transferring → answers.tempSize.isSome = true →
      session.managed.session.totalBytes ≠ 0 → session.callbacks.progress = false) ∧
    (session.managed.session.status = .completed → session.callbacks.completion = false)

/-- A session is locked only when it has timed out. -/
def TimeoutAllowed (config : Config) (session : RoundSession) (now : Int) : Prop :=
  timedOut config session.managed.session now = true →
    session.managed.blocked = false ∧
      (session.managed.session.status = .transferring ∨ session.managed.session.status = .pending →
        session.callbacks.error = false)

def TurnAllowed (config : Config) (state : ManagerRound) (answers : ProcessAnswers) : Prop :=
  match state.phase with
  | .processing (address :: _) =>
      state.running = true → ∀ session, state.find address = some session → ProcessAllowed session answers
  | .checking (address :: _) =>
      ∀ session, state.find address = some session → TimeoutAllowed config session answers.now
  | _ => True

/-- Nothing that other threads do blocks the manager at once. -/
def RoundAllowed (config : Config) (state : ManagerRound) : RoundInput → Prop
  | .manager answers => TurnAllowed config state answers
  | _ => True

/-- A turn of the manager. -/
def RoundInput.isTurn : RoundInput → Prop
  | .manager _ => True
  | _ => False

/-- The manager is between two rounds, or it has stopped. -/
def ManagerRound.RoundOver (state : ManagerRound) : Prop := state.phase = .idle ∨ state.phase = .stopped

section Locks

theorem callbackOps_plain (locks : Bool) : LockOp.Plain (callbackOps locks) := by
  cases locks
  · exact LockOp.plain_nil
  · exact LockOp.plain_lock _

theorem callbackOps_eq_nil (locks : Bool) : callbackOps locks = [] ↔ locks = false := by
  cases locks <;> simp [callbackOps]

theorem goes_callbackOps (locks : Bool) : LockOp.Goes false (callbackOps locks) := by
  cases locks <;> exact nofun

variable (config : Config) (session : RoundSession)

theorem processOps_goes_iff (answers : ProcessAnswers) :
    LockOp.Goes session.managed.blocked (processOps config session answers) ↔
      ProcessAllowed session answers := by
  have tail (locks : Bool) (done : Prop) [Decidable done] :
      LockOp.Goes true (.unlock :: (if done then callbackOps locks else [])) := by
    rw [LockOp.goes_unlock_iff]
    split
    · exact goes_callbackOps locks
    · exact LockOp.goes_nil false
  unfold processOps ProcessAllowed
  dsimp only
  rw [LockOp.goes_lock_iff]
  apply and_congr_right
  intro _
  cases status : session.managed.session.status with
  | pending => exact iff_of_false (fun goes => goes rfl) fun allowed => allowed.1 rfl
  | transferring =>
      dsimp only
      by_cases called : answers.tempSize.isSome = true ∧ session.managed.session.totalBytes ≠ 0
      · rw [if_pos called, (callbackOps_plain _).goes_append_iff, and_iff_left (tail _ _), callbackOps_eq_nil]
        simp [called]
      · rw [if_neg called]
        refine iff_of_true (tail _ _) ⟨nofun, ?_, nofun⟩
        intro _ sized positive
        exact absurd ⟨sized, positive⟩ called
  | completed =>
      dsimp only
      rw [(callbackOps_plain _).goes_append_iff, and_iff_left (tail _ _), callbackOps_eq_nil]
      simp
  | _ => exact iff_of_true (tail _ _) ⟨nofun, nofun, nofun⟩

theorem timeoutOps_goes_iff (now : Int) :
    LockOp.Goes session.managed.blocked (timeoutOps config session now) ↔
      TimeoutAllowed config session now := by
  unfold timeoutOps TimeoutAllowed
  dsimp only
  by_cases late : timedOut config session.managed.session now = true
  · rw [if_pos late, LockOp.goes_lock_iff]
    refine (and_congr_right fun _ => ?_).trans (imp_iff_right late).symm
    split
    · rename_i waits
      rw [(callbackOps_plain _).goes_append_iff, LockOp.goes_unlock_iff, and_iff_left (LockOp.goes_nil false),
        callbackOps_eq_nil]
      exact (imp_iff_right waits).symm
    · rename_i waits
      exact iff_of_true (LockOp.goes_nil false) fun waiting => absurd waiting waits
  · rw [if_neg late]
    exact iff_of_true (LockOp.goes_nil _) fun timed => absurd timed late

end Locks

section Turn

variable (config : Config) (state : ManagerRound) (answers : ProcessAnswers)

theorem visit_blocked_iff (address : Nat) (ops : RoundSession → List LockOp)
    (work : ManagedSession → ManagedSession) (next : ManagerPhase) (free : state.blocked = false) :
    (state.visit address ops work next).blocked = false ↔
      ∀ session, state.find address = some session → LockOp.Goes session.managed.blocked (ops session) := by
  unfold ManagerRound.visit
  cases found : state.find address with
  | none => exact iff_of_true free fun session present => absurd present.symm (Option.some_ne_none session)
  | some session =>
      simp only [Option.some.injEq, forall_eq']
      split
      · rename_i stuck
        exact iff_of_false (fun free => Bool.noConfusion free) fun goes => goes stuck
      · rename_i goes
        exact iff_of_true free goes

/-- A turn that does not block moves the manager on. -/
theorem visit_phase (address : Nat) (ops : RoundSession → List LockOp) (work : ManagedSession → ManagedSession)
    (next : ManagerPhase) (free : (state.visit address ops work next).blocked = false) :
    (state.visit address ops work next).phase = next := by
  unfold ManagerRound.visit at free ⊢
  split
  · rfl
  · rename_i session found
    rw [found] at free
    dsimp only at free
    split
    · rename_i stuck
      rw [if_pos stuck] at free
      cases free
    · rfl

theorem managerTurn_blocked_iff (free : state.blocked = false) :
    (managerTurn config state answers).blocked = false ↔ TurnAllowed config state answers := by
  unfold managerTurn TurnAllowed
  rw [if_neg (Bool.eq_false_iff.mp free)]
  cases state.phase with
  | processing rest =>
      cases rest with
      | nil => exact iff_of_true free trivial
      | cons address rest =>
          dsimp only
          cases running : state.running with
          | false => exact iff_of_true free nofun
          | true =>
              rw [if_neg nofun, visit_blocked_iff state address _ _ _ free]
              simp only [processOps_goes_iff, true_implies]
  | checking rest =>
      cases rest with
      | nil => exact iff_of_true free trivial
      | cons address rest =>
          dsimp only
          rw [visit_blocked_iff state address _ _ _ free]
          simp only [timeoutOps_goes_iff]
  | _ => exact iff_of_true free trivial

/-- The steps that are left of a round. Only the number of checks is not known before the list is read. -/
def ManagerPhase.rank : ManagerPhase → Nat ×ₗ Nat
  | .processing rest => toLex (2, rest.length)
  | .processed => toLex (1, 0)
  | .checking rest => toLex (0, rest.length)
  | .idle => toLex (0, 0)
  | .stopped => toLex (0, 0)

/-- Inside of a round every turn that does not block brings its end closer. -/
theorem managerTurn_rank (free : state.blocked = false)
    (next : (managerTurn config state answers).blocked = false) (inside : ¬ state.RoundOver)
    (further : ¬ (managerTurn config state answers).RoundOver) :
    (managerTurn config state answers).phase.rank < state.phase.rank := by
  unfold managerTurn at next further ⊢
  rw [if_neg (Bool.eq_false_iff.mp free)] at next further ⊢
  cases phase : state.phase with
  | idle => exact absurd (.inl phase) inside
  | stopped => exact absurd (.inr phase) inside
  | processing rest =>
      cases rest with
      | nil => exact Prod.Lex.toLex_lt_toLex.mpr (.inl (Nat.lt_succ_self _))
      | cons address rest =>
          rw [phase] at next
          dsimp only at next ⊢
          cases running : state.running with
          | false => exact Prod.Lex.toLex_lt_toLex.mpr (.inl (Nat.lt_succ_self _))
          | true =>
              rw [running, if_neg nofun] at next
              rw [if_neg nofun, visit_phase state address _ _ _ next]
              exact Prod.Lex.toLex_lt_toLex.mpr (.inr ⟨rfl, Nat.lt_succ_self _⟩)
  | processed => exact Prod.Lex.toLex_lt_toLex.mpr (.inl (Nat.lt_succ_self _))
  | checking rest =>
      cases rest with
      | nil =>
          rw [phase] at further
          exact absurd (.inl rfl) further
      | cons address rest =>
          rw [phase] at next
          dsimp only at next ⊢
          rw [visit_phase state address _ _ _ next]
          exact Prod.Lex.toLex_lt_toLex.mpr (.inr ⟨rfl, Nat.lt_succ_self _⟩)

end Turn

section Others

variable (primitives : Primitives) (key : TransferKey) (config : Config) (state : ManagerRound)

theorem call_kept (address : Nat) (ops : RoundSession → List LockOp) (work : ManagedSession → ManagedSession) :
    (state.call address ops work).blocked = state.blocked ∧ (state.call address ops work).phase = state.phase := by
  unfold ManagerRound.call
  split
  · exact ⟨rfl, rfl⟩
  · split
    · exact ⟨rfl, rfl⟩
    · split
      · exact ⟨rfl, rfl⟩
      · exact ⟨rfl, rfl⟩

/-- Other threads neither block the manager nor lengthen its round. -/
theorem roundStep_others (input : RoundInput) (other : ¬ input.isTurn) :
    (roundStep primitives key config state input).blocked = state.blocked ∧
      (roundStep primitives key config state input).phase.rank ≤ state.phase.rank := by
  have called (address : Nat) (ops : RoundSession → List LockOp) (work : ManagedSession → ManagedSession) :
      (state.call address ops work).blocked = state.blocked ∧
        (state.call address ops work).phase.rank ≤ state.phase.rank := by
    have kept := call_kept state address ops work
    exact ⟨kept.1, le_of_eq (congrArg ManagerPhase.rank kept.2)⟩
  cases input with
  | manager answers => exact absurd trivial other
  | stop => exact ⟨rfl, le_rfl⟩
  | create address metadataFileSize encryptionEnabled compressionEnabled now =>
      dsimp only [roundStep]
      split
      · exact ⟨rfl, le_rfl⟩
      · exact ⟨rfl, le_rfl⟩
  | prepare address download answers => exact called _ _ _
  | expectChecksum address => exact ⟨rfl, le_rfl⟩
  | remove address =>
      dsimp only [roundStep]
      split
      · exact ⟨rfl, le_rfl⟩
      · refine ⟨rfl, ?_⟩
        dsimp only [removeSession]
        cases state.phase with
        | checking rest =>
            exact Prod.Lex.toLex_le_toLex.mpr (.inr ⟨rfl, List.length_filter_le _ rest⟩)
        | _ => exact le_rfl
  | setCallbacks address completionCallback callbacks => exact ⟨rfl, le_rfl⟩
  | uploadChunk address call => exact called _ _ _
  | downloadChunk address call => exact called _ _ _
  | completeUpload address answers => exact called _ _ _

theorem roundStep_blocked_iff (input : RoundInput) (free : state.blocked = false) :
    (roundStep primitives key config state input).blocked = false ↔ RoundAllowed config state input := by
  by_cases turn : input.isTurn
  · cases input with
    | manager answers => exact managerTurn_blocked_iff config state answers free
    | _ => exact turn.elim
  · have kept := (roundStep_others primitives key config state input turn).1
    rw [kept]
    cases input with
    | manager answers => exact absurd trivial turn
    | _ => exact iff_of_true free trivial

end Others

section Run

variable (primitives : Primitives) (key : TransferKey) (config : Config)

/-- The manager never waits for a mutex that it holds or that nobody will unlock, and every round ends. -/
structure NeverBlocks (start : ManagerRound) (inputs : Nat → RoundInput) : Prop where
  free : ∀ count, ((roundMachine primitives key config).after start inputs count).blocked = false
  ends : ∀ count, ∃ later ≥ count, ((roundMachine primitives key config).after start inputs later).RoundOver

/-- The manager gets through all its rounds exactly when it never turns to a session that is created
but not prepared, nor to one whose mutex a callback locks or another thread keeps. -/
theorem managerRounds_iff (start : ManagerRound) (free : start.blocked = false) (inputs : Nat → RoundInput)
    (fair : ∀ count, ∃ later ≥ count, (inputs later).isTurn) :
    NeverBlocks primitives key config start inputs ↔
      ∀ count, RoundAllowed config ((roundMachine primitives key config).after start inputs count)
        (inputs count) := by
  constructor
  · intro never count
    exact (roundStep_blocked_iff primitives key config _ _ (never.free count)).mp (never.free (count + 1))
  · intro allowed
    have unblocked : ∀ count,
        ((roundMachine primitives key config).after start inputs count).blocked = false := by
      intro count
      induction count with
      | zero => exact free
      | succ count ih => exact (roundStep_blocked_iff primitives key config _ _ ih).mpr (allowed count)
    refine ⟨unblocked, ?_⟩
    apply (roundMachine primitives key config).after_reaches start inputs (fun state => state.phase.rank)
      ManagerRound.RoundOver RoundInput.isTurn _ _ fair
    · intro count turn inside further
      have next := unblocked (count + 1)
      revert next further
      dsimp only [Machine.after]
      cases input : inputs count with
      | manager answers =>
          exact fun further next => managerTurn_rank config _ answers (unblocked count) next inside further
      | _ =>
          rw [input] at turn
          exact turn.elim
    · intro count other
      exact (roundStep_others primitives key config _ _ other).2

end Run

/-- No file is there and no time passes. -/
def quietAnswers : ProcessAnswers := ⟨none, .io, false, 0⟩

/-- The settings of a manager that gives a transfer thirty seconds. -/
def roundConfig : Config := ⟨⟨16384, 3⟩, 30000, 100, true, 100 * 1024 * 1024⟩

def idleManager : ManagerRound := ⟨[], .idle, true, false⟩

/-- The creator comes first to prepare its session. -/
def preparedInTime : Nat → RoundInput
  | 0 => .create 1 (some 100) true false 0
  | 1 => .prepare 1 false ⟨true, some 100, 0⟩
  | _ + 2 => .manager quietAnswers

/-- The manager comes first. -/
def preparedTooLate : Nat → RoundInput
  | 0 => .create 1 (some 100) true false 0
  | _ + 1 => .manager quietAnswers

def noPrimitives : Primitives := ⟨fun _ _ _ => none, fun _ _ _ => none, fun _ data => data, fun _ => none⟩

/-- A round over one prepared session has six steps. -/
theorem preparedInTime_cycle (count : Nat) :
    ∃ place < 6, (roundMachine noPrimitives ⟨[], []⟩ roundConfig).after idleManager preparedInTime (count + 2) =
      (roundMachine noPrimitives ⟨[], []⟩ roundConfig).after idleManager preparedInTime (place + 2) := by
  induction count with
  | zero => exact ⟨0, by decide, rfl⟩
  | succ count ih =>
      obtain ⟨place, small, same⟩ := ih
      have next : (roundMachine noPrimitives ⟨[], []⟩ roundConfig).after idleManager preparedInTime (count + 3) =
          (roundMachine noPrimitives ⟨[], []⟩ roundConfig).after idleManager preparedInTime (place + 3) :=
        congrArg (managerTurn roundConfig · quietAnswers) same
      rcases Nat.lt_or_ge (place + 1) 6 with inner | last
      · exact ⟨place + 1, inner, next⟩
      · obtain rfl : place = 5 := by omega
        exact ⟨0, by decide, next.trans (by decide)⟩

theorem managerRounds_iff_prepared :
    NeverBlocks noPrimitives ⟨[], []⟩ roundConfig idleManager preparedInTime := by
  have free : ∀ count, ((roundMachine noPrimitives ⟨[], []⟩ roundConfig).after idleManager preparedInTime
      (count + 2)).blocked = false := by
    intro count
    obtain ⟨place, small, same⟩ := preparedInTime_cycle count
    rw [same]
    clear same
    revert place
    decide
  refine (managerRounds_iff noPrimitives ⟨[], []⟩ roundConfig idleManager rfl preparedInTime ?_).mpr ?_
  · exact fun count => ⟨count + 2, Nat.le_add_right count 2, trivial⟩
  · intro count
    match count with
    | 0 => trivial
    | 1 => trivial
    | count + 2 =>
        exact (roundStep_blocked_iff noPrimitives ⟨[], []⟩ roundConfig _ _ (free count)).mp (free (count + 1))

/-- The manager locks the mutex of a new session, and `ft_prepare_download` locks it once more. -/
theorem preparedTooLate_blocks :
    ¬ ∀ (primitives : Primitives) (key : TransferKey) (config : Config) (start : ManagerRound)
      (_ : start.blocked = false) (inputs : Nat → RoundInput)
      (_ : ∀ count, ∃ later ≥ count, (inputs later).isTurn),
      NeverBlocks primitives key config start inputs := by
  intro never
  have kept := never noPrimitives ⟨[], []⟩ roundConfig idleManager rfl preparedTooLate
    fun count => ⟨count + 1, Nat.le_succ count, trivial⟩
  have blocked : ((roundMachine noPrimitives ⟨[], []⟩ roundConfig).after idleManager preparedTooLate 3).blocked =
      true := by decide
  rw [kept.free 3] at blocked
  cases blocked

end SecureChat.FileTransfer
