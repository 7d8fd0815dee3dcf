import SecureChat.Construction.Database1.Users
import SecureChat.Library.Threads
import Mathlib.Algebra.Order.BigOperators.Group.List
import Mathlib.Algebra.Order.Ring.Nat
import Mathlib.Algebra.Group.Action.Defs

namespace SecureChat.Database1
open Library

/-- The row does not keep the account locked up to the end of the window. -/
def UserRow.isOpen (limit : Int) (row : UserRow) : Bool := row.accountLockedUntil.all (· < limit)

/-- A thread can begin again with an open account. -/
def UserRow.opens (limit : Int) (user : UserRow) : Nat := if user.isOpen limit then 1 else 0

/-- The attempts in front of the one that locks an open account. -/
def UserRow.attemptsLeft (limit : Int) (user : UserRow) : Nat := if user.isOpen limit then 4 - user.loginAttempts else 0

/-- A thread between its two updates comes back to an open account, unless it locks it. -/
def UserRow.passes (limit : Int) (user : UserRow) : Nat :=
  if user.isOpen limit ∧ user.loginAttempts < maxLoginAttempts then 1 else 0

/-- The wrong passwords that a thread may still cause. A thread whose lock is too old opens the account
for all of them. -/
def LoginPhase.weight (count : Nat) (limit : Int) (user : UserRow) : LoginPhase → Nat
  | .idle => user.opens limit
  | .selected _ row => if user.isOpen limit ∨ row.isOpen limit then 1 else 0
  | .counting => 0
  | .stamping => user.passes limit
  | .locking lockTime => if lockTime < limit then count else user.passes limit
  | .resetting => user.opens limit

/-- The room for wrong passwords, without resets and failures. -/
def Logins.room (limit : Int) (logins : Logins) : Nat :=
  logins.user.attemptsLeft limit +
    (logins.threads.map (LoginPhase.weight logins.threads.length limit logins.user)).sum

/-- What a step takes from the room for its wrong passwords. -/
structure Spends (limit : Int) (logins next : Logins) (outputs : List LoginOutput) : Prop where
  threads : next.threads.length = logins.threads.length
  budget : outputs.count .wrongPassword + next.room limit ≤
    logins.room limit + (4 + logins.threads.length) * outputs.count .reset + outputs.count .updateFailed

theorem UserRow.opens_le_one (limit : Int) (user : UserRow) : user.opens limit ≤ 1 := by
  unfold UserRow.opens
  split <;> decide

theorem UserRow.passes_le_one (limit : Int) (user : UserRow) : user.passes limit ≤ 1 := by
  unfold UserRow.passes
  split <;> decide

/-- The weights rise with what an update opens. -/
theorem LoginPhase.weight_le {count slack : Nat} {limit : Int} {user next : UserRow}
    (opens : next.opens limit ≤ user.opens limit + slack) (passes : next.passes limit ≤ user.passes limit + slack)
    (phase : LoginPhase) : phase.weight count limit next ≤ phase.weight count limit user + slack := by
  cases phase with
  | idle | resetting => exact opens
  | counting => exact Nat.zero_le _
  | stamping => exact passes
  | selected passwordHash row =>
      by_cases before : row.isOpen limit = true
      · simp [LoginPhase.weight, before]
      · simpa [LoginPhase.weight, before, UserRow.opens] using opens
  | locking lockTime =>
      simp only [LoginPhase.weight]
      split
      · exact Nat.le_add_right _ _
      · exact passes

section Steps

variable {limit : Int} {logins : Logins} {event : LoginEvent}

/-- A step spends what its own thread pays, as long as no other thread gains more than the slack. -/
theorem Spends.of_thread {old : LoginPhase} (here : logins.threads[event.thread]? = some old) (user : UserRow)
    (next : LoginPhase) (outputs : List LoginOutput) (slack : Nat)
    (near : ∀ phase : LoginPhase, phase.weight logins.threads.length limit user ≤
      phase.weight logins.threads.length limit logins.user + slack)
    (paid : outputs.count .wrongPassword + user.attemptsLeft limit + next.weight logins.threads.length limit user +
        slack * logins.threads.length ≤
      logins.user.attemptsLeft limit + old.weight logins.threads.length limit logins.user + slack +
        (4 + logins.threads.length) * outputs.count .reset + outputs.count .updateFailed) :
    Spends limit logins ⟨user, logins.threads.set event.thread next⟩ outputs := by
  have length : (logins.threads.set event.thread next).length = logins.threads.length := List.length_set
  have moved := sum_set_le near here next
  refine ⟨length, ?_⟩
  simp only [Logins.room, length]
  omega

/-- Without an update only the place of the thread counts. -/
theorem Spends.of_place {old : LoginPhase} (here : logins.threads[event.thread]? = some old)
    (next : LoginPhase) (outputs : List LoginOutput)
    (paid : outputs.count .wrongPassword + next.weight logins.threads.length limit logins.user ≤
      old.weight logins.threads.length limit logins.user + outputs.count .updateFailed) :
    Spends limit logins ⟨logins.user, logins.threads.set event.thread next⟩ outputs :=
  .of_thread here logins.user next outputs 0 (fun _ => Nat.le_refl _) (by omega)

/-- A password is only compared in a row that was selected while the account was open. -/
theorem selected_spends {passwordHash : List UInt8} {row : UserRow}
    (here : logins.threads[event.thread]? = some (.selected passwordHash row)) (early : event.now < limit) :
    Spends limit logins
      ⟨logins.user, logins.threads.set event.thread (checkPassword passwordHash row event.now).1⟩
      (checkPassword passwordHash row event.now).2 := by
  have less : logins.user.opens limit ≤ if logins.user.isOpen limit ∨ row.isOpen limit then 1 else 0 := by
    unfold UserRow.opens
    split <;> simp_all
  unfold checkPassword
  split
  · refine .of_place here .idle [.locked] ?_
    simpa [LoginPhase.weight] using less
  rename_i unlocked
  have opened : row.isOpen limit = true := by
    unfold UserRow.isOpen
    cases shown : row.accountLockedUntil with
    | none => rfl
    | some lockedUntil =>
        rw [shown] at unlocked
        have passed : ¬ event.now < lockedUntil := by simpa using unlocked
        exact decide_eq_true (by omega)
  split
  · exact .of_place here .counting [.wrongPassword] (by simp [LoginPhase.weight, opened])
  · refine .of_place here .resetting [.granted] ?_
    simpa [LoginPhase.weight] using less

theorem counting_spends (here : logins.threads[event.thread]? = some .counting) :
    let updated := logins.user.update logins.user.count event.done []
    Spends limit logins ⟨updated.1, logins.threads.set event.thread .stamping⟩ updated.2 := by
  dsimp only [UserRow.update]
  split
  · have still : logins.user.count.isOpen limit = logins.user.isOpen limit := rfl
    have counted : logins.user.count.loginAttempts = logins.user.loginAttempts + 1 := rfl
    have fewer : logins.user.count.passes limit ≤ logins.user.passes limit := by
      rw [UserRow.passes, UserRow.passes, still, counted]
      split
      · rename_i below
        rw [if_pos ⟨below.1, Nat.lt_of_succ_lt below.2⟩]
      · exact Nat.zero_le _
    refine .of_thread here logins.user.count .stamping [] 0 (LoginPhase.weight_le (Nat.le_refl _) fewer) ?_
    cases opened : logins.user.isOpen limit with
    | false => simp [LoginPhase.weight, UserRow.passes, UserRow.attemptsLeft, still, opened]
    | true =>
        simp [LoginPhase.weight, UserRow.passes, UserRow.attemptsLeft, still, counted, opened, maxLoginAttempts]
        split <;> omega
  · exact .of_place here .stamping [.updateFailed] (by simpa [LoginPhase.weight] using logins.user.passes_le_one limit)

/-- The lock of a thread that has looked at the clock in the window covers it. An older lock may open the account,
and all threads can begin again. -/
theorem locking_spends {lockTime : Int} (here : logins.threads[event.thread]? = some (.locking lockTime)) :
    let updated := logins.user.update (logins.user.lock lockTime) event.done []
    Spends limit logins ⟨updated.1, logins.threads.set event.thread .idle⟩ updated.2 := by
  have any : 0 < logins.threads.length := Nat.zero_lt_of_lt (List.getElem?_eq_some_iff.mp here).1
  have one := logins.user.opens_le_one limit
  dsimp only [UserRow.update]
  split
  · by_cases many : maxLoginAttempts ≤ logins.user.loginAttempts
    · have locked : (logins.user.lock lockTime).accountLockedUntil = some lockTime := by rw [UserRow.lock, if_pos many]
      have still : (logins.user.lock lockTime).loginAttempts = logins.user.loginAttempts := by
        rw [UserRow.lock, if_pos many]
      have closes : (logins.user.lock lockTime).passes limit = 0 := by
        refine if_neg fun passes => ?_
        rw [still] at passes
        exact Nat.not_lt.mpr many passes.2
      have left : (logins.user.lock lockTime).attemptsLeft limit = 0 := by
        rw [UserRow.attemptsLeft, still, Nat.sub_eq_zero_of_le (Nat.le_of_succ_le many), ite_self]
      have opens : (logins.user.lock lockTime).opens limit = if lockTime < limit then 1 else 0 := by
        rw [UserRow.opens, UserRow.isOpen, locked]
        simp
      by_cases old : lockTime < limit
      · rw [if_pos old] at opens
        refine .of_thread here (logins.user.lock lockTime) .idle [] 1 (LoginPhase.weight_le (by omega) (by omega)) ?_
        simp only [LoginPhase.weight, left, opens, if_pos old, List.count_nil]
        omega
      · rw [if_neg old] at opens
        refine .of_thread here (logins.user.lock lockTime) .idle [] 0 (LoginPhase.weight_le (by omega) (by omega)) ?_
        simp only [LoginPhase.weight, left, opens, List.count_nil]
        omega
    · have same : logins.user.passes limit = logins.user.opens limit := by
        simp only [UserRow.passes, UserRow.opens, Nat.not_le.mp many, and_true]
      rw [UserRow.lock, if_neg many]
      refine .of_place here .idle [] ?_
      simp only [LoginPhase.weight, same, List.count_nil]
      split <;> omega
  · refine .of_place here .idle [.updateFailed] ?_
    simp only [LoginPhase.weight, List.count_singleton]
    simp
    omega

theorem resetting_spends (here : logins.threads[event.thread]? = some .resetting) :
    let updated := logins.user.update logins.user.reset event.done [.reset]
    Spends limit logins ⟨updated.1, logins.threads.set event.thread .idle⟩ updated.2 := by
  dsimp only [UserRow.update]
  split
  · have one := logins.user.reset.passes_le_one limit
    have left : logins.user.reset.attemptsLeft limit ≤ 4 := by
      unfold UserRow.attemptsLeft
      split <;> omega
    have same : logins.user.reset.opens limit = logins.user.opens limit := rfl
    refine .of_thread here logins.user.reset .idle [.reset] 1 (LoginPhase.weight_le (by omega) (by omega)) ?_
    simp only [LoginPhase.weight, same]
    simp
    omega
  · refine .of_place here .idle [.updateFailed] ?_
    simp [LoginPhase.weight]

theorem step_spends (logins : Logins) (event : LoginEvent) (begun : limit ≤ event.now + lockSeconds)
    (early : event.now < limit) :
    Spends limit logins (loginMachine.step logins event).1 (loginMachine.step logins event).2 := by
  dsimp only [loginMachine]
  split
  · exact ⟨rfl, Nat.le_trans (Nat.le_of_eq (Nat.zero_add _)) (Nat.le_add_right_of_le (Nat.le_add_right _ _))⟩
  rename_i phase here
  cases phase with
  | idle =>
      dsimp only [LoginPhase.step]
      split
      · exact .of_place here (.selected event.passwordHash logins.user) [] (by simp [LoginPhase.weight, UserRow.opens])
      · exact .of_place here .idle [.unavailable] (by simp)
  | selected passwordHash row => exact selected_spends here early
  | counting => exact counting_spends here
  | stamping =>
      refine .of_place here (.locking (event.now + lockSeconds)) [] ?_
      simp [LoginPhase.weight, if_neg (Int.not_lt.mpr begun)]
  | locking lockTime => exact locking_spends here
  | resetting => exact resetting_spends here

end Steps

theorem window_spends {start : Int} {logins : Logins} (window : List LoginEvent)
    (inside : ∀ event ∈ window, start ≤ event.now ∧ event.now < start + lockSeconds) :
    let outputs := (loginMachine.run logins window).2
    outputs.count .wrongPassword ≤ logins.room (start + lockSeconds) +
      (4 + logins.threads.length) * outputs.count .reset + outputs.count .updateFailed := by
  induction window generalizing logins with
  | nil => exact Nat.zero_le _
  | cons event rest ih =>
      obtain ⟨begun, early⟩ := inside event List.mem_cons_self
      have first := step_spends logins event (Int.add_le_add_right begun lockSeconds) early
      have further := @ih (loginMachine.step logins event).1 fun next member =>
        inside next (List.mem_cons_of_mem event member)
      have budget := first.budget
      simp only [first.threads] at further
      simp only [Machine.run_cons, List.count_append, Nat.mul_add]
      omega

theorem LoginPhase.weight_le_count {count : Nat} (any : 0 < count) (limit : Int) (user : UserRow) (phase : LoginPhase) :
    phase.weight count limit user ≤ count := by
  have opens := user.opens_le_one limit
  have passes := user.passes_le_one limit
  cases phase with
  | idle | resetting => exact Nat.le_trans opens any
  | counting => exact Nat.zero_le _
  | stamping => exact Nat.le_trans passes any
  | selected passwordHash row =>
      simp only [LoginPhase.weight]
      split <;> omega
  | locking lockTime =>
      simp only [LoginPhase.weight]
      split <;> omega

/-- No thread weighs more than the number of threads, and an account has four attempts left. -/
theorem Logins.room_le (limit : Int) (logins : Logins) :
    logins.room limit ≤ 4 + logins.threads.length * logins.threads.length := by
  have left : logins.user.attemptsLeft limit ≤ 4 := by
    unfold UserRow.attemptsLeft
    split <;> omega
  have below : ∀ weight ∈ logins.threads.map (LoginPhase.weight logins.threads.length limit logins.user),
      weight ≤ logins.threads.length := by
    intro weight member
    obtain ⟨phase, place, rfl⟩ := List.mem_map.mp member
    exact phase.weight_le_count (List.length_pos_of_mem place) limit logins.user
  have weights := List.sum_le_card_nsmul _ _ below
  rw [List.length_map, smul_eq_mul] at weights
  exact Nat.add_le_add left weights

/-- The next steps of one thread, with a password that is wrong. -/
def guess (thread : Nat) (now : Int) (steps : Nat) : List LoginEvent :=
  List.replicate steps ⟨thread, now, [0], true⟩

/-- However the threads interleave, an account answers in any fifteen minutes to no more wrong passwords than four
and the square of the number of threads, but for those that successful logins and failed updates give back.
The square comes from threads that write a lock from before the window over a later one. -/
theorem wrongPasswords_bounded (logins : Logins) (window : List LoginEvent) (start : Int)
    (inside : ∀ event ∈ window, start ≤ event.now ∧ event.now < start + 900) :
    let threads := logins.threads.length
    let outputs := (loginMachine.run logins window).2
    outputs.count .wrongPassword ≤
      4 + threads * threads + (4 + threads) * outputs.count .reset + outputs.count .updateFailed := by
  have spent := @window_spends start logins window inside
  have room := logins.room_le (start + lockSeconds)
  exact Nat.le_trans spent (Nat.add_le_add_right (Nat.add_le_add_right room _) _)

/-- The second thread has read the clock before the window. Its lock replaces that of the first one, and it ends
one second earlier. The first thread guesses once more. -/
theorem wrongPasswords_bounded_late :
    let logins : Logins := ⟨⟨some [1], 4, none⟩, [.idle, .locking 1000]⟩
    let window := guess 0 101 5 ++ guess 0 102 2 ++ guess 1 999 1 ++ guess 0 1000 5
    let outputs := (loginMachine.run logins window).2
    outputs = [.wrongPassword, .locked, .wrongPassword] ∧
      outputs.count .wrongPassword ≤ 4 + 2 * 2 + (4 + 2) * outputs.count .reset + outputs.count .updateFailed :=
  ⟨by decide, wrongPasswords_bounded _ _ 101 (by decide)⟩

end SecureChat.Database1
