/-
This file checks the password of a user against the table of users. Several threads do this at the same time,
and each statement and each look at the clock is a step of its own.
-/

import SecureChat.Library.Machine
import Mathlib.Data.List.Basic

namespace SecureChat.Database1
open Library

/-- The columns of a user that decide about a login. -/
structure UserRow where
  passwordHash : Option (List UInt8)
  loginAttempts : Nat
  accountLockedUntil : Option Int
  deriving DecidableEq, Repr

/-- How far a thread has come inside `database_authenticate_user`. -/
inductive LoginPhase where
  | idle
  | selected (passwordHash : List UInt8) (row : UserRow)
  | counting
  | stamping
  | locking (lockTime : Int)
  | resetting
  deriving DecidableEq, Repr

/-- The row of one user, and the threads that log this user in. -/
structure Logins where
  user : UserRow
  threads : List LoginPhase
  deriving DecidableEq, Repr

/-- One thread goes on. The hash is that of a new call, and a statement that fails is not done. -/
structure LoginEvent where
  thread : Nat
  now : Int
  passwordHash : List UInt8
  done : Bool
  deriving DecidableEq, Repr

inductive LoginOutput where
  | unavailable
  | locked
  | wrongPassword
  | granted
  | reset
  | updateFailed
  deriving DecidableEq, Repr

def maxLoginAttempts : Nat := 5

def lockSeconds : Int := 900

/-- The statement behind a wrong password counts the attempt. -/
def UserRow.count (user : UserRow) : UserRow := { user with loginAttempts := user.loginAttempts + 1 }

/-- The second statement behind a wrong password locks the account from the fifth attempt on. -/
def UserRow.lock (user : UserRow) (lockTime : Int) : UserRow :=
  if maxLoginAttempts ≤ user.loginAttempts then { user with accountLockedUntil := some lockTime } else user

/-- The statement behind the right password leaves a lock as it is. -/
def UserRow.reset (user : UserRow) : UserRow := { user with loginAttempts := 0 }

/-- A statement that fails changes nothing, and the thread goes on. -/
def UserRow.update (user next : UserRow) (done : Bool) (outputs : List LoginOutput) : UserRow × List LoginOutput :=
  if done then (next, outputs) else (user, [.updateFailed])

/-- The lock and the password are checked in the row as it was selected. -/
def checkPassword (passwordHash : List UInt8) (row : UserRow) (now : Int) : LoginPhase × List LoginOutput :=
  if row.accountLockedUntil.any (now < ·) then (.idle, [.locked])
  else if row.passwordHash ≠ some passwordHash then (.counting, [.wrongPassword])
  else (.resetting, [.granted])

/-- The next step of a thread in `database_authenticate_user`. -/
def LoginPhase.step (user : UserRow) (event : LoginEvent) :
    LoginPhase → LoginPhase × UserRow × List LoginOutput
  | .idle => if event.done then (.selected event.passwordHash user, user, []) else (.idle, user, [.unavailable])
  | .selected passwordHash row =>
      let checked := checkPassword passwordHash row event.now
      (checked.1, user, checked.2)
  | .counting => (.stamping, user.update user.count event.done [])
  | .stamping => (.locking (event.now + lockSeconds), user, [])
  | .locking lockTime => (.idle, user.update (user.lock lockTime) event.done [])
  | .resetting => (.idle, user.update user.reset event.done [.reset])

/-- The threads take their steps in any order. -/
def loginMachine : Machine Logins LoginEvent LoginOutput where
  step logins event :=
    match logins.threads[event.thread]? with
    | none => (logins, [])
    | some phase =>
        let stepped := phase.step logins.user event
        (⟨stepped.2.1, logins.threads.set event.thread stepped.1⟩, stepped.2.2)

end SecureChat.Database1
