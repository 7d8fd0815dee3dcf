/-
This file logs users in and out, and registers them. It also runs the critical sections of
registrations and logins in any order.
-/

import Mathlib.Algebra.Ring.Nat
import SecureChat.Construction.Auth.Tokens

namespace SecureChat.Auth
open Library

/-- The length of the derived hash. -/
def evpMaxMdSize : Nat := 64

def authVerifyPassword (crypto : Crypto) (password : Text) (salt storedHash : List UInt8) : Bool :=
  if storedHash.length = 0 then false
  else
    match crypto.pbkdf2 password salt with
    | none => false
    | some computedHash => evpMaxMdSize = storedHash.length ∧ computedHash = storedHash

/-- The arguments of `auth_login_user`, the clock, and what the system answers. -/
structure LoginCall where
  username : Text
  password : Text
  clientIp : Text
  wantsTokens : Bool
  rateLimit : AuthCode
  selectOk : Bool
  now : Time
  updateOk : Bool
  first : IssueAnswers
  second : IssueAnswers
  deriving DecidableEq

def findUser (state : AuthState) (username : Text) : Option UserRow :=
  state.users.find? fun user => user.username == username || user.email == username

def updateUser (state : AuthState) (updated : UserRow) (updateOk : Bool) : AuthState :=
  if updateOk then
    { state with users := state.users.map fun user => if user.id = updated.id then updated else user }
  else state

/-- One more failure. The counter begins anew when the account is locked. -/
def failLogin (user : UserRow) (now : Int) : UserRow :=
  if authMaxLoginAttempts ≤ user.loginAttempts + 1 then
    { user with
      loginAttempts := 0
      lastLoginAttempt := now
      accountLockedUntil := now + authLockoutDuration }
  else { user with loginAttempts := user.loginAttempts + 1, lastLoginAttempt := now }

def resetLogin (user : UserRow) (now : Int) : UserRow :=
  { user with loginAttempts := 0, lastLoginAttempt := now, accountLockedUntil := 0 }

/-- The tokens of the first issue are handed out. The session is created with tokens of its own,
and nobody asks whether that has worked. -/
def openSessions (schema : Schema) (crypto : Crypto) (state : AuthState) (userId : UInt64) (call : LoginCall) :
    AuthCode × AuthState × List AuthOutput :=
  match authGenerateTokens schema crypto state userId call.clientIp call.first with
  | (.success, some tokens, issued, outputs) =>
      let (_, _, created, more) := authCreateSession schema crypto issued userId call.clientIp call.second
      (.success, created,
        outputs ++ more ++ [.loggedIn userId tokens state.nextSessionId created.nextSessionId])
  | (code, _, issued, outputs) => (code, issued, outputs)

/-- A login is refused, or its password was right. -/
inductive LoginCheck where
  | refused (code : AuthCode) (state : AuthState) (outputs : List AuthOutput)
  | passed (userId : UInt64) (state : AuthState) (outputs : List AuthOutput)

/-- The part of `auth_login_user` that holds the mutex of the database. -/
def checkLogin (crypto : Crypto) (state : AuthState) (call : LoginCall) : LoginCheck :=
  if call.rateLimit ≠ .success then .refused call.rateLimit state []
  else if !call.selectOk then .refused .invalidCredentials state []
  else
    match findUser state call.username with
    | none => .refused .invalidCredentials state []
    | some user =>
        let now := call.now.seconds
        if now < user.accountLockedUntil then .refused .accountLocked state []
        else if !user.isActive then .refused .accountDisabled state []
        else if authVerifyPassword crypto call.password user.passwordSalt user.passwordHash then
          .passed user.id (updateUser state (resetLogin user now) call.updateOk) [.verified user.id now true]
        else
          let failed := failLogin user now
          .refused (if now < failed.accountLockedUntil then .accountLocked else .invalidCredentials)
            (updateUser state failed call.updateOk) [.verified user.id now false]

def authLoginUser (schema : Schema) (crypto : Crypto) (state : AuthState) (call : LoginCall) :
    AuthCode × AuthState × List AuthOutput :=
  match checkLogin crypto state call with
  | .refused code next outputs => (code, next, outputs)
  | .passed userId next outputs =>
      if !call.wantsTokens then (.success, next, outputs)
      else
        let (code, final, more) := openSessions schema crypto next userId call
        (code, final, outputs ++ more)

/-- All rows with the token and the user become invalid. A call that finds none succeeds as well. -/
def authLogoutUser (state : AuthState) (userId : UInt64) (accessToken : Text) (prepareOk stepOk : Bool) :
    AuthCode × AuthState × List AuthOutput :=
  if !prepareOk || !stepOk then (.invalidCredentials, state, [])
  else
    (.success, { state with
      sessions := state.sessions.map fun row =>
        if row.accessToken = accessToken ∧ row.userId = userId then { row with isValid := false } else row },
      [.loggedOut userId accessToken])

inductive AuthInput where
  | login (call : LoginCall)
  | generateTokens (userId : UInt64) (clientIp : Text) (answers : IssueAnswers)
  | createSession (userId : UInt64) (clientIp : Text) (answers : IssueAnswers)
  | validateToken (accessToken : Text) (now : Int) (prepareOk : Bool)
  | logout (userId : UInt64) (accessToken : Text) (prepareOk stepOk : Bool)
  deriving DecidableEq

def authStep (schema : Schema) (crypto : Crypto) (state : AuthState) : AuthInput → AuthState × List AuthOutput
  | .login call =>
      let (code, next, outputs) := authLoginUser schema crypto state call
      (next, outputs ++ [.returned code])
  | .generateTokens userId clientIp answers =>
      let (code, _, next, outputs) := authGenerateTokens schema crypto state userId clientIp answers
      (next, outputs ++ [.returned code])
  | .createSession userId clientIp answers =>
      let (code, _, next, outputs) := authCreateSession schema crypto state userId clientIp answers
      (next, outputs ++ [.returned code])
  | .validateToken accessToken now prepareOk =>
      (state, [.returned (authValidateToken crypto state accessToken now prepareOk).1])
  | .logout userId accessToken prepareOk stepOk =>
      let (code, next, outputs) := authLogoutUser state userId accessToken prepareOk stepOk
      (next, outputs ++ [.returned code])

/-- One call after the other. -/
def authMachine (schema : Schema) (crypto : Crypto) : Machine AuthState AuthInput AuthOutput where
  step := authStep schema crypto

def maxUsernameLen : Nat := 64
def maxEmailLen : Nat := 128
def authPasswordMinLength : Nat := 8
def authPasswordMaxLength : Nat := 128

def authValidateUsername (username : Text) : Bool :=
  3 ≤ username.length ∧ username.length < maxUsernameLen ∧
    username.all fun letter => letter.isAlphanum || letter = '_' || letter = '-'

/-- The loop of `auth_validate_email` with its two counters. -/
def scanEmail (length : Nat) : Text → Nat → Nat → Bool → Option (Nat × Bool)
  | [], _, atCount, dotAfterAt => some (atCount, dotAfterAt)
  | letter :: rest, index, atCount, dotAfterAt =>
      if letter = '@' then
        if index = 0 ∨ index = length - 1 then none
        else scanEmail length rest (index + 1) (atCount + 1) dotAfterAt
      else scanEmail length rest (index + 1) atCount (dotAfterAt || (letter = '.' ∧ 0 < atCount))

def authValidateEmail (email : Text) : Bool :=
  if email.length < 3 ∨ maxEmailLen ≤ email.length then false
  else
    match scanEmail email.length email 0 0 false with
    | none => false
    | some (atCount, dotAfterAt) => atCount = 1 ∧ dotAfterAt

/-- Upper case, lower case, digits and the rest. -/
def charTypes (password : Text) : Nat :=
  (password.any Char.isUpper).toNat + (password.any Char.isLower).toNat + (password.any Char.isDigit).toNat +
    (password.any fun letter => !letter.isAlphanum).toNat

def weakPasswords : List Text :=
  ["password", "123456", "qwerty", "admin", "welcome", "password123", "admin123", "12345678", "123456789"].map
    String.toList

def checkPasswordStrength (password : Text) : Bool :=
  authPasswordMinLength ≤ password.length ∧ password.length ≤ authPasswordMaxLength ∧ 3 ≤ charTypes password ∧
    ∀ weak ∈ weakPasswords, password.map Char.toLower ≠ weak.map Char.toLower

/-- What a registration returns. -/
inductive RegisterCode where
  | success
  | invalidCredentials
  | passwordTooWeak
  deriving DecidableEq, Repr

def authGeneratePasswordHash (crypto : Crypto) (password : Text) (salt : List UInt8) :
    Except RegisterCode (List UInt8) :=
  if !checkPasswordStrength password then .error .passwordTooWeak
  else
    match crypto.pbkdf2 password salt with
    | none => .error .invalidCredentials
    | some hash => .ok hash

inductive LogEvent where
  | loginSuccess
  | loginFailed
  deriving DecidableEq, Repr

/-- A row of the security log. The user is null where there is none. -/
structure SecurityLog where
  userId : Option UInt64
  eventType : LogEvent
  details : Text
  clientIp : Text
  createdAt : Int
  deriving DecidableEq

/-- The arguments of `auth_register_user`, the random salt, and what the system answers.
`auth_validate_password` is declared and called, but its body is not there. -/
structure RegisterCall where
  username : Text
  password : Text
  email : Text
  clientIp : Text
  validPassword : Bool
  salt : List UInt8
  prepareOk : Bool
  stepOk : Bool
  insertOk : Bool
  deriving DecidableEq

/-- A thread between two critical sections of a registration or a login. -/
inductive AuthThread where
  | announcing (userId : UInt64) (username clientIp : Text)
  | admitted (call : LoginCall)
  | recording (userId : UInt64) (success : Bool) (reason : Text) (code : AuthCode) (call : LoginCall)
  | issuing (userId : UInt64) (call : LoginCall)

/-- All that the module keeps, the threads inside it and the last reading of the clock.
No thread gets the mutex of the database any more once it is stuck. -/
structure AccountState where
  auth : AuthState
  nextUserId : Nat
  logs : List SecurityLog
  threads : List AuthThread
  stuck : Bool
  clock : Int

inductive AccountOutput where
  | registered (userId : UInt64) (call : RegisterCall)
  | registration (code : RegisterCode)
  | login (output : AuthOutput)
  deriving DecidableEq

def maxRowId : Nat := 9223372036854775807

/-- Names and mail addresses are unique, each for itself. Row numbers never come back, and they end. -/
def insertUser (state : AccountState) (username email : Text) (hash salt : List UInt8) : Option AccountState :=
  if state.auth.users.any (fun user => user.username == username || user.email == email) then none
  else if maxRowId < state.nextUserId then none
  else some { state with
    auth := { state.auth with
      users := state.auth.users ++ [⟨UInt64.ofNat state.nextUserId, username, email, hash, salt, 0, 0, 0, true⟩] }
    nextUserId := state.nextUserId + 1 }

/-- The default administrator of an empty table. A hash that was not computed is what lies on the stack. -/
def createTables (crypto : Crypto) (salt garbage : List UInt8) (insertOk : Bool) (state : AccountState) :
    AccountState :=
  if state.auth.users = [] ∧ insertOk then
    let hash := match authGeneratePasswordHash crypto "admin123".toList salt with
      | .ok hash => hash
      | .error _ => garbage
    (insertUser state "admin".toList "admin@localhost".toList hash salt).getD state
  else state

def logAuthenticationAttempt (state : AccountState) (userId : UInt64) (clientIp : Text) (success : Bool)
    (reason : Text) (now : Int) (insertOk : Bool) : AccountState :=
  if insertOk then
    let kind := if success then "Successful login: " else "Failed login: "
    { state with
      logs := state.logs ++ [⟨if userId = 0 then none else some userId,
        if success then .loginSuccess else .loginFailed, cutTo 512 (kind.toList ++ reason), clientIp, now⟩] }
  else state

/-- The type of the event is dropped. -/
def authLogSecurityEvent (state : AccountState) (userId : UInt64) (details clientIp : Text) (now : Int)
    (insertOk : Bool) : AccountState :=
  logAuthenticationAttempt state userId clientIp true details now insertOk

/-- What the two queries of the rate limit answer. -/
structure LimitAnswers where
  ipPrepareOk : Bool
  ipStepOk : Bool
  userPrepareOk : Bool
  userStepOk : Bool
  deriving DecidableEq

def SecurityLog.failedFrom (clientIp : Text) (since : Int) (log : SecurityLog) : Bool :=
  log.clientIp = clientIp ∧ log.eventType = .loginFailed ∧ since < log.createdAt

def SecurityLog.failedFor (userId : UInt64) (since : Int) (log : SecurityLog) : Bool :=
  log.userId = some userId ∧ log.eventType = .loginFailed ∧ since < log.createdAt

def UserRow.named (username : Text) (user : UserRow) : Bool := user.username == username || user.email == username

/-- The failures that the join of both tables counts. -/
def userFailCount (state : AccountState) (username : Text) (since : Int) : Nat :=
  ((state.auth.users.filter (·.named username)).map
    fun user => state.logs.countP (·.failedFor user.id since)).sum

/-- A query that fails counts nothing. -/
def rateLimitCheck (state : AccountState) (clientIp username : Text) (now : Int) (answers : LimitAnswers) : AuthCode :=
  let oneHourAgo := now - 3600
  if !answers.ipPrepareOk then .success
  else if answers.ipStepOk ∧ 20 < state.logs.countP (·.failedFrom clientIp oneHourAgo) then .rateLimitExceeded
  else if answers.userPrepareOk ∧ answers.userStepOk ∧ 10 < userFailCount state username oneHourAgo then
    .rateLimitExceeded
  else .success

/-- The tests of `auth_register_user` in front of the mutex. -/
def checkRegistration (call : RegisterCall) : Option RegisterCode :=
  if !authValidateUsername call.username then some .invalidCredentials
  else if !call.validPassword then some .passwordTooWeak
  else if !authValidateEmail call.email then some .invalidCredentials
  else none

/-- The part of `auth_register_user` that holds the mutex. -/
def registerLocked (crypto : Crypto) (state : AccountState) (call : RegisterCall) :
    AccountState × List AccountOutput :=
  if !call.prepareOk then (state, [.registration .invalidCredentials])
  else if call.stepOk ∧ state.auth.users.any
      (fun user => user.username == call.username || user.email == call.email) then
    (state, [.registration .invalidCredentials])
  else
    match authGeneratePasswordHash crypto call.password call.salt with
    | .error code => (state, [.registration code])
    | .ok hash =>
        match insertUser state call.username call.email hash call.salt, call.insertOk with
        | some next, true =>
            let userId := UInt64.ofNat state.nextUserId
            ({ next with threads := next.threads ++ [.announcing userId call.username call.clientIp] },
              [.registered userId call])
        | _, _ => (state, [.registration .invalidCredentials])

/-- The part of `auth_login_user` that holds the mutex, behind the rate limit. The fifth wrong password
writes to the log in the middle of it, and this needs the mutex once more. -/
def verifyLocked (crypto : Crypto) (state : AccountState) (index : Nat) (call : LoginCall) :
    AccountState × List AccountOutput :=
  if !call.selectOk then
    ({ state with threads := state.threads.eraseIdx index }, [.login (.returned .invalidCredentials)])
  else
    let goOn (next : AuthState) (userId : UInt64) (success : Bool) (reason : String) (code : AuthCode) :=
      { state with
        auth := next
        threads := state.threads.set index (.recording userId success reason.toList code call) }
    match findUser state.auth call.username with
    | none => (goOn state.auth 0 false "User not found" .invalidCredentials, [])
    | some user =>
        let now := call.now.seconds
        if now < user.accountLockedUntil then (goOn state.auth user.id false "Account locked" .accountLocked, [])
        else if !user.isActive then (goOn state.auth user.id false "Account disabled" .accountDisabled, [])
        else if authVerifyPassword crypto call.password user.passwordSalt user.passwordHash then
          (goOn (updateUser state.auth (resetLogin user now) call.updateOk) user.id true "Login successful" .success,
            [.login (.verified user.id now true)])
        else if authMaxLoginAttempts ≤ user.loginAttempts + 1 then
          ({ state with stuck := true }, [.login (.verified user.id now false)])
        else
          (goOn (updateUser state.auth (failLogin user now) call.updateOk) user.id false "Invalid password"
            .invalidCredentials, [.login (.verified user.id now false)])

inductive AccountStep where
  | register (call : RegisterCall)
  | announce (index : Nat) (insertOk : Bool)
  | begin (call : LoginCall) (answers : LimitAnswers)
  | verify (index : Nat)
  | record (index : Nat) (insertOk : Bool)
  | issue (index : Nat)

structure AccountInput where
  now : Time
  step : AccountStep

/-- A thread that has the mutex. The login behind a registration is a login like any other. -/
def accountLocked (schema : Schema) (crypto : Crypto) (state : AccountState) (now : Time) :
    AccountStep → AccountState × List AccountOutput
  | .register call => registerLocked crypto state call
  | .announce index insertOk =>
      match state.threads[index]? with
      | some (.announcing userId username clientIp) =>
          (authLogSecurityEvent { state with threads := state.threads.eraseIdx index } userId
            (cutTo 256 ("User registered: ".toList ++ username)) clientIp now.seconds insertOk,
            [.registration .success])
      | _ => (state, [])
  | .begin call answers =>
      match rateLimitCheck state call.clientIp call.username now.seconds answers with
      | .success => ({ state with threads := state.threads ++ [.admitted call] }, [])
      | code => (state, [.login (.returned code)])
  | .verify index =>
      match state.threads[index]? with
      | some (.admitted call) => verifyLocked crypto state index { call with now := now }
      | _ => (state, [])
  | .record index insertOk =>
      match state.threads[index]? with
      | some (.recording userId success reason code call) =>
          let logged := logAuthenticationAttempt state userId call.clientIp success reason now.seconds insertOk
          if success ∧ call.wantsTokens then
            ({ logged with threads := state.threads.set index (.issuing userId call) }, [])
          else ({ logged with threads := state.threads.eraseIdx index }, [.login (.returned code)])
      | _ => (state, [])
  | .issue index =>
      match state.threads[index]? with
      | some (.issuing userId call) =>
          let (code, next, outputs) := openSessions schema crypto state.auth userId call
          ({ state with auth := next, threads := state.threads.eraseIdx index },
            (outputs ++ [AuthOutput.returned code]).map .login)
      | _ => (state, [])

/-- Only the tests in front of a registration need no mutex. -/
def accountMachine (schema : Schema) (crypto : Crypto) : Machine AccountState AccountInput AccountOutput where
  step state input :=
    let timed := { state with clock := input.now.seconds }
    let refused := match input.step with
      | .register call => checkRegistration call
      | _ => none
    match refused with
    | some code => (timed, [.registration code])
    | none => if state.stuck then (timed, []) else accountLocked schema crypto timed input.now input.step

/-- The module over an empty database. -/
def authInitAccounts (crypto : Crypto) (salt garbage : List UInt8) (insertOk : Bool) (clock : Int) : AccountState :=
  createTables crypto salt garbage insertOk ⟨⟨[], [], 0⟩, 1, [], [], false, clock⟩

end SecureChat.Auth
