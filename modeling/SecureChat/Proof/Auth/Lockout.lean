import SecureChat.Library.MachineInt
import SecureChat.Library.RateLimits
import SecureChat.Proof.Auth.Tokens

namespace SecureChat.Auth
open Library

/-- The time lies in the window that begins at `low` and lasts as long as a lock. -/
def Inside (low now : Int) : Prop := low ≤ now ∧ now < low + authLockoutDuration

instance (low now : Int) : Decidable (Inside low now) := inferInstanceAs (Decidable (_ ∧ _))

/-- The password of the user was found wrong in the window. -/
def failsIn (userId : UInt64) (low : Int) : AuthOutput → Bool
  | .verified other now false => other = userId ∧ Inside low now
  | _ => false

/-- The password of the user was found right in the window. From there on the source calls the login successful. -/
def succeedsIn (userId : UInt64) (low : Int) : AuthOutput → Bool
  | .verified other now true => other = userId ∧ Inside low now
  | _ => false

/-- The failures of the user in the window. -/
def failuresIn (userId : UInt64) (low : Int) (outputs : List AuthOutput) : Nat :=
  outputs.countP (failsIn userId low)

/-- The output reports no verification. -/
def Quiet (output : AuthOutput) : Prop := ∀ userId now valid, output ≠ .verified userId now valid

/-- What all rows of the user say about its failures. -/
def Account (state : AuthState) (userId : UInt64) (attempts : Nat) (lockedUntil : Int) : Prop :=
  ∀ user ∈ state.users, user.id = userId →
    user.loginAttempts.toNat = attempts ∧ user.accountLockedUntil = lockedUntil

/-- The row of a user after a verification of its password. -/
def verifiedRow (user : UserRow) (now : Int) (valid : Bool) : UserRow :=
  if valid then resetLogin user now else failLogin user now

theorem failLogin_id (user : UserRow) (now : Int) : (failLogin user now).id = user.id := by
  unfold failLogin
  split <;> rfl

theorem verifiedRow_id (user : UserRow) (now : Int) (valid : Bool) : (verifiedRow user now valid).id = user.id := by
  cases valid with
  | true => rfl
  | false => exact failLogin_id user now

section Step

variable (schema : Schema) (crypto : Crypto) (state : AuthState)

theorem authGenerateTokens_users (userId : UInt64) (clientIp : Text) (answers : IssueAnswers) :
    (authGenerateTokens schema crypto state userId clientIp answers).2.2.1.users = state.users := by
  cases taken : issueInserts schema crypto state userId clientIp answers with
  | false =>
      obtain ⟨outputs, result⟩ := authGenerateTokens_refused schema crypto state userId clientIp answers taken
      rw [result]
  | true => rw [authGenerateTokens_inserted schema crypto state userId clientIp answers taken]

theorem authGenerateTokens_quiet (userId : UInt64) (clientIp : Text) (answers : IssueAnswers) :
    ∀ output ∈ (authGenerateTokens schema crypto state userId clientIp answers).2.2.2, Quiet output := by
  intro output member
  rcases authGenerateTokens_outputs schema crypto state userId clientIp answers output member with
    ⟨token, rfl⟩ | ⟨row, rfl⟩ <;> exact fun _ _ _ => nofun

/-- The issues of a login leave the users alone and verify nothing. -/
theorem openSessions_quiet (userId : UInt64) (call : LoginCall) :
    (openSessions schema crypto state userId call).2.1.users = state.users ∧
      ∀ output ∈ (openSessions schema crypto state userId call).2.2, Quiet output := by
  have first := authGenerateTokens_quiet schema crypto state userId call.clientIp call.first
  rw [openSessions_eq]
  split
  · refine ⟨(authGenerateTokens_users ..).trans (authGenerateTokens_users ..), ?_⟩
    dsimp only
    rw [List.forall_mem_append, List.forall_mem_append]
    refine ⟨⟨first, authGenerateTokens_quiet schema crypto _ userId call.clientIp call.second⟩, ?_⟩
    intro output member
    rw [List.mem_singleton.mp member]
    exact fun _ _ _ => nofun
  · exact ⟨rfl, first⟩

/-- A login verifies nothing, or it verifies the password of a user whose lock is over. -/
theorem checkLogin_cases (call : LoginCall) (updated : call.updateOk = true) :
    (checkedState (checkLogin crypto state call) = state ∧ checkedOutputs (checkLogin crypto state call) = []) ∨
      ∃ user ∈ state.users, ∃ valid, user.accountLockedUntil ≤ call.now.seconds ∧
        checkedOutputs (checkLogin crypto state call) = [.verified user.id call.now.seconds valid] ∧
        (checkedState (checkLogin crypto state call)).users = state.users.map fun other =>
          if other.id = user.id then verifiedRow user call.now.seconds valid else other := by
  unfold checkLogin
  split
  · exact .inl ⟨rfl, rfl⟩
  · split
    · exact .inl ⟨rfl, rfl⟩
    · split
      · exact .inl ⟨rfl, rfl⟩
      · rename_i user found
        dsimp only
        split
        · exact .inl ⟨rfl, rfl⟩
        · rename_i unlocked
          split
          · exact .inl ⟨rfl, rfl⟩
          · have member : user ∈ state.users := List.mem_of_find?_eq_some found
            rw [updated]
            split
            · exact .inr ⟨user, member, true, Int.not_lt.mp unlocked, rfl, rfl⟩
            · refine .inr ⟨user, member, false, Int.not_lt.mp unlocked, rfl, ?_⟩
              unfold checkedState updateUser
              rw [failLogin_id]
              rfl

/-- What a login does behind its check leaves the users alone and verifies nothing. -/
theorem authLoginUser_quiet (call : LoginCall) :
    (authLoginUser schema crypto state call).2.1.users = (checkedState (checkLogin crypto state call)).users ∧
      ∃ rest, (authLoginUser schema crypto state call).2.2 =
        checkedOutputs (checkLogin crypto state call) ++ rest ∧ ∀ output ∈ rest, Quiet output := by
  have nothing : ∀ outputs : List AuthOutput, ∃ rest, outputs = outputs ++ rest ∧ ∀ output ∈ rest, Quiet output :=
    fun outputs => ⟨[], (List.append_nil _).symm, fun output member => nomatch member⟩
  unfold authLoginUser
  cases checkLogin crypto state call with
  | refused code next outputs => exact ⟨rfl, nothing outputs⟩
  | passed userId next outputs =>
      dsimp only
      split
      · exact ⟨rfl, nothing outputs⟩
      · obtain ⟨same, quiet⟩ := openSessions_quiet schema crypto next userId call
        exact ⟨same, _, rfl, quiet⟩

/-- A login verifies nothing and leaves the users alone, or it verifies one password and changes one user. -/
theorem authStep_login_cases (call : LoginCall) (updated : call.updateOk = true) :
    ((authStep schema crypto state (.login call)).1.users = state.users ∧
        ∀ output ∈ (authStep schema crypto state (.login call)).2, Quiet output) ∨
      ∃ user ∈ state.users, ∃ valid rest, user.accountLockedUntil ≤ call.now.seconds ∧
        (authStep schema crypto state (.login call)).2 = .verified user.id call.now.seconds valid :: rest ∧
        (∀ output ∈ rest, Quiet output) ∧
        (authStep schema crypto state (.login call)).1.users = state.users.map fun other =>
          if other.id = user.id then verifiedRow user call.now.seconds valid else other := by
  obtain ⟨users, rest, outputs, quiet⟩ := authLoginUser_quiet schema crypto state call
  have silent : ∀ output ∈ rest ++ [.returned (authLoginUser schema crypto state call).1], Quiet output := by
    rw [List.forall_mem_append]
    refine ⟨quiet, fun output member => ?_⟩
    rw [List.mem_singleton.mp member]
    exact fun _ _ _ => nofun
  unfold authStep
  dsimp only
  rw [users, outputs, List.append_assoc]
  rcases checkLogin_cases crypto state call updated with ⟨same, none⟩ | ⟨user, member, valid, unlocked, one, changed⟩
  · rw [same, none]
    exact .inl ⟨rfl, silent⟩
  · rw [one]
    exact .inr ⟨user, member, valid, _, unlocked, rfl, silent, changed⟩

end Step

/-- The counter of a failure is below the limit, or it begins anew with a lock. -/
theorem failLogin_cases (user : UserRow) (now : Int) (below : user.loginAttempts.toNat < 5) :
    ((failLogin user now).loginAttempts.toNat = user.loginAttempts.toNat + 1 ∧
        user.loginAttempts.toNat + 1 < 5 ∧ (failLogin user now).accountLockedUntil = user.accountLockedUntil) ∨
      ((failLogin user now).loginAttempts.toNat = 0 ∧
        (failLogin user now).accountLockedUntil = now + authLockoutDuration) := by
  have next := increment32 user.loginAttempts (by omega)
  unfold failLogin
  split
  · exact .inr ⟨rfl, rfl⟩
  · rename_i few
    refine .inl ⟨next, ?_, rfl⟩
    rw [← next]
    exact Nat.not_le.mp few

section Account

variable {state next : AuthState} {userId : UInt64} {attempts : Nat} {lockedUntil : Int}

theorem Account.same (account : Account state userId attempts lockedUntil) (users : next.users = state.users) :
    Account next userId attempts lockedUntil := by
  intro user member
  exact account user (users ▸ member)

/-- The rows of another user stay as they are. -/
theorem Account.other (account : Account state userId attempts lockedUntil) {user : UserRow} {now : Int}
    {valid : Bool} (differs : user.id ≠ userId)
    (users : next.users = state.users.map fun other =>
      if other.id = user.id then verifiedRow user now valid else other) :
    Account next userId attempts lockedUntil := by
  intro row member own
  rw [users] at member
  obtain ⟨before, there, rfl⟩ := List.mem_map.mp member
  split at own
  · rw [verifiedRow_id] at own
    exact absurd own differs
  · rename_i apart
    rw [if_neg apart]
    exact account before there own

/-- All rows of the user become the row that was verified. -/
theorem Account.own {user : UserRow} {now : Int} {valid : Bool}
    (users : next.users = state.users.map fun other =>
      if other.id = user.id then verifiedRow user now valid else other) :
    Account next user.id (verifiedRow user now valid).loginAttempts.toNat
      (verifiedRow user now valid).accountLockedUntil := by
  intro row member own
  rw [users] at member
  obtain ⟨before, there, rfl⟩ := List.mem_map.mp member
  split at own
  · rename_i same
    rw [if_pos same]
    exact ⟨rfl, rfl⟩
  · rename_i apart
    exact absurd own apart

end Account

/-- What the rows of the user say fits the failures in the window, as long as there was no success in it. -/
def History (userId : UInt64) (low clock : Int) (state : AuthState) (outputs : List AuthOutput) : Prop :=
  ∃ attempts lockedUntil, Account state userId attempts lockedUntil ∧ attempts < 5 ∧
    ((∀ output ∈ outputs, succeedsIn userId low output = false) →
      Throttled authLockoutDuration 5 low lockedUntil clock attempts (failuresIn userId low outputs))

section Window

variable {userId : UInt64} {low clock : Int} {state : AuthState} {outputs : List AuthOutput}

theorem failsIn_quiet {output : AuthOutput} (quiet : Quiet output) : failsIn userId low output = false := by
  unfold failsIn
  split
  · exact absurd rfl (quiet _ _ _)
  · rfl

theorem failuresIn_quiet {rest : List AuthOutput} (quiet : ∀ output ∈ rest, Quiet output) :
    failuresIn userId low (outputs ++ rest) = failuresIn userId low outputs := by
  unfold failuresIn
  rw [List.countP_append, Nat.add_eq_left, List.countP_eq_zero]
  intro output member
  rw [failsIn_quiet (quiet output member)]
  exact Bool.false_ne_true

/-- A verification of another user counts nothing. -/
theorem failuresIn_verified (other : UInt64) (now : Int) (valid : Bool) {rest : List AuthOutput}
    (quiet : ∀ output ∈ rest, Quiet output) :
    failuresIn userId low (outputs ++ .verified other now valid :: rest) = failuresIn userId low outputs +
      if valid = false ∧ other = userId ∧ Inside low now then 1 else 0 := by
  rw [← List.singleton_append, ← List.append_assoc, failuresIn_quiet quiet]
  unfold failuresIn
  rw [List.countP_append, List.countP_singleton]
  cases valid <;> simp [failsIn]

/-- A verification of the user itself carries the history on. -/
theorem History.verified (history : History userId low clock state outputs) {user : UserRow} {next : AuthState}
    {now : Int} {valid : Bool} {rest : List AuthOutput} (member : user ∈ state.users) (own : user.id = userId)
    (after : clock ≤ now) (unlocked : user.accountLockedUntil ≤ now) (quiet : ∀ output ∈ rest, Quiet output)
    (changed : next.users = state.users.map fun other =>
      if other.id = user.id then verifiedRow user now valid else other) :
    History userId low now next (outputs ++ .verified user.id now valid :: rest) := by
  subst own
  obtain ⟨attempts, lockedUntil, account, below, throttled⟩ := history
  obtain ⟨rfl, rfl⟩ := account user member rfl
  have before : (∀ output ∈ outputs ++ AuthOutput.verified user.id now valid :: rest,
      succeedsIn user.id low output = false) → ∀ output ∈ outputs, succeedsIn user.id low output = false :=
    fun none output there => none output (List.mem_append_left _ there)
  cases valid with
  | true =>
      refine ⟨_, _, Account.own changed, Nat.zero_lt_succ _, fun none => ?_⟩
      have elsewhere : ¬ Inside low now := by
        have failed := none _ (List.mem_append_right _ (List.mem_cons_self ..))
        simpa [succeedsIn] using failed
      rw [failuresIn_verified _ _ _ quiet, if_neg fun counted => nomatch counted.1]
      exact (throttled (before none)).outside after (Nat.le_of_lt below) elsewhere
  | false =>
      have counted : failuresIn user.id low (outputs ++ AuthOutput.verified user.id now false :: rest) =
          failuresIn user.id low outputs + if low ≤ now ∧ now < low + authLockoutDuration then 1 else 0 := by
        rw [failuresIn_verified _ _ _ quiet]
        simp only [true_and]
        rfl
      have own := Account.own changed
      rw [show verifiedRow user now false = failLogin user now from rfl] at own
      rcases failLogin_cases user now below with ⟨count, few, kept⟩ | ⟨zero, lock⟩
      · refine ⟨_, _, own, count ▸ few, fun none => ?_⟩
        rw [counted, count, kept]
        exact (throttled (before none)).fail after unlocked (Nat.le_of_lt below)
      · refine ⟨_, _, own, zero ▸ Nat.zero_lt_succ _, fun none => ?_⟩
        rw [counted, zero, lock]
        exact (throttled (before none)).lock after unlocked below

/-- A login at a later time carries the history on. -/
theorem History.authStep (schema : Schema) (crypto : Crypto) (history : History userId low clock state outputs)
    (call : LoginCall) (updated : call.updateOk = true) (after : clock ≤ call.now.seconds) :
    History userId low call.now.seconds (authStep schema crypto state (.login call)).1
      (outputs ++ (authStep schema crypto state (.login call)).2) := by
  rcases authStep_login_cases schema crypto state call updated with
    ⟨same, quiet⟩ | ⟨user, member, valid, rest, unlocked, reported, quiet, changed⟩
  · obtain ⟨attempts, lockedUntil, account, below, throttled⟩ := history
    refine ⟨attempts, lockedUntil, account.same same, below, fun none => ?_⟩
    rw [failuresIn_quiet quiet]
    exact (throttled fun output before => none output (List.mem_append_left _ before)).later after
  · rw [reported]
    by_cases own : user.id = userId
    · exact history.verified member own after unlocked quiet changed
    · obtain ⟨attempts, lockedUntil, account, below, throttled⟩ := history
      refine ⟨attempts, lockedUntil, account.other own changed, below, fun none => ?_⟩
      rw [failuresIn_verified _ _ _ quiet, if_neg fun counted => own counted.2.1]
      exact (throttled fun output before => none output (List.mem_append_left _ before)).later after

/-- Logins one after the other carry the history on. -/
theorem History.run (schema : Schema) (crypto : Crypto) (calls : List LoginCall)
    (history : History userId low clock state outputs) (updated : ∀ call ∈ calls, call.updateOk = true)
    (sorted : calls.Pairwise fun call later => call.now.seconds ≤ later.now.seconds)
    (after : ∀ call ∈ calls, clock ≤ call.now.seconds) :
    ∃ last, History userId low last ((authMachine schema crypto).run state (calls.map .login)).1
      (outputs ++ ((authMachine schema crypto).run state (calls.map .login)).2) := by
  induction calls generalizing state clock outputs with
  | nil =>
      rw [List.map_nil, Machine.run_nil, List.append_nil]
      exact ⟨clock, history⟩
  | cons call calls ih =>
      obtain ⟨behind, rest⟩ := List.pairwise_cons.mp sorted
      have next := history.authStep schema crypto call (updated call (List.mem_cons_self ..))
        (after call (List.mem_cons_self ..))
      have carried := ih next (fun other member => updated other (List.mem_cons_of_mem _ member)) rest behind
      rw [List.append_assoc] at carried
      exact carried

end Window

/-- The password of the user is verified in no state in which the user is locked.
The counter stays below its limit, and no window as long as a lock sees more failures than that,
if it sees no success. -/
theorem authMachine_lockout (schema : Schema) (crypto : Crypto) (state : AuthState)
    (fresh : ∀ user ∈ state.users, user.loginAttempts = 0 ∧ user.accountLockedUntil = 0) (calls : List LoginCall)
    (updated : ∀ call ∈ calls, call.updateOk = true)
    (sorted : calls.Pairwise fun call later => call.now.seconds ≤ later.now.seconds) :
    (∀ earlier later, calls = earlier ++ later →
        ∀ user ∈ ((authMachine schema crypto).run state (earlier.map .login)).1.users,
          user.loginAttempts < authMaxLoginAttempts) ∧
      (∀ earlier call later, calls = earlier ++ call :: later → ∀ userId now valid,
        AuthOutput.verified userId now valid ∈ ((authMachine schema crypto).step
          ((authMachine schema crypto).run state (earlier.map .login)).1 (.login call)).2 →
        now = call.now.seconds ∧
          ∀ user ∈ ((authMachine schema crypto).run state (earlier.map .login)).1.users,
            user.id = userId → user.accountLockedUntil ≤ now) ∧
      ∀ userId low,
        (∀ output ∈ ((authMachine schema crypto).run state (calls.map .login)).2,
          succeedsIn userId low output = false) →
        failuresIn userId low ((authMachine schema crypto).run state (calls.map .login)).2 ≤
          authMaxLoginAttempts.toNat := by
  have history : ∀ userId low, History userId low (-2 ^ 62) state [] := by
    intro userId low
    refine ⟨0, 0, fun user member _ => ?_, Nat.zero_lt_succ _, fun _ => .initial⟩
    obtain ⟨zero, unlocked⟩ := fresh user member
    exact ⟨by rw [zero]; rfl, unlocked⟩
  have reached : ∀ userId low earlier later, calls = earlier ++ later → ∃ last, History userId low last
      ((authMachine schema crypto).run state (earlier.map .login)).1
      ((authMachine schema crypto).run state (earlier.map .login)).2 := by
    rintro userId low earlier later rfl
    exact (history userId low).run schema crypto earlier
      (fun call member => updated call (List.mem_append_left _ member)) (List.pairwise_append.mp sorted).1
      fun call _ => call.now.lower
  refine ⟨?_, ?_, ?_⟩
  · intro earlier later split user member
    obtain ⟨last, attempts, lockedUntil, account, below, -⟩ := reached user.id 0 earlier later split
    have count := (account user member rfl).1
    exact UInt32.lt_iff_toNat_lt.mpr (count ▸ below)
  · rintro earlier call later rfl userId now valid verified
    obtain ⟨last, attempts, lockedUntil, account, -, -⟩ := reached userId 0 earlier (call :: later) rfl
    rcases authStep_login_cases schema crypto _ call
        (updated call (List.mem_append_right _ (List.mem_cons_self ..))) with
      ⟨-, quiet⟩ | ⟨user, member, result, rest, unlocked, reported, quiet, -⟩
    · exact absurd rfl (quiet _ verified userId now valid)
    · rw [show ((authMachine schema crypto).step _ (.login call)).2 = _ from reported] at verified
      rcases List.mem_cons.mp verified with here | later
      · obtain ⟨rfl, rfl, rfl⟩ := AuthOutput.verified.inj here
        refine ⟨rfl, fun other there same => ?_⟩
        rw [(account other there same).2, ← (account user member rfl).2]
        exact unlocked
      · exact absurd rfl (quiet _ later userId now valid)
  · intro userId low none
    obtain ⟨last, attempts, lockedUntil, -, below, throttled⟩ :=
      reached userId low calls [] (List.append_nil calls).symm
    exact (throttled none).bounded (Nat.le_of_lt below)

/-- What PBKDF2 derives from the password Secret-13 and a salt of ones. -/
def guessHash : List UInt8 :=
  [0x18, 0xd4, 0x59, 0x13, 0x85, 0xb3, 0xae, 0xc4, 0x91, 0x4f, 0xf7, 0x67, 0xce, 0x78, 0x74, 0x11,
    0x2f, 0xd1, 0xd0, 0x70, 0x59, 0x90, 0xcb, 0x4c, 0x06, 0x7f, 0x69, 0xfa, 0xa6, 0xdc, 0xc5, 0xf2,
    0x52, 0x2b, 0xbd, 0x7d, 0x48, 0x90, 0x7d, 0x08, 0x38, 0xb3, 0x4c, 0x53, 0x63, 0x14, 0x8c, 0x69,
    0xd0, 0xa3, 0x24, 0xae, 0xe7, 0xca, 0xa7, 0xe1, 0xc4, 0xce, 0xe4, 0x2b, 0x3a, 0x14, 0x78, 0xf8]

def guessCrypto : Crypto where
  hmac := sampleCrypto.hmac
  pbkdf2 password salt :=
    if password = "Secret-13".toList ∧ salt = List.replicate 32 1 then some guessHash
    else sampleCrypto.pbkdf2 password salt

/-- A login with a wrong password. -/
def guess (offset : Fin 10) : LoginCall :=
  ⟨"alice".toList, "Secret-13".toList, sampleIp, true, .success, true, sampleTime offset, true,
    sampleIssue 'a' 0, sampleIssue 'b' 0⟩

/-- One guess in each of ten seconds. -/
def guesses : List LoginCall := (List.finRange 10).map guess

/-- The last five guesses find the account locked. -/
theorem authMachine_lockout_guesses :
    failuresIn 7 1700000000 ((authMachine ⟨true⟩ guessCrypto).run (authInit [sampleUser])
        (guesses.map .login)).2 = 5 ∧
      failuresIn 7 1700000000 ((authMachine ⟨true⟩ guessCrypto).run (authInit [sampleUser])
        (guesses.map .login)).2 ≤ authMaxLoginAttempts.toNat := by
  refine ⟨by decide +kernel, ?_⟩
  have lockout := authMachine_lockout ⟨true⟩ guessCrypto (authInit [sampleUser]) (by decide) guesses
    (by decide +kernel) (by decide +kernel)
  exact lockout.2.2 7 1700000000 (by decide +kernel)

end SecureChat.Auth
