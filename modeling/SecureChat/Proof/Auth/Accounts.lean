import Mathlib.Data.List.Pairwise
import SecureChat.Proof.Auth.Lockout

namespace SecureChat.Auth
open Library

/-- The output neither reports a registration nor a verification, and it is not the return of a locked account. -/
def Silent : AccountOutput → Prop
  | .registered _ _ => False
  | .registration _ => True
  | .login output => Quiet output ∧ output ≠ .returned .accountLocked

/-- Why a login is refused before its password is looked at. -/
inductive Refuses (state : AccountState) (now : Int) (call : LoginCall) : UInt64 → AuthCode → Prop where
  | unknown (missing : findUser state.auth call.username = none) : Refuses state now call 0 .invalidCredentials
  | locked (user : UserRow) (found : findUser state.auth call.username = some user)
      (early : now < user.accountLockedUntil) : Refuses state now call user.id .accountLocked
  | disabled (user : UserRow) (found : findUser state.auth call.username = some user) (off : user.isActive = false) :
      Refuses state now call user.id .accountDisabled

/-- What a thread that has the mutex can do. -/
inductive Move (crypto : Crypto) (state : AccountState) (now : Int) :
    AccountStep → AccountState → List AccountOutput → Prop where
  | registers (call : RegisterCall) (hash : List UInt8) (valid : checkRegistration call = none)
      (fresh : ∀ user ∈ state.auth.users, user.username ≠ call.username ∧ user.email ≠ call.email)
      (room : state.nextUserId ≤ maxRowId) (hashed : crypto.pbkdf2 call.password call.salt = some hash) :
      Move crypto state now (.register call)
        { state with
          auth := { state.auth with
            users := state.auth.users ++
              [⟨UInt64.ofNat state.nextUserId, call.username, call.email, hash, call.salt, 0, 0, 0, true⟩] }
          nextUserId := state.nextUserId + 1
          threads := state.threads ++
            [.announcing (UInt64.ofNat state.nextUserId) call.username call.clientIp] }
        [.registered (UInt64.ofNat state.nextUserId) call]
  | announces {step : AccountStep} (index : Nat) (userId : UInt64) (username clientIp details : Text) (insertOk : Bool)
      (found : state.threads[index]? = some (.announcing userId username clientIp)) :
      Move crypto state now step
        (logAuthenticationAttempt { state with threads := state.threads.eraseIdx index } userId clientIp true details
          now insertOk) [.registration .success]
  | begins (call : LoginCall) (answers : LimitAnswers)
      (admitted : rateLimitCheck state call.clientIp call.username now answers = .success) :
      Move crypto state now (.begin call answers) { state with threads := state.threads ++ [.admitted call] } []
  | drops {step : AccountStep} (index : Nat) (call : LoginCall)
      (found : state.threads[index]? = some (.admitted call)) :
      Move crypto state now step { state with threads := state.threads.eraseIdx index }
        [.login (.returned .invalidCredentials)]
  | refuses {step : AccountStep} (index : Nat) (call after : LoginCall) (userId : UInt64) (reason : Text)
      (code : AuthCode) (found : state.threads[index]? = some (.admitted call)) (same : after.clientIp = call.clientIp)
      (why : Refuses state now call userId code) :
      Move crypto state now step
        { state with threads := state.threads.set index (.recording userId false reason code after) } []
  | verifies {step : AccountStep} (index : Nat) (call after : LoginCall) (user : UserRow) (valid : Bool) (reason : Text)
      (found : state.threads[index]? = some (.admitted call)) (same : after.clientIp = call.clientIp)
      (chosen : findUser state.auth call.username = some user)
      (below : valid = false → user.loginAttempts + 1 < authMaxLoginAttempts) :
      Move crypto state now step
        { state with
          auth := updateUser state.auth (verifiedRow user now valid) call.updateOk
          threads := state.threads.set index
            (.recording user.id valid reason (if valid then .success else .invalidCredentials) after) }
        [.login (.verified user.id now valid)]
  | hangs {step : AccountStep} (index : Nat) (call : LoginCall) (user : UserRow)
      (found : state.threads[index]? = some (.admitted call)) (chosen : findUser state.auth call.username = some user)
      (fifth : authMaxLoginAttempts ≤ user.loginAttempts + 1) :
      Move crypto state now step { state with stuck := true } [.login (.verified user.id now false)]
  | records {step : AccountStep} (index : Nat) (userId : UInt64) (success : Bool) (reason : Text) (code : AuthCode)
      (call : LoginCall) (insertOk : Bool)
      (found : state.threads[index]? = some (.recording userId success reason code call)) :
      Move crypto state now step
        (logAuthenticationAttempt { state with threads := state.threads.eraseIdx index } userId call.clientIp success
          reason now insertOk) [.login (.returned code)]
  | goesOn {step : AccountStep} (index : Nat) (userId : UInt64) (reason : Text) (code : AuthCode)
      (call : LoginCall) (insertOk : Bool)
      (found : state.threads[index]? = some (.recording userId true reason code call)) :
      Move crypto state now step
        (logAuthenticationAttempt { state with threads := state.threads.set index (.issuing userId call) } userId
          call.clientIp true reason now insertOk) []
  | issues {step : AccountStep} (index : Nat) (userId : UInt64) (call : LoginCall) (next : AuthState)
      (outputs : List AccountOutput) (found : state.threads[index]? = some (.issuing userId call))
      (users : next.users = state.auth.users) (silent : ∀ output ∈ outputs, Silent output) :
      Move crypto state now step { state with auth := next, threads := state.threads.eraseIdx index } outputs

section Moves

variable (schema : Schema) (crypto : Crypto) (state : AccountState)

theorem logAuthenticationAttempt_threads (threads : List AuthThread) (userId : UInt64) (clientIp reason : Text)
    (success : Bool) (now : Int) (insertOk : Bool) :
    { logAuthenticationAttempt state userId clientIp success reason now insertOk with threads := threads } =
      logAuthenticationAttempt { state with threads := threads } userId clientIp success reason now insertOk := by
  unfold logAuthenticationAttempt
  split <;> rfl

theorem quiet_silent (code : AuthCode) (other : code ≠ .accountLocked) : Silent (.login (.returned code)) := by
  refine ⟨by rintro _ _ _ ⟨⟩, ?_⟩
  rintro ⟨⟩
  exact other rfl

theorem rateLimitCheck_cases (clientIp username : Text) (now : Int) (answers : LimitAnswers) :
    rateLimitCheck state clientIp username now answers = .success ∨
      rateLimitCheck state clientIp username now answers = .rateLimitExceeded := by
  unfold rateLimitCheck
  dsimp only
  split
  · exact .inl rfl
  · split
    · exact .inr rfl
    · split
      · exact .inr rfl
      · exact .inl rfl

/-- The issues of a login report tokens and rows only. -/
theorem openSessions_silent (userId : UInt64) (call : LoginCall) :
    ∀ output ∈ ((openSessions schema crypto state.auth userId call).2.2 ++
      [AuthOutput.returned (openSessions schema crypto state.auth userId call).1]).map .login, Silent output := by
  have quiet := (openSessions_quiet schema crypto state.auth userId call).2
  have unlocked : (openSessions schema crypto state.auth userId call).1 ≠ .accountLocked ∧
      ∀ code, .returned code ∉ (openSessions schema crypto state.auth userId call).2.2 := by
    have plain (auth : AuthState) (answers : IssueAnswers) (code : AuthCode) :
        .returned code ∉ (authGenerateTokens schema crypto auth userId call.clientIp answers).2.2.2 := by
      intro member
      rcases authGenerateTokens_outputs schema crypto auth userId call.clientIp answers _ member with
        ⟨token, same⟩ | ⟨row, same⟩ <;> cases same
    rw [openSessions_eq]
    split
    · refine ⟨by rintro ⟨⟩, fun code member => ?_⟩
      rcases List.mem_append.mp member with issued | last
      · rcases List.mem_append.mp issued with first | second
        · exact plain _ _ code first
        · exact plain _ _ code second
      · cases List.mem_singleton.mp last
    · exact ⟨by rintro ⟨⟩, plain _ _⟩
  intro output member
  obtain ⟨inner, inside, rfl⟩ := List.mem_map.mp member
  rcases List.mem_append.mp inside with issued | last
  · refine ⟨quiet inner issued, ?_⟩
    rintro rfl
    exact unlocked.2 _ issued
  · rw [List.mem_singleton.mp last]
    exact quiet_silent _ unlocked.1

/-- A registration is refused, or a new row is inserted. -/
theorem registerLocked_cases (now : Int) (call : RegisterCall) (valid : checkRegistration call = none) :
    ((registerLocked crypto state call).1 = state ∧ ∀ output ∈ (registerLocked crypto state call).2, Silent output) ∨
      Move crypto state now (.register call) (registerLocked crypto state call).1
        (registerLocked crypto state call).2 := by
  have refused (code : RegisterCode) : ∀ output ∈ [AccountOutput.registration code], Silent output := by
    intro output member
    rw [List.mem_singleton.mp member]
    trivial
  unfold registerLocked
  split
  · exact .inl ⟨rfl, refused _⟩
  · split
    · exact .inl ⟨rfl, refused _⟩
    · split
      · exact .inl ⟨rfl, refused _⟩
      · rename_i hash hashed
        split
        · rename_i next inserted answered
          right
          have computed : crypto.pbkdf2 call.password call.salt = some hash := by
            unfold authGeneratePasswordHash at hashed
            split at hashed
            · cases hashed
            · split at hashed
              · cases hashed
              · rename_i found
                cases hashed
                exact found
          unfold insertUser at inserted
          split at inserted
          · cases inserted
          · rename_i free
            split at inserted
            · cases inserted
            · rename_i room
              cases inserted
              refine .registers call hash valid ?_ (Nat.not_lt.mp room) computed
              simpa using free
        · exact .inl ⟨rfl, refused _⟩

/-- A login behind its rate limit is refused, or its password is verified. -/
theorem verifyLocked_cases (step : AccountStep) (index : Nat) (call : LoginCall) (now : Time)
    (found : state.threads[index]? = some (.admitted call)) :
    Move crypto state now.seconds step (verifyLocked crypto state index { call with now := now }).1
      (verifyLocked crypto state index { call with now := now }).2 := by
  unfold verifyLocked
  split
  · exact .drops index call found
  · dsimp only
    cases chosen : findUser state.auth call.username with
    | none => exact .refuses index call _ 0 _ _ found rfl (.unknown chosen)
    | some user =>
        dsimp only
        split
        · rename_i early
          exact .refuses index call _ user.id _ _ found rfl (.locked user chosen early)
        · split
          · rename_i off
            exact .refuses index call _ user.id _ _ found rfl (.disabled user chosen (by simpa using off))
          · split
            · exact .verifies index call { call with now := now } user true _ found rfl chosen (by rintro ⟨⟩)
            · split
              · rename_i fifth
                exact .hangs index call user found chosen fifth
              · rename_i below
                exact .verifies index call { call with now := now } user false _ found rfl chosen
                  (fun _ => UInt32.not_le.mp below)

/-- A thread that has the mutex does nothing that can be told, or it moves. -/
theorem accountLocked_cases (now : Time) (step : AccountStep)
    (valid : ∀ call, step = .register call → checkRegistration call = none) :
    ((accountLocked schema crypto state now step).1 = state ∧
        ∀ output ∈ (accountLocked schema crypto state now step).2, Silent output) ∨
      Move crypto state now.seconds step (accountLocked schema crypto state now step).1
        (accountLocked schema crypto state now step).2 := by
  have nothing : ∀ output ∈ ([] : List AccountOutput), Silent output :=
    fun output member => absurd member List.not_mem_nil
  cases step with
  | register call => exact registerLocked_cases crypto state now.seconds call (valid call rfl)
  | announce index insertOk =>
      dsimp only [accountLocked]
      split
      · rename_i userId username clientIp found
        exact .inr (.announces index userId username clientIp _ insertOk found)
      · exact .inl ⟨rfl, nothing⟩
  | begin call answers =>
      dsimp only [accountLocked]
      rcases rateLimitCheck_cases state call.clientIp call.username now.seconds answers with checked | checked
      · rw [checked]
        exact .inr (.begins call answers checked)
      · rw [checked]
        left
        refine ⟨rfl, fun output member => ?_⟩
        rw [List.mem_singleton.mp member]
        exact quiet_silent .rateLimitExceeded (by rintro ⟨⟩)
  | verify index =>
      dsimp only [accountLocked]
      split
      · rename_i call found
        exact .inr (verifyLocked_cases crypto state _ index call now found)
      · exact .inl ⟨rfl, nothing⟩
  | record index insertOk =>
      dsimp only [accountLocked]
      split
      · rename_i userId success reason code call found
        right
        split
        · rename_i goesOn
          rw [goesOn.1] at found ⊢
          rw [logAuthenticationAttempt_threads]
          exact .goesOn index userId reason code call insertOk found
        · rw [logAuthenticationAttempt_threads]
          exact .records index userId success reason code call insertOk found
      · exact .inl ⟨rfl, nothing⟩
  | issue index =>
      dsimp only [accountLocked]
      split
      · rename_i userId call found
        right
        exact .issues index userId call _ _ found (openSessions_quiet schema crypto state.auth userId call).1
          (openSessions_silent schema crypto state userId call)
      · exact .inl ⟨rfl, nothing⟩

/-- One input does nothing that can be told, or a thread with the mutex moves. -/
theorem accountMachine_cases (input : AccountInput) :
    let timed := { state with clock := input.now.seconds }
    (((accountMachine schema crypto).step state input).1 = timed ∧
        ∀ output ∈ ((accountMachine schema crypto).step state input).2, Silent output) ∨
      state.stuck = false ∧ Move crypto timed input.now.seconds input.step
        ((accountMachine schema crypto).step state input).1
        ((accountMachine schema crypto).step state input).2 := by
  dsimp only [accountMachine]
  split
  · left
    refine ⟨rfl, fun output member => ?_⟩
    rw [List.mem_singleton.mp member]
    trivial
  · rename_i passed
    split
    · exact .inl ⟨rfl, fun output member => absurd member List.not_mem_nil⟩
    · rename_i free
      have valid : ∀ call, input.step = .register call → checkRegistration call = none := by
        intro call same
        rw [same] at passed
        exact passed
      rcases accountLocked_cases schema crypto _ input.now input.step valid with silent | move
      · exact .inl silent
      · exact .inr ⟨Bool.not_eq_true _ ▸ free, move⟩

end Moves

/-- What stays of a row for ever. -/
def UserRow.fixed (user : UserRow) : UserRow :=
  { user with loginAttempts := 0, lastLoginAttempt := 0, accountLockedUntil := 0 }

def AccountState.accounts (state : AccountState) : List UserRow := state.auth.users.map UserRow.fixed

/-- Each account has a number, a name and an address of its own, and no name is an address. -/
structure Known (state : AccountState) : Prop where
  numbers : ∀ user ∈ state.accounts, 0 < user.id.toNat ∧ user.id.toNat < state.nextUserId
  bounded : 0 < state.nextUserId ∧ state.nextUserId ≤ maxRowId + 1
  kinds : ∀ user ∈ state.accounts, '@' ∉ user.username ∧ '@' ∈ user.email
  distinct : state.accounts.Pairwise fun first second =>
    first.id ≠ second.id ∧ first.username ≠ second.username ∧ first.email ≠ second.email

section Identity

variable {crypto : Crypto} {state next : AccountState} {now : Int} {turn : AccountStep}
  {outputs : List AccountOutput}

/-- A valid name has no at sign. -/
theorem authValidateUsername_at (username : Text) (valid : authValidateUsername username = true) :
    '@' ∉ username := by
  intro member
  simp only [authValidateUsername, decide_eq_true_eq] at valid
  have plain := List.all_eq_true.mp valid.2.2 '@' member
  revert plain
  decide

/-- Without an at sign nothing is counted. -/
theorem scanEmail_plain (length : Nat) (text : Text) (index atCount : Nat) (dotAfterAt : Bool) (plain : '@' ∉ text) :
    ∃ dot, scanEmail length text index atCount dotAfterAt = some (atCount, dot) := by
  induction text generalizing index dotAfterAt with
  | nil => exact ⟨dotAfterAt, rfl⟩
  | cons letter rest ih =>
      rw [List.mem_cons, not_or] at plain
      rw [scanEmail, if_neg (Ne.symm plain.1)]
      exact ih _ _ plain.2

/-- A valid address has an at sign. -/
theorem authValidateEmail_at (email : Text) (valid : authValidateEmail email = true) : '@' ∈ email := by
  by_contra plain
  obtain ⟨dot, scanned⟩ := scanEmail_plain email.length email 0 0 false plain
  rw [authValidateEmail, scanned] at valid
  split at valid
  · cases valid
  · simp at valid

theorem checkRegistration_kinds (call : RegisterCall) (valid : checkRegistration call = none) :
    '@' ∉ call.username ∧ '@' ∈ call.email := by
  unfold checkRegistration at valid
  split at valid
  · cases valid
  · rename_i username
    split at valid
    · cases valid
    · split at valid
      · cases valid
      · rename_i email
        exact ⟨authValidateUsername_at _ (by simpa using username), authValidateEmail_at _ (by simpa using email)⟩

theorem fixed_mem {user : UserRow} (member : user ∈ state.auth.users) : user.fixed ∈ state.accounts :=
  List.mem_map_of_mem member

/-- Two rows differ in their numbers, names and addresses. -/
theorem Known.apart (known : Known state) {first second : UserRow} (one : first ∈ state.auth.users)
    (other : second ∈ state.auth.users) (different : first ≠ second) :
    first.id ≠ second.id ∧ first.username ≠ second.username ∧ first.email ≠ second.email := by
  have pairs := List.pairwise_map.mp known.distinct
  have symmetric : Std.Symm fun first second : UserRow => first.fixed.id ≠ second.fixed.id ∧
      first.fixed.username ≠ second.fixed.username ∧ first.fixed.email ≠ second.fixed.email :=
    ⟨fun _ _ apart => ⟨apart.1.symm, apart.2.1.symm, apart.2.2.symm⟩⟩
  exact pairs.forall one other different

theorem Known.same_id (known : Known state) {first second : UserRow} (one : first ∈ state.auth.users)
    (other : second ∈ state.auth.users) (same : first.id = second.id) : first = second :=
  by_contra fun different => (known.apart one other different).1 same

/-- A name belongs to one row. -/
theorem Known.same_name (known : Known state) (name : Text) {first second : UserRow} (one : first ∈ state.auth.users)
    (other : second ∈ state.auth.users) (named : first.named name = true) (again : second.named name = true) :
    first = second := by
  by_contra different
  obtain ⟨-, usernames, emails⟩ := known.apart one other different
  obtain ⟨plain, marked⟩ := known.kinds _ (fixed_mem one)
  obtain ⟨alsoPlain, alsoMarked⟩ := known.kinds _ (fixed_mem other)
  change '@' ∉ first.username at plain
  change '@' ∈ first.email at marked
  change '@' ∉ second.username at alsoPlain
  change '@' ∈ second.email at alsoMarked
  rw [UserRow.named, Bool.or_eq_true, beq_iff_eq, beq_iff_eq] at named again
  -- A name of one row is no address of another one.
  rcases named with rfl | rfl <;> rcases again with same | same
  · exact usernames same.symm
  · exact plain (same ▸ alsoMarked)
  · exact alsoPlain (same ▸ marked)
  · exact emails same.symm

theorem findUser_some {auth : AuthState} {name : Text} {user : UserRow} (found : findUser auth name = some user) :
    user ∈ auth.users ∧ user.named name = true :=
  ⟨List.mem_of_find?_eq_some found, List.find?_some found⟩

theorem verifiedRow_fixed (user : UserRow) (valid : Bool) : (verifiedRow user now valid).fixed = user.fixed := by
  unfold verifiedRow failLogin
  cases valid with
  | true => rfl
  | false =>
      rw [if_neg (by simp)]
      split <;> rfl

/-- An update of a row leaves what stays of all rows alone. -/
theorem Known.updateUser (known : Known state) {user : UserRow} (member : user ∈ state.auth.users)
    (valid updateOk : Bool) :
    (Auth.updateUser state.auth (verifiedRow user now valid) updateOk).users.map UserRow.fixed = state.accounts := by
  unfold Auth.updateUser
  split
  · dsimp only
    rw [List.map_map, AccountState.accounts]
    apply List.map_congr_left
    intro other one
    rw [Function.comp_apply]
    split
    · rename_i same
      rw [verifiedRow_id] at same
      rw [known.same_id one member same, verifiedRow_fixed]
    · rfl
  · rfl

theorem logAuthenticationAttempt_frame (state : AccountState) (userId : UInt64) (clientIp reason : Text)
    (success : Bool) (now : Int) (insertOk : Bool) :
    (logAuthenticationAttempt state userId clientIp success reason now insertOk).auth = state.auth ∧
      (logAuthenticationAttempt state userId clientIp success reason now insertOk).nextUserId = state.nextUserId ∧
      (logAuthenticationAttempt state userId clientIp success reason now insertOk).threads = state.threads ∧
      (logAuthenticationAttempt state userId clientIp success reason now insertOk).stuck = state.stuck ∧
      (logAuthenticationAttempt state userId clientIp success reason now insertOk).clock = state.clock := by
  unfold logAuthenticationAttempt
  split <;> exact ⟨rfl, rfl, rfl, rfl, rfl⟩

/-- The row of a registration. -/
def newAccount (userId : UInt64) (call : RegisterCall) (hash : List UInt8) : UserRow :=
  ⟨userId, call.username, call.email, hash, call.salt, 0, 0, 0, true⟩

/-- A move keeps the accounts, or it is a registration that adds one. -/
theorem Known.move (known : Known state) (move : Move crypto state now turn next outputs) :
    (next.accounts = state.accounts ∧ next.nextUserId = state.nextUserId ∧
        ∀ userId call, .registered userId call ∉ outputs) ∨
      ∃ call hash, checkRegistration call = none ∧ crypto.pbkdf2 call.password call.salt = some hash ∧
        (∀ user ∈ state.accounts, user.username ≠ call.username ∧ user.email ≠ call.email) ∧
        state.nextUserId ≤ maxRowId ∧ next.nextUserId = state.nextUserId + 1 ∧
        next.accounts = state.accounts ++ [newAccount (UInt64.ofNat state.nextUserId) call hash] ∧
        outputs = [.registered (UInt64.ofNat state.nextUserId) call] := by
  have logged (other : AccountState) (auth : other.auth = state.auth) (number : other.nextUserId = state.nextUserId)
      (userId : UInt64) (clientIp reason : Text) (success insertOk : Bool) :
      (logAuthenticationAttempt other userId clientIp success reason now insertOk).accounts = state.accounts ∧
        (logAuthenticationAttempt other userId clientIp success reason now insertOk).nextUserId = state.nextUserId := by
    obtain ⟨sameAuth, sameNumber, -⟩ := logAuthenticationAttempt_frame other userId clientIp reason success now insertOk
    rw [AccountState.accounts, sameAuth, sameNumber, auth]
    exact ⟨rfl, number⟩
  cases move with
  | registers call hash valid fresh room hashed =>
      right
      refine ⟨call, hash, valid, hashed, ?_, room, rfl, List.map_append, rfl⟩
      intro user member
      obtain ⟨row, inside, rfl⟩ := List.mem_map.mp member
      exact fresh row inside
  | announces index userId username clientIp details insertOk found =>
      obtain ⟨same, number⟩ := logged { state with threads := state.threads.eraseIdx index } rfl rfl userId clientIp
        details true insertOk
      exact .inl ⟨same, number, by simp⟩
  | begins call answers admitted => exact .inl ⟨rfl, rfl, by simp⟩
  | drops index call found => exact .inl ⟨rfl, rfl, by simp⟩
  | refuses index call after userId reason code found same why => exact .inl ⟨rfl, rfl, by simp⟩
  | verifies index call after user valid reason found same chosen below =>
      exact .inl ⟨known.updateUser (findUser_some chosen).1 valid call.updateOk, rfl, by simp⟩
  | hangs index call user found chosen fifth => exact .inl ⟨rfl, rfl, by simp⟩
  | records index userId success reason code call insertOk found =>
      obtain ⟨same, number⟩ := logged { state with threads := state.threads.eraseIdx index } rfl rfl userId
        call.clientIp reason success insertOk
      exact .inl ⟨same, number, by simp⟩
  | goesOn index userId reason code call insertOk found =>
      obtain ⟨same, number⟩ := logged { state with threads := state.threads.set index (.issuing userId call) } rfl rfl
        userId call.clientIp reason true insertOk
      exact .inl ⟨same, number, by simp⟩
  | issues index userId call auth outputs found users silent =>
      left
      refine ⟨congrArg (List.map UserRow.fixed) users, rfl, fun userId call member => ?_⟩
      exact silent _ member

/-- The number of a new row fits the 64-bit identifiers of the callers. -/
theorem newest_toNat {number : Nat} (room : number ≤ maxRowId) : (UInt64.ofNat number).toNat = number := by
  apply UInt64.toNat_ofNat_of_lt'
  have largest : maxRowId < UInt64.size := by decide
  exact Nat.lt_of_le_of_lt room largest

/-- A new account has a number, a name and an address of its own. -/
theorem Known.registers (known : Known state) (call : RegisterCall) (hash : List UInt8)
    (valid : checkRegistration call = none)
    (fresh : ∀ user ∈ state.accounts, user.username ≠ call.username ∧ user.email ≠ call.email)
    (room : state.nextUserId ≤ maxRowId) (number : next.nextUserId = state.nextUserId + 1)
    (grown : next.accounts = state.accounts ++ [newAccount (UInt64.ofNat state.nextUserId) call hash]) :
    Known next := by
  have newest := newest_toNat room
  have positive := known.bounded.1
  constructor
  · rw [grown, List.forall_mem_append, List.forall_mem_singleton]
    refine ⟨fun user member => ?_, ?_⟩
    · have range := known.numbers user member
      omega
    · show 0 < (UInt64.ofNat state.nextUserId).toNat ∧ (UInt64.ofNat state.nextUserId).toNat < next.nextUserId
      omega
  · omega
  · rw [grown, List.forall_mem_append, List.forall_mem_singleton]
    exact ⟨known.kinds, checkRegistration_kinds call valid⟩
  · rw [grown, List.pairwise_append]
    refine ⟨known.distinct, List.pairwise_singleton _ _, ?_⟩
    rintro first one second other
    obtain rfl := List.mem_singleton.mp other
    refine ⟨?_, fresh first one⟩
    intro same
    have range := (known.numbers first one).2
    rw [congrArg UInt64.toNat same] at range
    exact absurd range (by show ¬ (UInt64.ofNat state.nextUserId).toNat < state.nextUserId; omega)

/-- Whatever a thread does, the accounts stay apart. -/
theorem Known.step (schema : Schema) (known : Known state) (input : AccountInput) :
    Known ((accountMachine schema crypto).step state input).1 := by
  have timed : Known { state with clock := input.now.seconds } :=
    ⟨known.numbers, known.bounded, known.kinds, known.distinct⟩
  rcases accountMachine_cases schema crypto state input with ⟨same, -⟩ | ⟨-, move⟩
  · rw [same]
    exact timed
  · rcases timed.move move with ⟨same, number, -⟩ | ⟨call, hash, valid, -, fresh, room, number, grown, -⟩
    · refine ⟨?_, ?_, ?_, ?_⟩
      · rw [same, number]
        exact known.numbers
      · rw [number]
        exact known.bounded
      · rw [same]
        exact known.kinds
      · rw [same]
        exact known.distinct
    · exact timed.registers call hash valid fresh room number grown

/-- A new database is empty, or the default administrator is its only account. -/
theorem authInitAccounts_cases (salt garbage : List UInt8) (insertOk : Bool) (clock : Int) :
    authInitAccounts crypto salt garbage insertOk clock = ⟨⟨[], [], 0⟩, 1, [], [], false, clock⟩ ∨
      ∃ hash, authInitAccounts crypto salt garbage insertOk clock =
        ⟨⟨[⟨1, "admin".toList, "admin@localhost".toList, hash, salt, 0, 0, 0, true⟩], [], 0⟩, 2, [], [], false,
          clock⟩ := by
  have inserted (hash : List UInt8) : insertUser ⟨⟨[], [], 0⟩, 1, [], [], false, clock⟩ "admin".toList
      "admin@localhost".toList hash salt = some ⟨⟨[⟨1, "admin".toList, "admin@localhost".toList, hash, salt, 0, 0, 0,
        true⟩], [], 0⟩, 2, [], [], false, clock⟩ := by
    unfold insertUser
    rfl
  unfold authInitAccounts createTables
  split
  · dsimp only
    rw [inserted, Option.getD_some]
    exact .inr ⟨_, rfl⟩
  · exact .inl rfl

theorem known_init (salt garbage : List UInt8) (insertOk : Bool) (clock : Int) :
    Known (authInitAccounts crypto salt garbage insertOk clock) := by
  rcases @authInitAccounts_cases crypto salt garbage insertOk clock with empty | ⟨hash, admin⟩
  · have bounded : 0 < 1 ∧ 1 ≤ maxRowId + 1 := by decide
    rw [empty]
    exact ⟨by rintro _ ⟨⟩, bounded, by rintro _ ⟨⟩, List.Pairwise.nil⟩
  · have bounded : 0 < 2 ∧ 2 ≤ maxRowId + 1 := by decide
    rw [admin]
    refine ⟨?_, bounded, ?_, List.pairwise_singleton _ _⟩
    · intro user member
      obtain rfl := List.mem_singleton.mp member
      exact ⟨Nat.zero_lt_one, Nat.lt_succ_self 1⟩
    · intro user member
      obtain rfl := List.mem_singleton.mp member
      refine ⟨?_, ?_⟩
      · show '@' ∉ "admin".toList
        decide
      · show '@' ∈ "admin@localhost".toList
        decide

/-- The accounts of all registrations so far are there, with the hashes of their passwords. -/
def KeepsAccounts (crypto : Crypto) (state : AccountState) (outputs : List AccountOutput) : Prop :=
  Known state ∧ ∀ userId call, .registered userId call ∈ outputs → ∃ hash,
    crypto.pbkdf2 call.password call.salt = some hash ∧ newAccount userId call hash ∈ state.accounts

theorem KeepsAccounts.step (schema : Schema) (keeps : KeepsAccounts crypto state outputs) (input : AccountInput) :
    KeepsAccounts crypto ((accountMachine schema crypto).step state input).1
      (outputs ++ ((accountMachine schema crypto).step state input).2) := by
  obtain ⟨known, all⟩ := keeps
  refine ⟨known.step schema input, fun userId call member => ?_⟩
  have timed : Known { state with clock := input.now.seconds } :=
    ⟨known.numbers, known.bounded, known.kinds, known.distinct⟩
  rw [List.mem_append] at member
  rcases accountMachine_cases schema crypto state input with ⟨same, silent⟩ | ⟨-, move⟩
  · rw [same]
    exact all userId call (member.resolve_right fun new => silent _ new)
  · rcases timed.move move with ⟨same, -, none⟩ | ⟨added, hash, -, hashed, -, -, -, grown, single⟩
    · rw [same]
      exact all userId call (member.resolve_right (none userId call))
    · rw [grown]
      rcases member with old | new
      · obtain ⟨before, computed, there⟩ := all userId call old
        exact ⟨before, computed, List.mem_append_left _ there⟩
      · rw [single] at new
        cases List.mem_singleton.mp new
        exact ⟨hash, hashed, List.mem_append_right _ (List.mem_singleton_self _)⟩

/-- A row of a registered account is found by its name and by its address,
and takes the passwords with the hash of the registered one. -/
def Reachable (crypto : Crypto) (state : AccountState) (userId : UInt64) (call : RegisterCall) : Prop :=
  ∃ user, findUser state.auth call.username = some user ∧ findUser state.auth call.email = some user ∧
    user.id = userId ∧ user.isActive = true ∧ ∀ password,
      (authVerifyPassword crypto password user.passwordSalt user.passwordHash = true ↔
        crypto.pbkdf2 password call.salt = crypto.pbkdf2 call.password call.salt)

theorem KeepsAccounts.reachable (derived : ∀ password salt hash, crypto.pbkdf2 password salt = some hash →
    hash.length = evpMaxMdSize) (keeps : KeepsAccounts crypto state outputs) (userId : UInt64) (call : RegisterCall)
    (member : .registered userId call ∈ outputs) : Reachable crypto state userId call := by
  obtain ⟨known, all⟩ := keeps
  obtain ⟨hash, computed, there⟩ := all userId call member
  obtain ⟨user, inside, same⟩ := List.mem_map.mp there
  have username : user.username = call.username := congrArg UserRow.username same
  have email : user.email = call.email := congrArg UserRow.email same
  have found (name : Text) (named : user.named name = true) : findUser state.auth name = some user := by
    cases first : findUser state.auth name with
    | none => exact absurd named (Bool.not_eq_true _ ▸ List.find?_eq_none.mp first user inside)
    | some other =>
        obtain ⟨one, again⟩ := findUser_some first
        rw [known.same_name name one inside again named]
  refine ⟨user, found _ ?_, found _ ?_, congrArg UserRow.id same, congrArg UserRow.isActive same, fun password => ?_⟩
  · rw [UserRow.named, username, beq_self_eq_true, Bool.true_or]
  · rw [UserRow.named, email, beq_self_eq_true, Bool.or_true]
  · have stored : user.passwordHash = hash := congrArg UserRow.passwordHash same
    have salt : user.passwordSalt = call.salt := congrArg UserRow.passwordSalt same
    have long := derived _ _ _ computed
    rw [stored, salt, computed, authVerifyPassword, if_neg (by rw [long]; decide), long]
    cases crypto.pbkdf2 password call.salt with
    | none => simp
    | some other => simp

/-- Whatever order registrations and logins are served in, a name that someone gives at the login fits one row at most,
and every account that was ever registered is found by its name and by its address and takes exactly the passwords
with the hash of its own. -/
theorem registered_reachable (schema : Schema) (crypto : Crypto)
    (derived : ∀ password salt hash, crypto.pbkdf2 password salt = some hash → hash.length = evpMaxMdSize)
    (salt garbage : List UInt8) (insertOk : Bool) (clock : Int) (inputs : List AccountInput) :
    let run := (accountMachine schema crypto).run (authInitAccounts crypto salt garbage insertOk clock) inputs
    (∀ name, ∀ first ∈ run.1.auth.users, ∀ second ∈ run.1.auth.users,
        first.named name = true → second.named name = true → first = second) ∧
      ∀ userId call, .registered userId call ∈ run.2 → Reachable crypto run.1 userId call := by
  have keeps := (accountMachine schema crypto).history_always (KeepsAccounts crypto)
    (fun state input outputs keeps => keeps.step schema input)
    (authInitAccounts crypto salt garbage insertOk clock) inputs []
    ⟨known_init salt garbage insertOk clock, by rintro _ _ ⟨⟩⟩
  rw [List.nil_append] at keeps
  exact ⟨fun name first one second other => keeps.1.same_name name one other, keeps.reachable derived⟩

end Identity

/-- The registration of a user with the sample password. -/
def sampleRegistration : RegisterCall :=
  ⟨"alice".toList, "Secret-12".toList, "alice@local.host".toList, sampleIp, true, List.replicate 32 1, true, true, true⟩

theorem registered_reachable_alice :
    Reachable sampleCrypto ((accountMachine ⟨true⟩ sampleCrypto).run (authInitAccounts sampleCrypto [] [] true 0)
      [⟨sampleTime 0, .register sampleRegistration⟩]).1 2 sampleRegistration := by
  have derived : ∀ password salt hash, sampleCrypto.pbkdf2 password salt = some hash → hash.length = evpMaxMdSize := by
    intro password salt hash computed
    dsimp only [sampleCrypto] at computed
    split at computed
    · cases computed
      rfl
    · cases computed
  have all := (registered_reachable ⟨true⟩ sampleCrypto derived [] [] true 0
    [⟨sampleTime 0, .register sampleRegistration⟩]).2
  apply all 2 sampleRegistration
  have single : ((accountMachine ⟨true⟩ sampleCrypto).run (authInitAccounts sampleCrypto [] [] true 0)
      [⟨sampleTime 0, .register sampleRegistration⟩]).2 = [.registered 2 sampleRegistration] := by
    decide +kernel
  rw [single]
  exact List.mem_singleton_self _

end SecureChat.Auth
