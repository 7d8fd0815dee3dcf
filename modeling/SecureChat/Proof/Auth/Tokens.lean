import Mathlib.Algebra.Ring.Nat
import SecureChat.Construction.Auth.Login

namespace SecureChat.Auth
open Library

/-- The tables when the server starts. -/
def authInit (users : List UserRow) : AuthState := ⟨users, [], 0⟩

section Issue

variable (schema : Schema) (crypto : Crypto) (state : AuthState) (userId : UInt64) (clientIp : Text)
  (answers : IssueAnswers)

/-- The row of an issue. -/
def issuedRow (tokens : TokenPair) : SessionRow :=
  ⟨state.nextSessionId, userId, tokens.accessToken, tokens.refreshToken, clientIp, answers.now.seconds,
    answers.now.seconds + authSessionTimeout, answers.now.seconds + authRefreshTokenLifetime, true,
    answers.refreshNow⟩

/-- The tokens that an issue computes. -/
def computedTokens : TokenPair :=
  ⟨accessTokenText crypto userId clientIp answers.accessNow answers.jti,
    refreshTokenText crypto userId clientIp answers.refreshNow, authSessionTimeout, authRefreshTokenLifetime⟩

/-- An issue gets as far as the table. -/
def reachesTable : Bool := answers.accessHmacOk && answers.refreshHmacOk && answers.prepareOk

/-- The report of a refresh token that the table has already. -/
def duplicates (refreshToken : Text) : List AuthOutput :=
  if hasRefreshToken state refreshToken then [.duplicate refreshToken] else []

theorem authGenerateTokens_stopped (stopped : reachesTable answers = false) :
    authGenerateTokens schema crypto state userId clientIp answers = (.invalidCredentials, none, state, []) := by
  unfold reachesTable at stopped
  unfold authGenerateTokens generateAccessToken generateRefreshToken
  cases access : answers.accessHmacOk with
  | false => rfl
  | true =>
      cases refresh : answers.refreshHmacOk with
      | false => rfl
      | true =>
          rw [access, refresh] at stopped
          simp only [Bool.true_and] at stopped
          simp [stopped]

/-- The database takes the row of an issue. -/
def issueInserts : Bool :=
  reachesTable answers && answers.stepOk && (insertSession schema state
    (issuedRow state userId clientIp answers (computedTokens crypto userId clientIp answers))).isSome

/-- An issue that gets as far as the table is refused by it, or adds its row. -/
theorem authGenerateTokens_reached (reached : reachesTable answers = true) :
    (issueInserts schema crypto state userId clientIp answers = false ∧
        authGenerateTokens schema crypto state userId clientIp answers =
          (.invalidCredentials, none, state,
            duplicates state (computedTokens crypto userId clientIp answers).refreshToken)) ∨
      ∃ next, issueInserts schema crypto state userId clientIp answers = true ∧
        insertSession schema state
          (issuedRow state userId clientIp answers (computedTokens crypto userId clientIp answers)) = some next ∧
        authGenerateTokens schema crypto state userId clientIp answers =
          (.success, some (computedTokens crypto userId clientIp answers), next,
            duplicates state (computedTokens crypto userId clientIp answers).refreshToken ++
              [.inserted
                (issuedRow state userId clientIp answers (computedTokens crypto userId clientIp answers))]) := by
  unfold issueInserts
  rw [reached, Bool.true_and]
  unfold reachesTable at reached
  rw [Bool.and_eq_true, Bool.and_eq_true] at reached
  obtain ⟨⟨access, refresh⟩, prepared⟩ := reached
  unfold authGenerateTokens generateAccessToken generateRefreshToken
  rw [access, refresh, prepared]
  simp only [Bool.not_true, Bool.false_eq_true, if_false]
  cases inserted : insertSession schema state
      (issuedRow state userId clientIp answers (computedTokens crypto userId clientIp answers)) with
  | none =>
      refine .inl ⟨by simp, ?_⟩
      split
      · rename_i next there _
        exact nomatch inserted.symm.trans there
      · rfl
  | some next =>
      cases stepped : answers.stepOk with
      | false => exact .inl ⟨rfl, by split <;> first | rfl | contradiction⟩
      | true =>
          refine .inr ⟨next, rfl, rfl, ?_⟩
          split
          · rename_i other there _
            rw [Option.some.inj (inserted.symm.trans there)]
            rfl
          · rename_i neither
            exact absurd rfl (neither next inserted)

/-- An issue reports a token that the table has already, or its own row. -/
theorem authGenerateTokens_outputs (output : AuthOutput)
    (member : output ∈ (authGenerateTokens schema crypto state userId clientIp answers).2.2.2) :
    (∃ refreshToken, output = .duplicate refreshToken) ∨ ∃ row, output = .inserted row := by
  have repeated : ∀ refreshToken, output ∈ duplicates state refreshToken →
      ∃ refreshToken, output = .duplicate refreshToken := by
    intro refreshToken reported
    unfold duplicates at reported
    split at reported
    · exact ⟨refreshToken, List.mem_singleton.mp reported⟩
    · cases reported
  cases reached : reachesTable answers with
  | false =>
      rw [authGenerateTokens_stopped schema crypto state userId clientIp answers reached] at member
      cases member
  | true =>
      rcases authGenerateTokens_reached schema crypto state userId clientIp answers reached with
        ⟨-, result⟩ | ⟨next, -, -, result⟩
      · rw [result] at member
        exact .inl (repeated _ member)
      · rw [result] at member
        rcases List.mem_append.mp member with known | own
        · exact .inl (repeated _ known)
        · exact .inr ⟨_, List.mem_singleton.mp own⟩

theorem insertSession_eq {row : SessionRow} {next : AuthState}
    (inserted : insertSession schema state row = some next) :
    next = { state with sessions := state.sessions ++ [row], nextSessionId := state.nextSessionId + 1 } := by
  unfold insertSession at inserted
  split at inserted
  · cases inserted
  · split at inserted
    · cases inserted
    · exact (Option.some.inj inserted).symm

/-- An issue whose row the database does not take changes nothing. -/
theorem authGenerateTokens_refused (refused : issueInserts schema crypto state userId clientIp answers = false) :
    ∃ outputs, authGenerateTokens schema crypto state userId clientIp answers =
      (.invalidCredentials, none, state, outputs) := by
  cases reached : reachesTable answers with
  | false => exact ⟨[], authGenerateTokens_stopped schema crypto state userId clientIp answers reached⟩
  | true =>
      rcases authGenerateTokens_reached schema crypto state userId clientIp answers reached with
        ⟨-, result⟩ | ⟨next, taken, -, -⟩
      · exact ⟨_, result⟩
      · exact nomatch refused.symm.trans taken

/-- An issue whose row the database takes. -/
theorem authGenerateTokens_inserted (taken : issueInserts schema crypto state userId clientIp answers = true) :
    authGenerateTokens schema crypto state userId clientIp answers =
      (.success, some (computedTokens crypto userId clientIp answers),
        { state with
          sessions := state.sessions ++
            [issuedRow state userId clientIp answers (computedTokens crypto userId clientIp answers)]
          nextSessionId := state.nextSessionId + 1 },
        duplicates state (computedTokens crypto userId clientIp answers).refreshToken ++
          [.inserted (issuedRow state userId clientIp answers (computedTokens crypto userId clientIp answers))]) := by
  have reached : reachesTable answers = true := by
    unfold issueInserts at taken
    rw [Bool.and_eq_true, Bool.and_eq_true] at taken
    exact taken.1.1
  rcases authGenerateTokens_reached schema crypto state userId clientIp answers reached with
    ⟨refused, -⟩ | ⟨next, -, inserted, result⟩
  · exact nomatch refused.symm.trans taken
  · rw [result, insertSession_eq schema state inserted]

end Issue

section Login

variable (schema : Schema) (crypto : Crypto) (state : AuthState) (call : LoginCall)

/-- The state that a login leaves before it issues tokens. -/
def checkedState : LoginCheck → AuthState
  | .refused _ next _ => next
  | .passed _ next _ => next

theorem updateUser_sessions (user : UserRow) (updateOk : Bool) :
    (updateUser state user updateOk).sessions = state.sessions ∧
      (updateUser state user updateOk).nextSessionId = state.nextSessionId := by
  unfold updateUser
  split <;> exact ⟨rfl, rfl⟩

/-- The check of a login leaves the sessions alone. -/
theorem checkLogin_sessions :
    (checkedState (checkLogin crypto state call)).sessions = state.sessions ∧
      (checkedState (checkLogin crypto state call)).nextSessionId = state.nextSessionId := by
  unfold checkLogin
  split
  · exact ⟨rfl, rfl⟩
  · split
    · exact ⟨rfl, rfl⟩
    · split
      · exact ⟨rfl, rfl⟩
      · dsimp only
        split
        · exact ⟨rfl, rfl⟩
        · split
          · exact ⟨rfl, rfl⟩
          · split
            · exact updateUser_sessions state _ _
            · exact updateUser_sessions state _ _

/-- What a login reports before it issues tokens. -/
def checkedOutputs : LoginCheck → List AuthOutput
  | .refused _ _ outputs => outputs
  | .passed _ _ outputs => outputs

/-- The check of a login reports the verification of the password only. -/
theorem checkLogin_outputs (output : AuthOutput)
    (member : output ∈ checkedOutputs (checkLogin crypto state call)) :
    ∃ userId now valid, output = .verified userId now valid := by
  unfold checkLogin at member
  split at member
  · cases member
  · split at member
    · cases member
    · split at member
      · cases member
      · dsimp only at member
        split at member
        · cases member
        · split at member
          · cases member
          · split at member
            · exact ⟨_, _, _, List.mem_singleton.mp member⟩
            · exact ⟨_, _, _, List.mem_singleton.mp member⟩

/-- A login that gets its first row tries to get a second one. -/
theorem openSessions_eq (userId : UInt64) :
    openSessions schema crypto state userId call =
      if issueInserts schema crypto state userId call.clientIp call.first then
        let first := authGenerateTokens schema crypto state userId call.clientIp call.first
        let second := authCreateSession schema crypto first.2.2.1 userId call.clientIp call.second
        (.success, second.2.2.1, first.2.2.2 ++ second.2.2.2 ++
          [.loggedIn userId (computedTokens crypto userId call.clientIp call.first) state.nextSessionId
            second.2.2.1.nextSessionId])
      else (.invalidCredentials, state,
        (authGenerateTokens schema crypto state userId call.clientIp call.first).2.2.2) := by
  unfold openSessions
  cases taken : issueInserts schema crypto state userId call.clientIp call.first with
  | true =>
      rw [authGenerateTokens_inserted schema crypto state userId call.clientIp call.first taken]
      rfl
  | false =>
      obtain ⟨outputs, result⟩ := authGenerateTokens_refused schema crypto state userId call.clientIp call.first taken
      rw [result]
      rfl

variable {schema crypto state}

/-- What every issue keeps and what depends on the sessions only is kept by a login. -/
theorem authLoginUser_keeps (schema : Schema) (crypto : Crypto) (property : AuthState → Prop)
    (sessions : ∀ before after : AuthState, after.sessions = before.sessions →
      after.nextSessionId = before.nextSessionId → property before → property after)
    (issues : ∀ before, property before → ∀ userId clientIp answers,
      property (authGenerateTokens schema crypto before userId clientIp answers).2.2.1)
    (holds : property state) (call : LoginCall) :
    property (authLoginUser schema crypto state call).2.1 := by
  obtain ⟨rows, counter⟩ := checkLogin_sessions crypto state call
  have checked := sessions state _ rows counter holds
  unfold authLoginUser
  cases check : checkLogin crypto state call with
  | refused code next outputs =>
      rw [check] at checked
      exact checked
  | passed userId next outputs =>
      rw [check] at checked
      dsimp only
      split
      · exact checked
      · have issued := issues next checked userId call.clientIp call.first
        dsimp only
        rw [openSessions_eq]
        split
        · exact issues _ issued userId call.clientIp call.second
        · exact checked

/-- What every issue and every logout keeps and what depends on the sessions only is kept by every call. -/
theorem authStep_keeps (schema : Schema) (crypto : Crypto) (property : AuthState → Prop)
    (sessions : ∀ before after : AuthState, after.sessions = before.sessions →
      after.nextSessionId = before.nextSessionId → property before → property after)
    (issues : ∀ before, property before → ∀ userId clientIp answers,
      property (authGenerateTokens schema crypto before userId clientIp answers).2.2.1)
    (logouts : ∀ before, property before → ∀ userId accessToken prepareOk stepOk,
      property (authLogoutUser before userId accessToken prepareOk stepOk).2.1)
    (holds : property state) (input : AuthInput) : property (authStep schema crypto state input).1 := by
  cases input with
  | login call => exact authLoginUser_keeps schema crypto property sessions issues holds call
  | generateTokens userId clientIp answers => exact issues state holds userId clientIp answers
  | createSession userId clientIp answers => exact issues state holds userId clientIp answers
  | validateToken accessToken now prepareOk => exact holds
  | logout userId accessToken prepareOk stepOk => exact logouts state holds userId accessToken prepareOk stepOk

end Login

theorem tokenStart_length_lt (kind : Text) (userId : UInt64) (expiresAt : Int) :
    (tokenStart kind userId expiresAt).length < authTokenLength :=
  cutTo_length_lt (by decide) _

/-- An access token has at most 63 letters. -/
theorem accessTokenText_length_lt (crypto : Crypto) (userId : UInt64) (clientIp : Text) (now : Time)
    (jti : Text) : (accessTokenText crypto userId clientIp now jti).length < authTokenLength :=
  appendTo_length_lt (tokenStart_length_lt ..) _

/-- Every stored access token is shorter than a token with a whole signature. -/
def ShortTokens (state : AuthState) : Prop :=
  ∀ row ∈ state.sessions, row.accessToken.length < authTokenLength

section Short

variable (schema : Schema) (crypto : Crypto) {state : AuthState}

theorem ShortTokens.authGenerateTokens (short : ShortTokens state) (userId : UInt64) (clientIp : Text)
    (answers : IssueAnswers) :
    ShortTokens (authGenerateTokens schema crypto state userId clientIp answers).2.2.1 := by
  cases taken : issueInserts schema crypto state userId clientIp answers with
  | false =>
      obtain ⟨outputs, result⟩ := authGenerateTokens_refused schema crypto state userId clientIp answers taken
      rw [result]
      exact short
  | true =>
      rw [authGenerateTokens_inserted schema crypto state userId clientIp answers taken]
      intro row member
      rcases List.mem_append.mp member with before | new
      · exact short row before
      · rw [List.mem_singleton.mp new]
        exact accessTokenText_length_lt ..

theorem ShortTokens.authLogoutUser (short : ShortTokens state) (userId : UInt64) (accessToken : Text)
    (prepareOk stepOk : Bool) : ShortTokens (authLogoutUser state userId accessToken prepareOk stepOk).2.1 := by
  unfold Auth.authLogoutUser
  split
  · exact short
  · intro row member
    obtain ⟨before, there, rfl⟩ := List.mem_map.mp member
    split
    · exact short before there
    · exact short before there

theorem ShortTokens.authStep (short : ShortTokens state) (input : AuthInput) :
    ShortTokens (authStep schema crypto state input).1 := by
  apply authStep_keeps schema crypto ShortTokens _ _ _ short input
  · intro before after same _ short row member
    exact short row (same ▸ member)
  · intro before short userId clientIp answers
    exact short.authGenerateTokens schema crypto userId clientIp answers
  · intro before short userId accessToken prepareOk stepOk
    exact short.authLogoutUser userId accessToken prepareOk stepOk

end Short

/-- Every run keeps the stored tokens short. -/
theorem authMachine_shortTokens (schema : Schema) (crypto : Crypto) (state : AuthState)
    (short : ShortTokens state) (inputs : List AuthInput) :
    ShortTokens ((authMachine schema crypto).run state inputs).1 :=
  (authMachine schema crypto).run_always ShortTokens (fun _ input short => short.authStep schema crypto input)
    state inputs short

/-- A token that is too short for its signature is invalid. -/
theorem authValidateToken_short (crypto : Crypto) (state : AuthState) (accessToken : Text) (now : Int)
    (prepareOk : Bool) (short : accessToken.length < authTokenLength) :
    authValidateToken crypto state accessToken now prepareOk = (.invalidToken, none) := by
  have unsigned : validateTokenSignature crypto accessToken = false := if_pos short
  unfold authValidateToken
  rw [unsigned]
  split <;> rfl

/-- A token that is long enough for its signature is not in the table. -/
theorem authValidateToken_refuses (crypto : Crypto) (state : AuthState) (stored : ShortTokens state)
    (accessToken : Text) (now : Int) (prepareOk : Bool) :
    (authValidateToken crypto state accessToken now prepareOk).1 ≠ .success := by
  by_cases short : accessToken.length < authTokenLength
  · rw [authValidateToken_short crypto state accessToken now prepareOk short]
    exact nofun
  · have absent : state.sessions.find? (fun row =>
        row.accessToken == accessToken && row.isValid && decide (now < row.expiresAt)) = none := by
      rw [List.find?_eq_none]
      intro row member found
      rw [Bool.and_eq_true, Bool.and_eq_true, beq_iff_eq] at found
      exact short (found.1.1 ▸ stored row member)
    unfold authValidateToken
    rw [absent]
    split
    · exact nofun
    · split
      · exact nofun
      · split
        · exact nofun
        · split <;> exact nofun

/-- No token that was ever issued is accepted, at any time and in any state that the server reaches later.
No other token is accepted either. -/
theorem authMachine_accepts_no_token (schema : Schema) (crypto : Crypto) (users : List UserRow)
    (earlier : List AuthInput) (userId : UInt64) (clientIp : Text) (answers : IssueAnswers) (tokens : TokenPair)
    (next : AuthState) (outputs : List AuthOutput)
    (issued : authGenerateTokens schema crypto ((authMachine schema crypto).run (authInit users) earlier).1
      userId clientIp answers = (.success, some tokens, next, outputs))
    (later : List AuthInput) :
    (¬ ∀ now < answers.now.seconds + authSessionTimeout, authValidateToken crypto
        ((authMachine schema crypto).run next later).1 tokens.accessToken now true = (.success, some userId)) ∧
      (∀ now prepareOk, authValidateToken crypto ((authMachine schema crypto).run next later).1
        tokens.accessToken now prepareOk = (.invalidToken, none)) ∧
      ∀ accessToken now prepareOk, (authValidateToken crypto ((authMachine schema crypto).run next later).1
        accessToken now prepareOk).1 ≠ .success := by
  have before := authMachine_shortTokens schema crypto (authInit users) (fun _ member => nomatch member) earlier
  have short : ShortTokens next := by
    have after := before.authGenerateTokens schema crypto userId clientIp answers
    rw [issued] at after
    exact after
  have stored := authMachine_shortTokens schema crypto next short later
  have token : tokens.accessToken.length < authTokenLength := by
    cases taken : issueInserts schema crypto ((authMachine schema crypto).run (authInit users) earlier).1
        userId clientIp answers with
    | false =>
        obtain ⟨refused, result⟩ := authGenerateTokens_refused schema crypto _ userId clientIp answers taken
        rw [result] at issued
        cases issued
    | true =>
        rw [authGenerateTokens_inserted schema crypto _ userId clientIp answers taken] at issued
        have same := Option.some.inj (Prod.mk.inj (Prod.mk.inj issued).2).1
        rw [← same]
        exact accessTokenText_length_lt ..
  have invalid := fun now prepareOk => authValidateToken_short crypto
    ((authMachine schema crypto).run next later).1 tokens.accessToken now prepareOk token
  refine ⟨fun accepted => ?_, invalid, authValidateToken_refuses crypto _ stored⟩
  have refused := accepted (answers.now.seconds + authSessionTimeout - 1) (by omega)
  rw [invalid] at refused
  cases refused

/-- The sample takes ten seconds, and the first of them is its zero. -/
instance sampleSeconds : NeZero 10 := ⟨by decide⟩

/-- A time of the sample. -/
def sampleTime (offset : Fin 10) : Time := ⟨1700000000 + offset.val, by omega, by omega⟩

def sampleIp : Text := "10.0.0.1".toList

def sampleJti (letter : Char) : Text := List.replicate 32 letter

/-- What PBKDF2 derives from the password Secret-12 and a salt of ones. -/
def sampleHash : List UInt8 :=
  [0x37, 0xc8, 0x72, 0xc7, 0x64, 0xd0, 0x5e, 0x1a, 0xbf, 0x53, 0x19, 0xa0, 0x07, 0xf6, 0x79, 0xae,
    0x39, 0x01, 0x89, 0x68, 0xb6, 0xbd, 0xe4, 0x9c, 0x0f, 0x76, 0x01, 0xcc, 0xa0, 0xab, 0xdd, 0x80,
    0xb1, 0x4c, 0x60, 0x7a, 0x33, 0xb9, 0x7a, 0x66, 0x79, 0x87, 0x2f, 0x11, 0xc4, 0x73, 0x4d, 0x4a,
    0xb5, 0x4a, 0x50, 0xa0, 0xe5, 0xf9, 0xa4, 0xc4, 0xe2, 0x8e, 0x78, 0xe1, 0xff, 0x66, 0x29, 0x4f]

/-- The values of HMAC-SHA256 for the texts of the sample,
with the key that is derived from the secret 0123456789abcdef0123456789abcdef. -/
def sampleCrypto : Crypto where
  hmac text :=
    if text = accessPayload 7 sampleIp 1700000000 (sampleJti 'a') then
      ⟨#[0xdd, 0xa6, 0x79, 0x35, 0x64, 0x48, 0xa2, 0x46, 0x80, 0xe0, 0x34, 0x9a, 0x88, 0xe7, 0x8f, 0x78,
        0xb2, 0xb3, 0x9e, 0x37, 0x6d, 0x83, 0xd6, 0x4f, 0x6c, 0x4a, 0x63, 0x00, 0xfd, 0xde, 0xb0, 0xb1], rfl⟩
    else if text = accessPayload 7 sampleIp 1700000000 (sampleJti 'b') then
      ⟨#[0xb5, 0x14, 0x69, 0x57, 0xa6, 0x06, 0x01, 0x84, 0xd1, 0x7d, 0x36, 0xa0, 0xf5, 0xde, 0xd1, 0x0d,
        0xfa, 0xef, 0xfe, 0x2b, 0x9c, 0xcd, 0xad, 0x3b, 0x19, 0x3a, 0x1c, 0xcc, 0xab, 0x2c, 0x4f, 0x97], rfl⟩
    else if text = refreshData 7 sampleIp 1700604800 then
      ⟨#[0xbb, 0x88, 0x4c, 0xf7, 0xc2, 0x2e, 0xca, 0x81, 0x78, 0x80, 0x5d, 0x4e, 0x14, 0xef, 0x79, 0x1c,
        0x6b, 0xf7, 0xa7, 0x66, 0x96, 0x7e, 0x6c, 0xa9, 0x5d, 0xca, 0x94, 0x1a, 0x37, 0x11, 0x51, 0x72], rfl⟩
    else if text = refreshData 7 sampleIp 1700604801 then
      ⟨#[0x0e, 0xde, 0x64, 0x24, 0x49, 0xb0, 0x1b, 0x47, 0xc0, 0x59, 0xf2, 0x3c, 0x82, 0xe1, 0xc6, 0x57,
        0x34, 0x5c, 0x4a, 0x7d, 0x6c, 0xff, 0x9a, 0x6a, 0x86, 0x10, 0xa0, 0xf8, 0x26, 0xc0, 0xe6, 0x56], rfl⟩
    else Vector.replicate 32 0
  pbkdf2 password salt :=
    if password = "Secret-12".toList ∧ salt = List.replicate 32 1 then some sampleHash else none

/-- A user with a password. -/
def sampleUser : UserRow :=
  ⟨7, "alice".toList, "alice@localhost".toList, sampleHash, List.replicate 32 1, 0, 0, 0, true⟩

/-- An issue on which nothing fails. -/
def sampleIssue (letter : Char) (offset : Fin 10) : IssueAnswers :=
  ⟨sampleTime 0, sampleTime 0, sampleTime offset, sampleJti letter, sampleJti letter, true, true, true, true⟩

/-- The tables behind the sample issue. -/
def sampleIssued : AuthState :=
  (authGenerateTokens ⟨true⟩ sampleCrypto (authInit [sampleUser]) 7 sampleIp (sampleIssue 'a' 0)).2.2.1

/-- The access token of the sample issue. Its signature is cut after 47 digits. -/
def sampleToken : Text := "AT_7_1700003600_dda679356448a24680e0349a88e78f78b2b39e376d83d64".toList

theorem authMachine_accepts_no_sample_token :
    sampleToken.length = 63 ∧ ∀ now prepareOk, authValidateToken sampleCrypto
      ((authMachine ⟨true⟩ sampleCrypto).run sampleIssued []).1 sampleToken now prepareOk =
        (.invalidToken, none) := by
  have tokens : (authGenerateTokens ⟨true⟩ sampleCrypto (authInit [sampleUser]) 7 sampleIp
      (sampleIssue 'a' 0)).2.1 = some (computedTokens sampleCrypto 7 sampleIp (sampleIssue 'a' 0)) := by
    decide +kernel
  have code : (authGenerateTokens ⟨true⟩ sampleCrypto (authInit [sampleUser]) 7 sampleIp
      (sampleIssue 'a' 0)).1 = .success := by decide +kernel
  have token : (computedTokens sampleCrypto 7 sampleIp (sampleIssue 'a' 0)).accessToken = sampleToken := by
    decide +kernel
  have refused := (authMachine_accepts_no_token ⟨true⟩ sampleCrypto [sampleUser] [] 7 sampleIp
    (sampleIssue 'a' 0) _ sampleIssued _ (Prod.ext code (Prod.ext tokens (Prod.ext rfl rfl))) []).2.1
  rw [token] at refused
  exact ⟨by decide, refused⟩

/-- A token that was just issued is not accepted in the same second. -/
theorem authValidateToken_refuses_sample_token :
    (authGenerateTokens ⟨true⟩ sampleCrypto (authInit [sampleUser]) 7 sampleIp (sampleIssue 'a' 0)).1 =
        .success ∧
      (authGenerateTokens ⟨true⟩ sampleCrypto (authInit [sampleUser]) 7 sampleIp
        (sampleIssue 'a' 0)).2.1.map TokenPair.accessToken = some sampleToken ∧
      authValidateToken sampleCrypto sampleIssued sampleToken 1700000000 true = (.invalidToken, none) ∧
      ¬ ∀ now < 1700003600, authValidateToken sampleCrypto sampleIssued sampleToken now true =
        (.success, some 7) := by
  have refused : authValidateToken sampleCrypto sampleIssued sampleToken 1700000000 true =
      (.invalidToken, none) := by decide +kernel
  refine ⟨by decide +kernel, by decide +kernel, refused, fun accepted => ?_⟩
  have now := accepted 1700000000 (by decide)
  rw [refused] at now
  cases now

end SecureChat.Auth
