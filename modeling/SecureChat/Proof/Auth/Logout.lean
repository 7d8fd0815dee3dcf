import SecureChat.Proof.Auth.RefreshTokens

namespace SecureChat.Auth
open Library

/-- A login that handed out a token, and the rows that were created during it.
It is ended once a logout for its token has succeeded. -/
structure LoginRecord where
  accessToken : Text
  firstRow : Nat
  lastRow : Nat
  ended : Bool
  deriving DecidableEq

def LoginRecord.end (accessToken : Text) (record : LoginRecord) : LoginRecord :=
  if record.accessToken = accessToken then { record with ended := true } else record

def noteOutput (records : List LoginRecord) : AuthOutput → List LoginRecord
  | .loggedIn _ tokens firstRow lastRow => records ++ [⟨tokens.accessToken, firstRow, lastRow, false⟩]
  | .loggedOut _ accessToken => records.map (LoginRecord.end accessToken)
  | _ => records

/-- The tables together with the logins so far. -/
def loginMachine (schema : Schema) (crypto : Crypto) :
    Machine (AuthState × List LoginRecord) AuthInput AuthOutput where
  step state input :=
    (((authStep schema crypto state.1 input).1,
      (authStep schema crypto state.1 input).2.foldl noteOutput state.2), (authStep schema crypto state.1 input).2)

/-- The row was created during the login. -/
def LoginRecord.created (record : LoginRecord) (row : SessionRow) : Prop :=
  record.firstRow ≤ row.id ∧ row.id < record.lastRow

/-- No row of a login that is ended is still valid. -/
def EndedLoginsInvalid (state : AuthState × List LoginRecord) : Prop :=
  ∀ record ∈ state.2, record.ended = true → ∀ row ∈ state.1.sessions, record.created row → row.isValid = false

/-- Every row of the login that is still valid has the token and the user of the logout. -/
def LogoutReaches (state : AuthState × List LoginRecord) : AuthInput → Prop
  | .logout userId accessToken prepareOk stepOk => prepareOk = true → stepOk = true →
      ∀ record ∈ state.2, record.accessToken = accessToken → ∀ row ∈ state.1.sessions, record.created row →
        row.isValid = true → row.accessToken = accessToken ∧ row.userId = userId
  | _ => True

/-- The rows of every login have identifiers that were handed out. -/
def Counted (state : AuthState × List LoginRecord) : Prop :=
  ∀ record ∈ state.2, record.lastRow ≤ state.1.nextSessionId

/-- New rows get new identifiers. -/
structure RowsGrow (state next : AuthState) : Prop where
  counter : state.nextSessionId ≤ next.nextSessionId
  rows : ∃ new, next.sessions = state.sessions ++ new ∧ ∀ row ∈ new, state.nextSessionId ≤ row.id

namespace RowsGrow

variable {state next final : AuthState}

theorem same (sessions : next.sessions = state.sessions) (counter : next.nextSessionId = state.nextSessionId) :
    RowsGrow state next :=
  ⟨Nat.le_of_eq counter.symm, [], by rw [sessions, List.append_nil], fun row member => nomatch member⟩

theorem trans (first : RowsGrow state next) (second : RowsGrow next final) : RowsGrow state final := by
  obtain ⟨new, rows, behind⟩ := first.rows
  obtain ⟨newer, more, further⟩ := second.rows
  refine ⟨Nat.le_trans first.counter second.counter, new ++ newer, by rw [more, rows, List.append_assoc], ?_⟩
  intro row member
  rcases List.mem_append.mp member with early | late
  · exact behind row early
  · exact Nat.le_trans first.counter (further row late)

end RowsGrow

section Step

variable (schema : Schema) (crypto : Crypto) (state : AuthState)

theorem authGenerateTokens_grow (userId : UInt64) (clientIp : Text) (answers : IssueAnswers) :
    RowsGrow state (authGenerateTokens schema crypto state userId clientIp answers).2.2.1 := by
  cases taken : issueInserts schema crypto state userId clientIp answers with
  | false =>
      obtain ⟨outputs, result⟩ := authGenerateTokens_refused schema crypto state userId clientIp answers taken
      rw [result]
      exact .same rfl rfl
  | true =>
      rw [authGenerateTokens_inserted schema crypto state userId clientIp answers taken]
      refine ⟨Nat.le_succ _, _, rfl, fun row member => ?_⟩
      rw [List.mem_singleton.mp member]
      exact Nat.le_refl _

/-- Outputs that report nothing about logins leave the records alone. -/
theorem noteOutput_foldl (records : List LoginRecord) (outputs : List AuthOutput)
    (quiet : ∀ output ∈ outputs, noteOutput records output = records) :
    outputs.foldl noteOutput records = records := by
  induction outputs with
  | nil => rfl
  | cons output outputs ih =>
      obtain ⟨here, later⟩ := List.forall_mem_cons.mp quiet
      rw [List.foldl_cons, here]
      exact ih later

theorem authGenerateTokens_note (userId : UInt64) (clientIp : Text) (answers : IssueAnswers)
    (records : List LoginRecord) :
    (authGenerateTokens schema crypto state userId clientIp answers).2.2.2.foldl noteOutput records = records := by
  apply noteOutput_foldl
  intro output member
  rcases authGenerateTokens_outputs schema crypto state userId clientIp answers output member with
    ⟨token, rfl⟩ | ⟨row, rfl⟩
  · rfl
  · rfl

theorem checkLogin_note (call : LoginCall) (records : List LoginRecord) :
    (checkedOutputs (checkLogin crypto state call)).foldl noteOutput records = records := by
  apply noteOutput_foldl
  intro output member
  obtain ⟨userId, now, valid, rfl⟩ := checkLogin_outputs crypto state call output member
  rfl

/-- New rows come with at most one record, which names them. -/
structure Grows (state next : AuthState × List LoginRecord) : Prop where
  rows : RowsGrow state.1 next.1
  records : next.2 = state.2 ∨
    ∃ accessToken, next.2 = state.2 ++ [⟨accessToken, state.1.nextSessionId, next.1.nextSessionId, false⟩]

theorem openSessions_grows (userId : UInt64) (call : LoginCall) (records : List LoginRecord) :
    Grows (state, records) ((openSessions schema crypto state userId call).2.1,
      (openSessions schema crypto state userId call).2.2.foldl noteOutput records) := by
  have first := authGenerateTokens_grow schema crypto state userId call.clientIp call.first
  rw [openSessions_eq]
  split
  · refine ⟨first.trans (authGenerateTokens_grow ..),
      .inr ⟨(computedTokens crypto userId call.clientIp call.first).accessToken, ?_⟩⟩
    dsimp only
    rw [List.foldl_append, List.foldl_append, authGenerateTokens_note, authCreateSession, authGenerateTokens_note]
    rfl
  · exact ⟨.same rfl rfl, .inl (authGenerateTokens_note ..)⟩

theorem authLoginUser_grows (call : LoginCall) (records : List LoginRecord) :
    Grows (state, records) ((authLoginUser schema crypto state call).2.1,
      (authLoginUser schema crypto state call).2.2.foldl noteOutput records) := by
  obtain ⟨sessions, counter⟩ := checkLogin_sessions crypto state call
  have quiet := checkLogin_note crypto state call records
  unfold authLoginUser
  cases check : checkLogin crypto state call with
  | refused code next outputs =>
      rw [check] at sessions counter quiet
      exact ⟨.same sessions counter, .inl quiet⟩
  | passed userId next outputs =>
      rw [check] at sessions counter quiet
      have checked : RowsGrow state next := .same sessions counter
      dsimp only
      split
      · exact ⟨checked, .inl quiet⟩
      · have opened := openSessions_grows schema crypto next userId call records
        refine ⟨checked.trans opened.rows, ?_⟩
        dsimp only
        rw [List.foldl_append, show outputs.foldl noteOutput records = records from quiet]
        rw [← show next.nextSessionId = state.nextSessionId from counter]
        exact opened.records

end Step

/-- A logout makes the rows with its token and its user invalid. -/
def endRow (userId : UInt64) (accessToken : Text) (row : SessionRow) : SessionRow :=
  if row.accessToken = accessToken ∧ row.userId = userId then { row with isValid := false } else row

theorem endRow_id (userId : UInt64) (accessToken : Text) (row : SessionRow) :
    (endRow userId accessToken row).id = row.id := by
  unfold endRow
  split <;> rfl

/-- A row is valid after a logout if it was valid and something about it differs. -/
theorem endRow_isValid (userId : UInt64) (accessToken : Text) (row : SessionRow) :
    (endRow userId accessToken row).isValid = false ↔
      (row.isValid = true → row.accessToken = accessToken ∧ row.userId = userId) := by
  unfold endRow
  split
  · rename_i same
    exact iff_of_true rfl fun _ => same
  · rename_i differs
    cases valid : row.isValid with
    | true => exact iff_of_false nofun fun same => differs (same rfl)
    | false => exact iff_of_true rfl nofun

section Run

variable (schema : Schema) (crypto : Crypto) (state : AuthState × List LoginRecord)

/-- A call lets the tables grow, or it is a logout that succeeds. -/
theorem loginMachine_cases (input : AuthInput) :
    (Grows state ((loginMachine schema crypto).step state input).1 ∧ LogoutReaches state input) ∨
      ∃ userId accessToken, input = .logout userId accessToken true true ∧
        ((loginMachine schema crypto).step state input).1 =
          ({ state.1 with sessions := state.1.sessions.map (endRow userId accessToken) },
            state.2.map (LoginRecord.end accessToken)) := by
  have returned : ∀ outputs code records, (outputs ++ [AuthOutput.returned code]).foldl noteOutput records =
      outputs.foldl noteOutput records := fun outputs code records => by rw [List.foldl_append]; rfl
  obtain ⟨tables, records⟩ := state
  unfold loginMachine
  cases input with
  | login call =>
      refine .inl ⟨?_, trivial⟩
      dsimp only [authStep]
      rw [returned]
      exact authLoginUser_grows schema crypto tables call records
  | generateTokens userId clientIp answers =>
      refine .inl ⟨?_, trivial⟩
      dsimp only [authStep]
      rw [returned, authGenerateTokens_note]
      exact ⟨authGenerateTokens_grow .., .inl rfl⟩
  | createSession userId clientIp answers =>
      refine .inl ⟨?_, trivial⟩
      dsimp only [authStep, authCreateSession]
      rw [returned, authGenerateTokens_note]
      exact ⟨authGenerateTokens_grow .., .inl rfl⟩
  | validateToken accessToken now prepareOk => exact .inl ⟨⟨.same rfl rfl, .inl rfl⟩, trivial⟩
  | logout userId accessToken prepareOk stepOk =>
      cases prepareOk with
      | false => exact .inl ⟨⟨.same rfl rfl, .inl rfl⟩, nofun⟩
      | true =>
          cases stepOk with
          | false => exact .inl ⟨⟨.same rfl rfl, .inl rfl⟩, fun _ => nofun⟩
          | true => exact .inr ⟨userId, accessToken, rfl, rfl⟩

variable {state}

theorem Counted.step (counted : Counted state) (input : AuthInput) :
    Counted ((loginMachine schema crypto).step state input).1 := by
  rcases loginMachine_cases schema crypto state input with ⟨grows, -⟩ | ⟨userId, accessToken, -, result⟩
  · have old : ∀ record ∈ state.2,
        record.lastRow ≤ ((loginMachine schema crypto).step state input).1.1.nextSessionId :=
      fun record member => Nat.le_trans (counted record member) grows.rows.counter
    intro record member
    rcases grows.records with same | ⟨accessToken, more⟩
    · exact old record (same ▸ member)
    · rw [more] at member
      rcases List.mem_append.mp member with before | new
      · exact old record before
      · obtain rfl := List.mem_singleton.mp new
        exact Nat.le_refl _
  · rw [result]
    intro record member
    obtain ⟨before, there, rfl⟩ := List.mem_map.mp member
    have kept := counted before there
    unfold LoginRecord.end
    split <;> exact kept

/-- What is new belongs to no login that is ended. -/
theorem EndedLoginsInvalid.grows {next : AuthState × List LoginRecord} (ended : EndedLoginsInvalid state)
    (counted : Counted state) (grows : Grows state next) : EndedLoginsInvalid next := by
  intro record member gone row there created
  have known : record ∈ state.2 := by
    rcases grows.records with same | ⟨accessToken, more⟩
    · exact same ▸ member
    · rw [more] at member
      rcases List.mem_append.mp member with before | new
      · exact before
      · rw [List.mem_singleton.mp new] at gone
        cases gone
  obtain ⟨new, rows, behind⟩ := grows.rows.rows
  rw [rows] at there
  rcases List.mem_append.mp there with before | later
  · exact ended record known gone row before created
  · have unused := behind row later
    have used := counted record known
    have inside := created.2
    omega

/-- A logout ends all rows of the logins with its token exactly when it reaches those that are valid. -/
theorem endedLoginsInvalid_logout_iff (ended : EndedLoginsInvalid state) (userId : UInt64) (accessToken : Text) :
    EndedLoginsInvalid ({ state.1 with sessions := state.1.sessions.map (endRow userId accessToken) },
        state.2.map (LoginRecord.end accessToken)) ↔
      LogoutReaches state (.logout userId accessToken true true) := by
  constructor
  · intro after _ _ record member same row there created
    refine (endRow_isValid userId accessToken row).mp ?_
    apply after (record.end accessToken) (List.mem_map_of_mem member)
    · simp [LoginRecord.end, same]
    · exact List.mem_map_of_mem there
    · unfold LoginRecord.created LoginRecord.end
      rw [endRow_id, if_pos same]
      exact created
  · intro reaches record member gone row there created
    obtain ⟨login, known, rfl⟩ := List.mem_map.mp member
    obtain ⟨before, stored, rfl⟩ := List.mem_map.mp there
    rw [endRow_isValid]
    unfold LoginRecord.created LoginRecord.end at created
    unfold LoginRecord.end at gone
    rw [endRow_id] at created
    split at created
    · rename_i same
      exact reaches rfl rfl login known same before stored created
    · rename_i differs
      rw [if_neg differs] at gone
      intro valid
      exact nomatch (ended login known gone before stored created).symm.trans valid

theorem endedLoginsInvalid_step_iff (ended : EndedLoginsInvalid state) (counted : Counted state)
    (input : AuthInput) :
    EndedLoginsInvalid ((loginMachine schema crypto).step state input).1 ↔ LogoutReaches state input := by
  rcases loginMachine_cases schema crypto state input with ⟨grows, reaches⟩ | ⟨userId, accessToken, rfl, result⟩
  · exact iff_of_true (ended.grows counted grows) reaches
  · rw [result]
    exact endedLoginsInvalid_logout_iff ended userId accessToken

end Run

/-- No login that is ended has a valid row, exactly as long as every logout reaches all of them. -/
theorem loginMachine_endedLogins_iff (schema : Schema) (crypto : Crypto) (users : List UserRow)
    (inputs : List AuthInput) :
    (∀ visited ∈ (loginMachine schema crypto).states (authInit users, []) inputs, EndedLoginsInvalid visited) ↔
      (loginMachine schema crypto).Along LogoutReaches (authInit users, []) inputs := by
  exact (loginMachine schema crypto).states_iff_along LogoutReaches Counted EndedLoginsInvalid
    (fun state input counted => counted.step schema crypto input)
    (fun state input counted ended => endedLoginsInvalid_step_iff schema crypto ended counted input)
    (authInit users, []) inputs (fun record member => nomatch member) (fun record member => nomatch member)

/-- A login and the logout with the token that it has returned. -/
def sampleVisit : List AuthInput := [.login (sampleLogin 1), .logout 7 sampleToken true true]

/-- The row that the session of the login has got is still valid after the logout. -/
theorem loginMachine_keeps_session :
    ((loginMachine ⟨true⟩ sampleCrypto).run (authInit [sampleUser], []) sampleVisit).1.2 =
        [⟨sampleToken, 0, 2, true⟩] ∧
      (((loginMachine ⟨true⟩ sampleCrypto).run (authInit [sampleUser], []) sampleVisit).1.1.sessions.map
        fun row => (row.id, row.isValid)) = [(0, false), (1, true)] ∧
      ¬ EndedLoginsInvalid ((loginMachine ⟨true⟩ sampleCrypto).run (authInit [sampleUser], []) sampleVisit).1 := by
  have records : ((loginMachine ⟨true⟩ sampleCrypto).run (authInit [sampleUser], []) sampleVisit).1.2 =
      [⟨sampleToken, 0, 2, true⟩] := by decide +kernel
  have left : ∃ row ∈ ((loginMachine ⟨true⟩ sampleCrypto).run (authInit [sampleUser], []) sampleVisit).1.1.sessions,
      row.id = 1 ∧ row.isValid = true := by decide +kernel
  refine ⟨records, by decide +kernel, fun ended => ?_⟩
  obtain ⟨row, member, id, valid⟩ := left
  have invalid := ended ⟨sampleToken, 0, 2, true⟩ (records ▸ List.mem_singleton_self _) rfl row member
    (by simp [LoginRecord.created, id])
  exact nomatch invalid.symm.trans valid

end SecureChat.Auth
