import SecureChat.Proof.Auth.Tokens

namespace SecureChat.Auth
open Library

/-- The digits of the signature that a refresh token shows. -/
def shownSignature (crypto : Crypto) (userId : UInt64) (clientIp : Text) (now : Time) : Text :=
  (hexText (crypto.hmac (refreshData userId clientIp (now.seconds + authRefreshTokenLifetime)))).take
    (authTokenLength - (tokenStart "RT".toList userId (now.seconds + authRefreshTokenLifetime)).length - 1)

/-- The row has the user and the second of a new issue, and the signatures agree as far as they are shown. -/
def SameRefresh (crypto : Crypto) (row : SessionRow) (userId : UInt64) (clientIp : Text) (now : Time) : Prop :=
  row.userId = userId ∧ row.refreshNow.seconds = now.seconds ∧
    shownSignature crypto userId row.clientIp now = shownSignature crypto userId clientIp now

/-- An issue that gets as far as the table finds no row of its user and its second with its signature. -/
def FreshIssue (crypto : Crypto) (state : AuthState) (userId : UInt64) (clientIp : Text)
    (answers : IssueAnswers) : Prop :=
  reachesTable answers = true → ∀ row ∈ state.sessions, ¬ SameRefresh crypto row userId clientIp answers.refreshNow

/-- The issues of a call are fresh. A login makes its second issue for the same user and from the same address,
so the clock has to move in between. -/
def FreshCall (schema : Schema) (crypto : Crypto) (state : AuthState) : AuthInput → Prop
  | .login call =>
      match checkLogin crypto state call with
      | .refused _ _ _ => True
      | .passed userId next _ => call.wantsTokens = true →
          FreshIssue crypto next userId call.clientIp call.first ∧
            (issueInserts schema crypto next userId call.clientIp call.first = true →
              FreshIssue crypto next userId call.clientIp call.second ∧
                (reachesTable call.second = true →
                  call.first.refreshNow.seconds ≠ call.second.refreshNow.seconds))
  | .generateTokens userId clientIp answers => FreshIssue crypto state userId clientIp answers
  | .createSession userId clientIp answers => FreshIssue crypto state userId clientIp answers
  | _ => True

section Text

variable (crypto : Crypto)

theorem expires_inside (now : Time) :
    -2 ^ 63 ≤ now.seconds + authRefreshTokenLifetime ∧ now.seconds + authRefreshTokenLifetime < 2 ^ 64 := by
  have := now.lower
  have := now.upper
  unfold authRefreshTokenLifetime
  omega

/-- The start of a refresh token fits into its buffer. -/
theorem tokenStart_eq (userId : UInt64) (now : Time) :
    tokenStart "RT".toList userId (now.seconds + authRefreshTokenLifetime) =
      "RT".toList ++ '_' :: (unsignedText userId ++ '_' ::
        (decimal (now.seconds + authRefreshTokenLifetime) ++ ['_'])) := by
  obtain ⟨lower, upper⟩ := expires_inside now
  have user : (unsignedText userId).length ≤ 20 := by
    apply decimal_length_le
    · omega
    · have := userId.toNat_lt
      omega
  have expires := decimal_length_le lower upper
  apply cutTo_of_short
  have kind : "RT".toList.length = 2 := by decide
  simp only [List.length_append, List.length_cons, List.length_nil, kind]
  unfold authTokenLength
  omega

/-- A refresh token shows its user, its second and a part of its signature. -/
theorem refreshTokenText_eq (userId : UInt64) (clientIp : Text) (now : Time) :
    refreshTokenText crypto userId clientIp now =
      "RT".toList ++ '_' :: (unsignedText userId ++ '_' ::
        (decimal (now.seconds + authRefreshTokenLifetime) ++ '_' ::
          shownSignature crypto userId clientIp now)) := by
  unfold refreshTokenText appendTo
  dsimp only
  rw [← shownSignature, tokenStart_eq]
  simp only [List.append_assoc, List.cons_append, List.nil_append]

/-- Refresh tokens are the same exactly when all that they show is the same. -/
theorem refreshTokenText_inj (row : SessionRow) (userId : UInt64) (clientIp : Text) (now : Time) :
    refreshTokenText crypto row.userId row.clientIp row.refreshNow =
        refreshTokenText crypto userId clientIp now ↔
      SameRefresh crypto row userId clientIp now := by
  have kind : '_' ∉ "RT".toList := by decide
  have digits : ∀ user : UInt64, '_' ∉ unsignedText user := fun user => decimal_not_mem _
  rw [refreshTokenText_eq, refreshTokenText_eq, append_separator_inj kind kind,
    append_separator_inj (digits _) (digits _), append_separator_inj (decimal_not_mem _) (decimal_not_mem _)]
  unfold SameRefresh
  constructor
  · rintro ⟨-, user, second, signature⟩
    have sameUser : row.userId = userId :=
      UInt64.toNat_inj.mp (Int.ofNat.inj (decimal_injective user))
    have sameSecond : row.refreshNow.seconds = now.seconds := by
      have expires := decimal_injective second
      omega
    refine ⟨sameUser, sameSecond, ?_⟩
    rw [sameUser] at signature
    unfold shownSignature at signature ⊢
    rw [sameSecond] at signature
    exact signature
  · rintro ⟨user, second, signature⟩
    refine ⟨rfl, by rw [user], by rw [second], ?_⟩
    rw [← signature, user]
    unfold shownSignature
    rw [second]

end Text

/-- Every row has the refresh token of its issue, and no two rows have the same one. -/
structure TracedRows (crypto : Crypto) (state : AuthState) : Prop where
  tokens : ∀ row ∈ state.sessions,
    row.refreshToken = refreshTokenText crypto row.userId row.clientIp row.refreshNow
  distinct : (state.sessions.map SessionRow.refreshToken).Nodup

def NoDuplicate (output : AuthOutput) : Prop := ∀ refreshToken, output ≠ .duplicate refreshToken

section Issue

variable {crypto : Crypto} {state : AuthState} (userId : UInt64) (clientIp : Text) (answers : IssueAnswers)

theorem hasRefreshToken_iff (traced : TracedRows crypto state) :
    hasRefreshToken state (computedTokens crypto userId clientIp answers).refreshToken = true ↔
      ∃ row ∈ state.sessions, SameRefresh crypto row userId clientIp answers.refreshNow := by
  unfold hasRefreshToken
  rw [List.any_eq_true]
  refine exists_congr fun row => and_congr_right fun member => ?_
  rw [beq_iff_eq, traced.tokens row member]
  exact refreshTokenText_inj crypto row userId clientIp answers.refreshNow

theorem duplicates_noDuplicate (refreshToken : Text) :
    (∀ output ∈ duplicates state refreshToken, NoDuplicate output) ↔
      hasRefreshToken state refreshToken = false := by
  unfold duplicates
  cases known : hasRefreshToken state refreshToken with
  | true => exact iff_of_false (fun none => none _ (List.mem_singleton_self _) _ rfl) nofun
  | false => exact iff_of_true (fun output member => nomatch member) rfl

theorem inserted_noDuplicate (row : SessionRow) : NoDuplicate (.inserted row) := fun _ => nofun

/-- An issue meets no duplicate exactly when it is fresh. -/
theorem authGenerateTokens_noDuplicate (schema : Schema) (traced : TracedRows crypto state) :
    (∀ output ∈ (authGenerateTokens schema crypto state userId clientIp answers).2.2.2, NoDuplicate output) ↔
      FreshIssue crypto state userId clientIp answers := by
  cases reached : reachesTable answers with
  | false =>
      rw [authGenerateTokens_stopped schema crypto state userId clientIp answers reached]
      exact iff_of_true (fun output member => nomatch member) fun table => nomatch reached.symm.trans table
  | true =>
      have fresh : hasRefreshToken state (computedTokens crypto userId clientIp answers).refreshToken = false ↔
          FreshIssue crypto state userId clientIp answers := by
        rw [← Bool.not_eq_true, hasRefreshToken_iff userId clientIp answers traced]
        unfold FreshIssue
        constructor
        · intro none _ row member same
          exact none ⟨row, member, same⟩
        · rintro none ⟨row, member, same⟩
          exact none reached row member same
      rcases authGenerateTokens_reached schema crypto state userId clientIp answers reached with
        ⟨-, result⟩ | ⟨next, -, -, result⟩
      · rw [result, ← fresh, ← duplicates_noDuplicate]
      · rw [result, ← fresh, ← duplicates_noDuplicate]
        dsimp only
        rw [List.forall_mem_append]
        exact and_iff_left fun output member => List.mem_singleton.mp member ▸ inserted_noDuplicate _

/-- A row that the constraints let pass keeps the tokens distinct. -/
theorem TracedRows.authGenerateTokens (traced : TracedRows crypto state) :
    TracedRows crypto (authGenerateTokens ⟨true⟩ crypto state userId clientIp answers).2.2.1 := by
  cases taken : issueInserts ⟨true⟩ crypto state userId clientIp answers with
  | false =>
      obtain ⟨outputs, result⟩ := authGenerateTokens_refused ⟨true⟩ crypto state userId clientIp answers taken
      rw [result]
      exact traced
  | true =>
      have absent : (computedTokens crypto userId clientIp answers).refreshToken ∉
          state.sessions.map SessionRow.refreshToken := by
        intro member
        obtain ⟨row, there, same⟩ := List.mem_map.mp member
        unfold issueInserts insertSession at taken
        rw [if_pos] at taken
        · simp at taken
        · rw [Bool.true_and, List.any_eq_true]
          refine ⟨row, there, ?_⟩
          rw [Bool.or_eq_true, beq_iff_eq, beq_iff_eq]
          exact .inr same
      rw [authGenerateTokens_inserted ⟨true⟩ crypto state userId clientIp answers taken]
      constructor
      · intro row member
        rcases List.mem_append.mp member with before | new
        · exact traced.tokens row before
        · rw [List.mem_singleton.mp new]
          rfl
      · dsimp only
        rw [List.map_append, List.nodup_append]
        refine ⟨traced.distinct, List.pairwise_singleton _ _, ?_⟩
        intro first member second new same
        rw [List.map_singleton, List.mem_singleton] at new
        rw [same, new] at member
        exact absent member

theorem TracedRows.of_sessions {after : AuthState} (traced : TracedRows crypto state)
    (same : after.sessions = state.sessions) : TracedRows crypto after := by
  refine ⟨?_, ?_⟩
  · rw [same]
    exact traced.tokens
  · rw [same]
    exact traced.distinct

/-- The second issue of a login is fresh, if it is for the rows before and the clock has moved. -/
theorem freshIssue_second (call : LoginCall) (tokens : TokenPair) :
    FreshIssue crypto { state with
        sessions := state.sessions ++ [issuedRow state userId call.clientIp call.first tokens]
        nextSessionId := state.nextSessionId + 1 } userId call.clientIp call.second ↔
      FreshIssue crypto state userId call.clientIp call.second ∧
        (reachesTable call.second = true →
          call.first.refreshNow.seconds ≠ call.second.refreshNow.seconds) := by
  have own : SameRefresh crypto (issuedRow state userId call.clientIp call.first tokens) userId call.clientIp
      call.second.refreshNow ↔ call.first.refreshNow.seconds = call.second.refreshNow.seconds :=
    ⟨fun same => same.2.1, fun same => ⟨rfl, same, rfl⟩⟩
  unfold FreshIssue
  constructor
  · intro fresh
    refine ⟨fun reached row member => fresh reached row (List.mem_append_left _ member), ?_⟩
    intro reached same
    exact fresh reached _ (List.mem_append_right _ (List.mem_singleton_self _)) (own.mpr same)
  · rintro ⟨before, apart⟩ reached row member
    rcases List.mem_append.mp member with old | new
    · exact before reached row old
    · rw [List.mem_singleton.mp new, own]
      exact apart reached

end Issue

section Run

variable (crypto : Crypto) {state : AuthState}

theorem checkLogin_noDuplicate (state : AuthState) (call : LoginCall) :
    ∀ output ∈ checkedOutputs (checkLogin crypto state call), NoDuplicate output := by
  intro output member
  obtain ⟨userId, now, valid, rfl⟩ := checkLogin_outputs crypto state call output member
  exact fun _ => nofun

theorem openSessions_noDuplicate (traced : TracedRows crypto state) (userId : UInt64) (call : LoginCall) :
    (∀ output ∈ (openSessions ⟨true⟩ crypto state userId call).2.2, NoDuplicate output) ↔
      FreshIssue crypto state userId call.clientIp call.first ∧
        (issueInserts ⟨true⟩ crypto state userId call.clientIp call.first = true →
          FreshIssue crypto state userId call.clientIp call.second ∧
            (reachesTable call.second = true →
              call.first.refreshNow.seconds ≠ call.second.refreshNow.seconds)) := by
  have first := authGenerateTokens_noDuplicate userId call.clientIp call.first ⟨true⟩ traced
  rw [openSessions_eq]
  cases taken : issueInserts ⟨true⟩ crypto state userId call.clientIp call.first with
  | false =>
      rw [if_neg Bool.false_ne_true]
      exact first.trans (and_iff_left fun some => nomatch some).symm
  | true =>
      have issued := traced.authGenerateTokens userId call.clientIp call.first
      have second := authGenerateTokens_noDuplicate userId call.clientIp call.second ⟨true⟩ issued
      rw [if_pos rfl]
      dsimp only
      rw [List.forall_mem_append, List.forall_mem_append, first, authCreateSession, second,
        authGenerateTokens_inserted ⟨true⟩ crypto state userId call.clientIp call.first taken,
        freshIssue_second userId call]
      constructor
      · rintro ⟨⟨fresh, later⟩, -⟩
        exact ⟨fresh, fun _ => later⟩
      · rintro ⟨fresh, later⟩
        refine ⟨⟨fresh, later rfl⟩, fun output member => ?_⟩
        rw [List.mem_singleton.mp member]
        exact fun _ => nofun

/-- A call meets no duplicate exactly when its issues are fresh. -/
theorem authStep_noDuplicate (traced : TracedRows crypto state) (input : AuthInput) :
    (∀ output ∈ (authStep ⟨true⟩ crypto state input).2, NoDuplicate output) ↔
      FreshCall ⟨true⟩ crypto state input := by
  have returned : ∀ (outputs : List AuthOutput) code,
      (∀ output ∈ outputs ++ [AuthOutput.returned code], NoDuplicate output) ↔
        ∀ output ∈ outputs, NoDuplicate output := by
    intro outputs code
    rw [List.forall_mem_append]
    exact and_iff_left fun output member => by rw [List.mem_singleton.mp member]; exact fun _ => nofun
  cases input with
  | login call =>
      have quiet := checkLogin_noDuplicate crypto state call
      have rows := (checkLogin_sessions crypto state call).1
      refine (returned (authLoginUser ⟨true⟩ crypto state call).2.2 _).trans ?_
      unfold authLoginUser FreshCall
      dsimp only
      cases check : checkLogin crypto state call with
      | refused code next outputs =>
          rw [check] at quiet
          exact iff_of_true quiet trivial
      | passed userId next outputs =>
          rw [check] at quiet rows
          have opened := openSessions_noDuplicate crypto (traced.of_sessions rows) userId call
          dsimp only
          cases wants : call.wantsTokens with
          | false => exact iff_of_true quiet fun some => nomatch some
          | true =>
              rw [Bool.not_true, if_neg Bool.false_ne_true]
              dsimp only
              rw [List.forall_mem_append]
              exact ⟨fun all _ => opened.mp all.2, fun fresh => ⟨quiet, opened.mpr (fresh rfl)⟩⟩
  | generateTokens userId clientIp answers =>
      exact (returned _ _).trans (authGenerateTokens_noDuplicate userId clientIp answers ⟨true⟩ traced)
  | createSession userId clientIp answers =>
      exact (returned _ _).trans (authGenerateTokens_noDuplicate userId clientIp answers ⟨true⟩ traced)
  | validateToken accessToken now prepareOk =>
      refine iff_of_true (fun output member => ?_) trivial
      rw [List.mem_singleton.mp member]
      exact fun _ => nofun
  | logout userId accessToken prepareOk stepOk =>
      refine iff_of_true
        ((returned (authLogoutUser state userId accessToken prepareOk stepOk).2.2 _).mpr ?_) trivial
      unfold authLogoutUser
      intro output member
      split at member
      · cases member
      · rw [List.mem_singleton.mp member]
        exact fun _ => nofun

theorem TracedRows.authLogoutUser (traced : TracedRows crypto state) (userId : UInt64) (accessToken : Text)
    (prepareOk stepOk : Bool) :
    TracedRows crypto (authLogoutUser state userId accessToken prepareOk stepOk).2.1 := by
  unfold Auth.authLogoutUser
  split
  · exact traced
  · constructor
    · intro row member
      obtain ⟨before, there, rfl⟩ := List.mem_map.mp member
      have token := traced.tokens before there
      split <;> exact token
    · have same : (state.sessions.map fun row => if row.accessToken = accessToken ∧ row.userId = userId then
          { row with isValid := false } else row).map SessionRow.refreshToken =
          state.sessions.map SessionRow.refreshToken := by
        rw [List.map_map]
        apply List.map_congr_left
        intro row _
        show (if row.accessToken = accessToken ∧ row.userId = userId then { row with isValid := false }
          else row).refreshToken = row.refreshToken
        split <;> rfl
      exact same ▸ traced.distinct

theorem TracedRows.authStep (traced : TracedRows crypto state) (input : AuthInput) :
    TracedRows crypto (authStep ⟨true⟩ crypto state input).1 := by
  apply authStep_keeps ⟨true⟩ crypto (TracedRows crypto) _ _ _ traced input
  · intro before after same _ traced
    exact traced.of_sessions same
  · intro before traced userId clientIp answers
    exact traced.authGenerateTokens userId clientIp answers
  · intro before traced userId accessToken prepareOk stepOk
    exact traced.authLogoutUser crypto userId accessToken prepareOk stepOk

end Run

/-- The refresh tokens of the table are distinct, and no issue meets its own token in the table,
exactly as long as every issue is fresh. -/
theorem authMachine_refreshTokens_iff (crypto : Crypto) (users : List UserRow) (inputs : List AuthInput) :
    ((∀ visited ∈ (authMachine ⟨true⟩ crypto).states (authInit users) inputs,
          (visited.sessions.map SessionRow.refreshToken).Nodup) ∧
        ∀ output ∈ ((authMachine ⟨true⟩ crypto).run (authInit users) inputs).2, NoDuplicate output) ↔
      (authMachine ⟨true⟩ crypto).Along (FreshCall ⟨true⟩ crypto) (authInit users) inputs := by
  have traced : TracedRows crypto (authInit users) := ⟨fun row member => (nomatch member), List.nodup_nil⟩
  refine (authMachine ⟨true⟩ crypto).kept_iff_along (FreshCall ⟨true⟩ crypto) (TracedRows crypto)
    (fun state => (state.sessions.map SessionRow.refreshToken).Nodup) NoDuplicate
    (fun state input traced => traced.authStep crypto input) ?_ (authInit users) inputs traced traced.distinct
  intro state input traced _
  exact (and_iff_right (traced.authStep crypto input).distinct).trans (authStep_noDuplicate crypto traced input)

/-- A login with the right password. The clock does not move, and the random source does not repeat itself. -/
def sampleLogin (offset : Fin 10) : LoginCall :=
  ⟨"alice".toList, "Secret-12".toList, sampleIp, true, .success, true, sampleTime 0, true, sampleIssue 'a' 0,
    sampleIssue 'b' offset⟩

/-- The second issue of the very first login meets the refresh token of the first one. -/
theorem authMachine_login_duplicates :
    (sampleLogin 0).first.jti ≠ (sampleLogin 0).second.jti ∧
      (sampleLogin 0).first.randomPart ≠ (sampleLogin 0).second.randomPart ∧
      AuthOutput.duplicate "RT_7_1700604800_bb884cf7c22eca8178805d4e14ef791c6bf7a766967e6ca".toList ∈
        ((authMachine ⟨true⟩ sampleCrypto).run (authInit [sampleUser]) [.login (sampleLogin 0)]).2 ∧
      ((authMachine ⟨true⟩ sampleCrypto).run (authInit [sampleUser])
        [.login (sampleLogin 0)]).1.sessions.length = 1 ∧
      ¬ ∀ output ∈ ((authMachine ⟨true⟩ sampleCrypto).run (authInit [sampleUser])
        [.login (sampleLogin 0)]).2, NoDuplicate output := by
  have met : AuthOutput.duplicate "RT_7_1700604800_bb884cf7c22eca8178805d4e14ef791c6bf7a766967e6ca".toList ∈
      ((authMachine ⟨true⟩ sampleCrypto).run (authInit [sampleUser]) [.login (sampleLogin 0)]).2 := by
    decide +kernel
  refine ⟨by decide, by decide, met, by decide +kernel, fun none => none _ met _ rfl⟩

end SecureChat.Auth
