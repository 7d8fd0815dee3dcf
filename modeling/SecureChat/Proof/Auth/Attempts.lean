import Mathlib.Algebra.Order.BigOperators.Group.List
import Mathlib.Algebra.Order.Group.Nat
import SecureChat.Library.Slots
import SecureChat.Proof.Auth.Accounts

namespace SecureChat.Auth
open Library

/-- The thread may still log a failure from this address. -/
def AuthThread.mayFailFrom (clientIp : Text) : AuthThread → Bool
  | .admitted call => call.clientIp = clientIp
  | .recording _ success _ _ call => !success && call.clientIp = clientIp
  | _ => false

/-- The thread may still log a failure of this user. -/
def AuthThread.mayFailFor (user : UserRow) : AuthThread → Bool
  | .admitted call => user.named call.username
  | .recording userId success _ _ _ => !success && userId = user.id
  | _ => false

/-- The clock does not go back, there are at most so many threads at a time,
and the two queries of the rate limit work. -/
def Served (threads : Nat) (state : AccountState) (input : AccountInput) : Prop :=
  state.clock ≤ input.now.seconds ∧
    match input.step with
    | .register _ => state.threads.length < threads
    | .begin _ answers => state.threads.length < threads ∧ answers = ⟨true, true, true, true⟩
    | _ => True

/-- The failures of the last hour and those that may still be logged. -/
structure Limited (threads : Nat) (state : AccountState) : Prop where
  known : Known state
  crowd : state.threads.length ≤ threads
  logged : ∀ log ∈ state.logs, log.eventType = .loginFailed → ∀ userId, log.userId = some userId →
    userId.toNat < state.nextUserId
  recording : ∀ userId reason code call, .recording userId false reason code call ∈ state.threads →
    userId.toNat < state.nextUserId
  addresses : ∀ clientIp, state.logs.countP (·.failedFrom clientIp (state.clock - 3600)) +
    state.threads.countP (·.mayFailFrom clientIp) ≤ 20 + threads
  users : ∀ user ∈ state.accounts, state.logs.countP (·.failedFor user.id (state.clock - 3600)) +
    state.threads.countP (·.mayFailFor user) ≤ 10 + threads

section Limits

variable {threads : Nat} {crypto : Crypto} {state next : AccountState} {now : Int} {turn : AccountStep}
  {outputs : List AccountOutput}

/-- A thread that ends gives up its share. -/
theorem countP_eraseIdx (list : List AuthThread) (test : AuthThread → Bool) (index : Nat) (thread : AuthThread)
    (found : list[index]? = some thread) :
    (list.eraseIdx index).countP test + (if test thread then 1 else 0) = list.countP test := by
  obtain ⟨inside, rfl⟩ := List.getElem?_eq_some_iff.mp found
  have counted := (List.getElem_cons_eraseIdx_perm inside).countP_eq test
  rwa [List.countP_cons] at counted

theorem length_eraseIdx_le (list : List AuthThread) (index : Nat) : (list.eraseIdx index).length ≤ list.length := by
  rw [List.length_eraseIdx]
  split <;> omega

/-- An hour that ends later holds no more of the old failures. -/
theorem Limited.timed (limited : Limited threads state) (later : state.clock ≤ now) :
    Limited threads { state with clock := now } := by
  refine ⟨⟨limited.known.numbers, limited.known.bounded, limited.known.kinds, limited.known.distinct⟩, limited.crowd,
    limited.logged, limited.recording, fun clientIp => ?_, fun user member => ?_⟩
  · have fewer : state.logs.countP (·.failedFrom clientIp (now - 3600)) ≤
        state.logs.countP (·.failedFrom clientIp (state.clock - 3600)) := by
      apply List.countP_mono_left
      intro log _ young
      simp only [SecurityLog.failedFrom, decide_eq_true_eq] at young ⊢
      exact ⟨young.1, young.2.1, by omega⟩
    exact Nat.le_trans (Nat.add_le_add_right fewer _) (limited.addresses clientIp)
  · have fewer : state.logs.countP (·.failedFor user.id (now - 3600)) ≤
        state.logs.countP (·.failedFor user.id (state.clock - 3600)) := by
      apply List.countP_mono_left
      intro log _ young
      simp only [SecurityLog.failedFor, decide_eq_true_eq] at young ⊢
      exact ⟨young.1, young.2.1, by omega⟩
    exact Nat.le_trans (Nat.add_le_add_right fewer _) (limited.users user member)

/-- A thread that goes on or ends, and perhaps logs what it has found out. -/
theorem Limited.shift (limited : Limited threads state) (known : Known next) (accounts : next.accounts = state.accounts)
    (number : next.nextUserId = state.nextUserId) (clock : next.clock = state.clock)
    (crowd : next.threads.length ≤ state.threads.length)
    (logged : ∀ log ∈ next.logs, log ∈ state.logs ∨ (log.eventType = .loginFailed → ∀ userId, log.userId = some userId →
      userId.toNat < state.nextUserId))
    (recording : ∀ userId reason code call, .recording userId false reason code call ∈ next.threads →
      .recording userId false reason code call ∈ state.threads ∨ userId.toNat < state.nextUserId)
    (addresses : ∀ clientIp, next.logs.countP (·.failedFrom clientIp (state.clock - 3600)) +
        next.threads.countP (·.mayFailFrom clientIp) ≤
      state.logs.countP (·.failedFrom clientIp (state.clock - 3600)) + state.threads.countP (·.mayFailFrom clientIp))
    (users : ∀ user ∈ state.accounts, next.logs.countP (·.failedFor user.id (state.clock - 3600)) +
        next.threads.countP (·.mayFailFor user) ≤
      state.logs.countP (·.failedFor user.id (state.clock - 3600)) + state.threads.countP (·.mayFailFor user)) :
    Limited threads next := by
  refine ⟨known, Nat.le_trans crowd limited.crowd, ?_, ?_, ?_, ?_⟩
  · intro log member failed userId same
    rw [number]
    rcases logged log member with old | new
    · exact limited.logged log old failed userId same
    · exact new failed userId same
  · intro userId reason code call member
    rw [number]
    rcases recording userId reason code call member with old | new
    · exact limited.recording userId reason code call old
    · exact new
  · intro clientIp
    rw [clock]
    exact Nat.le_trans (addresses clientIp) (limited.addresses clientIp)
  · intro user member
    rw [accounts] at member
    rw [clock]
    exact Nat.le_trans (users user member) (limited.users user member)

/-- The row that an attempt leaves in the log. -/
def attemptRow (userId : UInt64) (clientIp : Text) (success : Bool) (reason : Text) (now : Int) : SecurityLog :=
  ⟨if userId = 0 then none else some userId, if success then .loginSuccess else .loginFailed,
    cutTo 512 ((if success then "Successful login: " else "Failed login: ").toList ++ reason), clientIp, now⟩

theorem logAuthenticationAttempt_logs (state : AccountState) (userId : UInt64) (clientIp reason : Text)
    (success : Bool) (now : Int) (insertOk : Bool) :
    (logAuthenticationAttempt state userId clientIp success reason now insertOk).logs =
      state.logs ++ if insertOk then [attemptRow userId clientIp success reason now] else [] := by
  unfold logAuthenticationAttempt
  cases insertOk with
  | true => rfl
  | false => exact (List.append_nil _).symm

/-- A success is no failure. -/
theorem attemptRow_success (userId other : UInt64) (clientIp address reason : Text) (since : Int) :
    (attemptRow userId clientIp true reason now).failedFrom address since = false ∧
      (attemptRow userId clientIp true reason now).failedFor other since = false := by
  simp [attemptRow, SecurityLog.failedFrom, SecurityLog.failedFor]

/-- A failure counts for its address and for its user. -/
theorem attemptRow_failed (userId other : UInt64) (clientIp address reason : Text) (since : Int) :
    ((attemptRow userId clientIp false reason now).failedFrom address since = true → clientIp = address) ∧
      ((attemptRow userId clientIp false reason now).failedFor other since = true → userId = other) := by
  constructor
  · intro counted
    exact (of_decide_eq_true counted).1
  · intro counted
    have same := (of_decide_eq_true counted).1
    rw [attemptRow] at same
    dsimp only at same
    split at same
    · cases same
    · exact Option.some.inj same

/-- A thread that logs its attempt has one more row at most in the place of its share. -/
theorem Limited.logs (limited : Limited threads state) (index : Nat) (thread : AuthThread) (userId : UInt64)
    (clientIp reason : Text) (success insertOk : Bool) (found : state.threads[index]? = some thread)
    (failing : success = false →
      ∃ code call, thread = .recording userId false reason code call ∧ call.clientIp = clientIp)
    (list : List AuthThread) (shorter : list.length ≤ state.threads.length)
    (sub : ∀ other ∈ list, other ∈ state.threads ∨
      ∀ userId reason code call, other ≠ .recording userId false reason code call)
    (gives : ∀ test : AuthThread → Bool, (∀ userId call, test (.issuing userId call) = false) →
      list.countP test + (if test thread then 1 else 0) = state.threads.countP test)
    (known : Known (logAuthenticationAttempt { state with threads := list } userId clientIp success reason now
      insertOk)) :
    Limited threads (logAuthenticationAttempt { state with threads := list } userId clientIp success reason now
      insertOk) := by
  obtain ⟨auth, number, same, -, clock⟩ := logAuthenticationAttempt_frame { state with threads := list } userId
    clientIp reason success now insertOk
  have logs := logAuthenticationAttempt_logs { state with threads := list } userId clientIp reason success now insertOk
  -- A row counts only if it is a failure, and then its thread has counted before.
  have counts (rowTest : SecurityLog → Bool) (test : AuthThread → Bool)
      (issuing : ∀ userId call, test (.issuing userId call) = false)
      (counted : rowTest (attemptRow userId clientIp success reason now) = true → test thread = true) :
      (logAuthenticationAttempt { state with threads := list } userId clientIp success reason now
        insertOk).logs.countP rowTest + list.countP test ≤ state.logs.countP rowTest + state.threads.countP test := by
    have row : (if insertOk then [attemptRow userId clientIp success reason now] else []).countP rowTest ≤
        if test thread then 1 else 0 := by
      cases insertOk with
      | false => exact Nat.zero_le _
      | true =>
          rw [if_pos rfl, List.countP_singleton]
          split
          · rename_i taken
            rw [if_pos (counted taken)]
          · exact Nat.zero_le _
    have share := gives test issuing
    rw [logs, List.countP_append]
    dsimp only
    omega
  refine limited.shift known (congrArg (fun auth : AuthState => auth.users.map UserRow.fixed) auth) number clock
    (by rw [same]; exact shorter) ?_ ?_ ?_ ?_
  · intro log inside
    rw [logs, List.mem_append] at inside
    rcases inside with old | new
    · exact .inl old
    · right
      cases insertOk with
      | false => cases new
      | true =>
          obtain rfl := List.mem_singleton.mp new
          intro failed other named
          cases success with
          | true => cases failed
          | false =>
              obtain ⟨code, call, rfl, -⟩ := failing rfl
              rw [attemptRow] at named
              dsimp only at named
              split at named
              · cases named
              · cases named
                exact limited.recording _ _ _ _ (List.mem_of_getElem? found)
  · intro other reason code call inside
    rw [same] at inside
    rcases sub _ inside with old | different
    · exact .inl old
    · exact absurd rfl (different other reason code call)
  · intro address
    rw [same]
    refine counts _ (·.mayFailFrom address) (fun _ _ => rfl) fun counted => ?_
    cases success with
    | true => rw [(attemptRow_success userId 0 clientIp address reason _).1] at counted; cases counted
    | false =>
        obtain ⟨code, call, rfl, ours⟩ := failing rfl
        simp [AuthThread.mayFailFrom, ours, (attemptRow_failed userId 0 clientIp address reason _).1 counted]
  · intro user inside
    rw [same]
    refine counts _ (·.mayFailFor user) (fun _ _ => rfl) fun counted => ?_
    cases success with
    | true => rw [(attemptRow_success userId user.id clientIp [] reason _).2] at counted; cases counted
    | false =>
        obtain ⟨code, call, rfl, -⟩ := failing rfl
        simp [AuthThread.mayFailFor, (attemptRow_failed userId user.id clientIp [] reason _).2 counted]

/-- The rate limit lets a login pass if few failures are known of its address and of each row with its name. -/
theorem rateLimitCheck_success (call : LoginCall)
    (admitted : rateLimitCheck state call.clientIp call.username now ⟨true, true, true, true⟩ = .success) :
    state.logs.countP (·.failedFrom call.clientIp (now - 3600)) ≤ 20 ∧
      ∀ user ∈ state.auth.users, user.named call.username = true →
        state.logs.countP (·.failedFor user.id (now - 3600)) ≤ 10 := by
  unfold rateLimitCheck at admitted
  simp only [Bool.not_true, Bool.false_eq_true, if_false, true_and] at admitted
  split at admitted
  · cases admitted
  · rename_i address
    split at admitted
    · cases admitted
    · rename_i users
      refine ⟨Nat.not_lt.mp address, fun user member named => ?_⟩
      refine Nat.le_trans ?_ (Nat.not_lt.mp users)
      apply List.single_le_sum (fun _ _ => Nat.zero_le _)
      exact List.mem_map_of_mem (List.mem_filter.mpr ⟨member, named⟩)

/-- A thread that has looked at the row of its user counts for the same address and the same user. -/
theorem Limited.looks (limited : Limited threads state) (index : Nat) (call after : LoginCall) (userId : UInt64)
    (success : Bool) (reason : Text) (code : AuthCode) (found : state.threads[index]? = some (.admitted call))
    (same : after.clientIp = call.clientIp)
    (row : userId = 0 ∨ ∃ user, findUser state.auth call.username = some user ∧ userId = user.id)
    (known : Known next) (accounts : next.accounts = state.accounts) (number : next.nextUserId = state.nextUserId)
    (clock : next.clock = state.clock) (logs : next.logs = state.logs)
    (moved : next.threads = state.threads.set index (.recording userId success reason code after)) :
    Limited threads next := by
  have counts (test : AuthThread → Bool) (kept : test (.recording userId success reason code after) = true →
      test (.admitted call) = true) : next.threads.countP test ≤ state.threads.countP test := by
    have counted := set_countP state.threads test index _ (.recording userId success reason code after) found
    rw [← moved] at counted
    split at counted
    · split at counted <;> omega
    · rename_i old
      rw [if_neg (fun new => old (kept new))] at counted
      omega
  refine limited.shift known accounts number clock (by rw [moved, List.length_set]) ?_ ?_ ?_ ?_
  · rw [logs]
    exact fun log member => .inl member
  · intro other reason code call member
    rw [moved] at member
    rcases List.mem_or_eq_of_mem_set member with old | new
    · exact .inl old
    · right
      cases new
      rcases row with rfl | ⟨user, chosen, rfl⟩
      · exact limited.known.bounded.1
      · exact (limited.known.numbers _ (fixed_mem (findUser_some chosen).1)).2
  · intro clientIp
    rw [logs]
    apply Nat.add_le_add_left
    apply counts
    intro mayFail
    simp only [AuthThread.mayFailFrom, Bool.and_eq_true, decide_eq_true_eq] at mayFail ⊢
    exact same.symm.trans mayFail.2
  · intro account member
    rw [logs]
    apply Nat.add_le_add_left
    apply counts
    intro mayFail
    simp only [AuthThread.mayFailFor, Bool.and_eq_true, decide_eq_true_eq] at mayFail ⊢
    obtain ⟨other, inside, rfl⟩ := List.mem_map.mp member
    rcases row with rfl | ⟨user, chosen, rfl⟩
    · have positive := (limited.known.numbers _ member).1
      rw [← mayFail.2] at positive
      exact absurd positive (Nat.lt_irrefl 0)
    · obtain ⟨one, named⟩ := findUser_some chosen
      rw [← limited.known.same_id one inside mayFail.2]
      exact named

/-- One move keeps the limits. -/
theorem Limited.move (limited : Limited threads state)
    (served : ∀ call, turn = .register call → state.threads.length < threads)
    (checked : ∀ call answers, turn = .begin call answers → state.threads.length < threads ∧
      answers = ⟨true, true, true, true⟩)
    (known : Known next) (clock : state.clock = now) (move : Move crypto state now turn next outputs) :
    Limited threads next := by
  have gone (list : List AuthThread) (index : Nat) (thread : AuthThread) (found : list[index]? = some thread)
      (test : AuthThread → Bool) : (list.eraseIdx index).countP test ≤ list.countP test :=
    Nat.le.intro (countP_eraseIdx list test index thread found)
  cases move with
  | registers call hash valid fresh room hashed =>
      have space := served call rfl
      have newest := newest_toNat room
      refine ⟨known, ?_, ?_, ?_, ?_, ?_⟩
      · rw [List.length_append]
        exact space
      · exact fun log member failed userId same => Nat.lt_succ_of_lt (limited.logged log member failed userId same)
      · intro userId reason code other member
        rcases List.mem_append.mp member with old | new
        · exact Nat.lt_succ_of_lt (limited.recording userId reason code other old)
        · cases List.mem_singleton.mp new
      · intro clientIp
        rw [List.countP_append]
        exact limited.addresses clientIp
      · intro user member
        dsimp only
        rw [List.countP_append]
        rw [AccountState.accounts, List.map_append] at member
        rcases List.mem_append.mp member with old | new
        · exact limited.users user old
        · -- The number of a new account is in no row of the log.
          obtain rfl := List.mem_singleton.mp new
          have none : state.logs.countP (·.failedFor (UInt64.ofNat state.nextUserId) (state.clock - 3600)) = 0 := by
            rw [List.countP_eq_zero]
            intro log inside counted
            obtain ⟨named, failed, -⟩ := of_decide_eq_true counted
            have before := limited.logged log inside failed _ named
            omega
          show state.logs.countP (·.failedFor (UInt64.ofNat state.nextUserId) (state.clock - 3600)) + _ ≤ _
          rw [none, Nat.zero_add]
          refine Nat.le_trans (Nat.add_le_add_right List.countP_le_length _) ?_
          show state.threads.length + 0 ≤ _
          omega
  | announces index userId username clientIp details insertOk found =>
      exact limited.logs index _ userId clientIp details true insertOk found (by rintro ⟨⟩) _ (length_eraseIdx_le _ _)
        (fun thread member => .inl (List.mem_of_mem_eraseIdx member))
        (fun test _ => countP_eraseIdx _ test index _ found) known
  | begins call answers admitted =>
      obtain ⟨space, rfl⟩ := checked call answers rfl
      obtain ⟨address, rows⟩ := rateLimitCheck_success call admitted
      refine ⟨known, ?_, limited.logged, ?_, ?_, ?_⟩
      · rw [List.length_append]
        exact space
      · intro userId reason code other member
        rcases List.mem_append.mp member with old | new
        · exact limited.recording userId reason code other old
        · cases List.mem_singleton.mp new
      · intro clientIp
        dsimp only
        rw [List.countP_append, List.countP_singleton]
        split
        · rename_i ours
          obtain rfl := of_decide_eq_true ours
          rw [clock]
          have most := List.countP_le_length (p := (·.mayFailFrom call.clientIp)) (l := state.threads)
          omega
        · exact limited.addresses clientIp
      · intro user member
        dsimp only
        rw [List.countP_append, List.countP_singleton]
        split
        · rename_i ours
          obtain ⟨row, inside, rfl⟩ := List.mem_map.mp member
          have few := rows row inside ours
          rw [clock]
          have most := List.countP_le_length (p := (·.mayFailFor row.fixed)) (l := state.threads)
          change state.logs.countP (·.failedFor row.id (now - 3600)) + _ ≤ _
          omega
        · exact limited.users user member
  | drops index call found =>
      exact limited.shift known rfl rfl rfl (length_eraseIdx_le _ _) (fun log member => .inl member)
        (fun _ _ _ _ member => .inl (List.mem_of_mem_eraseIdx member))
        (fun clientIp => Nat.add_le_add_left (gone _ _ _ found _) _)
        (fun user member => Nat.add_le_add_left (gone _ _ _ found _) _)
  | refuses index call after userId reason code found same why =>
      refine limited.looks index call after userId false reason code found same ?_ known rfl rfl rfl rfl rfl
      cases why with
      | unknown missing => exact .inl rfl
      | locked user chosen early => exact .inr ⟨user, chosen, rfl⟩
      | disabled user chosen off => exact .inr ⟨user, chosen, rfl⟩
  | verifies index call after user valid reason found same chosen below =>
      exact limited.looks index call after user.id valid reason _ found same (.inr ⟨user, chosen, rfl⟩) known
        (limited.known.updateUser (findUser_some chosen).1 valid call.updateOk) rfl rfl rfl rfl
  | hangs index call user found chosen fifth =>
      exact limited.shift known rfl rfl rfl (Nat.le_refl _) (fun log member => .inl member)
        (fun _ _ _ _ member => .inl member) (fun _ => Nat.le_refl _) (fun _ _ => Nat.le_refl _)
  | records index userId success reason code call insertOk found =>
      refine limited.logs index _ userId call.clientIp reason success insertOk found ?_ _ (length_eraseIdx_le _ _)
        (fun thread member => .inl (List.mem_of_mem_eraseIdx member))
        (fun test _ => countP_eraseIdx _ test index _ found) known
      rintro rfl
      exact ⟨code, call, rfl, rfl⟩
  | goesOn index userId reason code call insertOk found =>
      refine limited.logs index _ userId call.clientIp reason true insertOk found (by rintro ⟨⟩) _
        (Nat.le_of_eq List.length_set) (fun thread member => ?_) (fun test issuing => ?_) known
      · rcases List.mem_or_eq_of_mem_set member with old | rfl
        · exact .inl old
        · exact .inr (by rintro _ _ _ _ ⟨⟩)
      · have counted := set_countP state.threads test index _ (.issuing userId call) found
        simp only [issuing, Bool.false_eq_true, if_false, Nat.add_zero] at counted
        exact counted
  | issues index userId call auth outputs found users silent =>
      exact limited.shift known (congrArg (List.map UserRow.fixed) users) rfl rfl (length_eraseIdx_le _ _)
        (fun log member => .inl member)
        (fun _ _ _ _ member => .inl (List.mem_of_mem_eraseIdx member))
        (fun clientIp => Nat.add_le_add_left (gone _ _ _ found _) _)
        (fun user member => Nat.add_le_add_left (gone _ _ _ found _) _)

theorem Limited.step (schema : Schema) (limited : Limited threads state) (input : AccountInput)
    (served : Served threads state input) : Limited threads ((accountMachine schema crypto).step state input).1 := by
  obtain ⟨later, guard⟩ := served
  have timed := limited.timed later
  rcases accountMachine_cases schema crypto state input with ⟨same, -⟩ | ⟨-, move⟩
  · rw [same]
    exact timed
  · refine timed.move ?_ ?_ (limited.known.step schema input) rfl move
    · intro call register
      rw [register] at guard
      exact guard
    · intro call answers begin
      rw [begin] at guard
      exact guard

theorem limited_init (threads : Nat) (salt garbage : List UInt8) (insertOk : Bool) (clock : Int) :
    Limited threads (authInitAccounts crypto salt garbage insertOk clock) := by
  have empty : (authInitAccounts crypto salt garbage insertOk clock).threads = [] ∧
      (authInitAccounts crypto salt garbage insertOk clock).logs = [] := by
    rcases @authInitAccounts_cases crypto salt garbage insertOk clock with empty | ⟨hash, admin⟩
    · rw [empty]
      exact ⟨rfl, rfl⟩
    · rw [admin]
      exact ⟨rfl, rfl⟩
  obtain ⟨threadless, fresh⟩ := empty
  refine ⟨known_init salt garbage insertOk clock, ?_, ?_, ?_, ?_, ?_⟩
  · rw [threadless]
    exact Nat.zero_le _
  · rw [fresh]
    rintro log ⟨⟩
  · rw [threadless]
    rintro userId reason code call ⟨⟩
  · rw [threadless, fresh]
    exact fun _ => Nat.zero_le _
  · rw [threadless, fresh]
    exact fun _ _ => Nat.zero_le _

/-- In whatever order at most so many threads serve registrations and logins, an hour never holds more failed logins
from one address than twenty and one for each thread, nor more of one user than ten and one for each thread. -/
theorem failedLogins_bounded (schema : Schema) (crypto : Crypto) (threads : Nat) (salt garbage : List UInt8)
    (insertOk : Bool) (clock : Int) (inputs : List AccountInput)
    (served : (accountMachine schema crypto).Along (Served threads)
      (authInitAccounts crypto salt garbage insertOk clock) inputs) :
    ∀ visited ∈ (accountMachine schema crypto).states (authInitAccounts crypto salt garbage insertOk clock) inputs,
      (∀ clientIp, visited.logs.countP (·.failedFrom clientIp (visited.clock - 3600)) ≤ 20 + threads) ∧
        ∀ user ∈ visited.auth.users,
          visited.logs.countP (·.failedFor user.id (visited.clock - 3600)) ≤ 10 + threads := by
  intro visited member
  have limited := (accountMachine schema crypto).states_invariant (Served threads) (Limited threads)
    (fun state input limited served => limited.step schema input served) _ inputs
    (limited_init threads salt garbage insertOk clock) served visited member
  refine ⟨fun clientIp => Nat.le_trans (Nat.le_add_right _ _) (limited.addresses clientIp), fun user inside => ?_⟩
  have share := limited.users user.fixed (fixed_mem inside)
  exact Nat.le_trans (Nat.le_add_right _ _) share

end Limits

/-- A login with a name that nobody has. -/
def sampleStranger : LoginCall :=
  ⟨"mallory".toList, "Secret-12".toList, sampleIp, false, .success, true, sampleTime 0, true, sampleIssue 'a' 0,
    sampleIssue 'b' 0⟩

/-- The steps of one such login. -/
def strangerSteps : List AccountInput :=
  [⟨sampleTime 0, .begin sampleStranger ⟨true, true, true, true⟩⟩, ⟨sampleTime 0, .verify 0⟩,
    ⟨sampleTime 0, .record 0 true⟩]

theorem failedLogins_bounded_stranger :
    let final := ((accountMachine ⟨true⟩ sampleCrypto).run (authInitAccounts sampleCrypto [] [] true 0) strangerSteps).1
    final.logs.countP (·.failedFrom sampleIp (final.clock - 3600)) ≤ 20 + 1 := by
  have bounded := failedLogins_bounded ⟨true⟩ sampleCrypto 1 [] [] true 0 strangerSteps
    ⟨⟨by decide, by decide, rfl⟩, ⟨by decide, trivial⟩, ⟨by decide, trivial⟩, trivial⟩
  exact (bounded _ ((accountMachine ⟨true⟩ sampleCrypto).run_mem_states _ strangerSteps)).1 sampleIp

/-- The bound is reached: one thread after the other leaves twenty-one failures, and the next login is refused. -/
example : ((accountMachine ⟨true⟩ sampleCrypto).run (authInitAccounts sampleCrypto [] [] true 0)
    ((List.range 22).flatMap fun _ => strangerSteps)).1.logs.length = 21 := by
  decide +kernel

/-- The wrong passwords of the user in a row, the last ones of the history. -/
def streakStep (userId : UInt64) (count : Nat) : AccountOutput → Nat
  | .login (.verified other _ valid) => if other = userId then (if valid then 0 else count + 1) else count
  | _ => count

def streak (userId : UInt64) (outputs : List AccountOutput) : Nat := outputs.foldl (streakStep userId) 0

/-- The clock is behind the year 1970, and the rows of the users can be updated. -/
def Recorded (_ : AccountState) (input : AccountInput) : Prop :=
  0 ≤ input.now.seconds ∧
    match input.step with
    | .begin call _ => call.updateOk = true
    | _ => True

/-- As long as the module is not stuck, each row knows how many wrong passwords in a row there were for it. -/
structure Streaks (state : AccountState) (outputs : List AccountOutput) : Prop where
  known : Known state
  unlocked : ∀ user ∈ state.auth.users, user.accountLockedUntil = 0
  updates : ∀ call, .admitted call ∈ state.threads → call.updateOk = true
  codes : ∀ userId success reason code call, .recording userId success reason code call ∈ state.threads →
    code ≠ .accountLocked
  quiet : .login (.returned .accountLocked) ∉ outputs
  fresh : ∀ userId : UInt64, state.nextUserId ≤ userId.toNat → streak userId outputs = 0
  counted : state.stuck = false → ∀ user ∈ state.auth.users, user.loginAttempts.toNat = streak user.id outputs
  few : state.stuck = false → ∀ userId, streak userId outputs < 5
  hung : state.stuck = true → ∃ userId, 5 ≤ streak userId outputs

section Hangs

variable {crypto : Crypto} {state next : AccountState} {now : Int} {turn : AccountStep}
  {outputs more : List AccountOutput}

/-- What verifies nothing changes no count. -/
theorem streak_append (userId : UInt64) (plain : ∀ other now valid, .login (.verified other now valid) ∉ more) :
    streak userId (outputs ++ more) = streak userId outputs := by
  rw [streak, List.foldl_append]
  change more.foldl (streakStep userId) (streak userId outputs) = streak userId outputs
  generalize streak userId outputs = count
  induction more generalizing count with
  | nil => rfl
  | cons output rest ih =>
      have same : streakStep userId count output = count := by
        unfold streakStep
        split
        · exact absurd List.mem_cons_self (plain _ _ _)
        · rfl
      rw [List.foldl_cons, same]
      exact ih (fun other now valid member => plain other now valid (List.mem_cons_of_mem _ member)) count

theorem streak_verified (userId other : UInt64) (valid : Bool) :
    streak userId (outputs ++ [.login (.verified other now valid)]) =
      if other = userId then (if valid then 0 else streak userId outputs + 1) else streak userId outputs := by
  rw [streak, List.foldl_append]
  rfl

theorem silent_plain (silent : ∀ output ∈ more, Silent output) :
    (∀ other now valid, .login (.verified other now valid) ∉ more) ∧ .login (.returned .accountLocked) ∉ more :=
  ⟨fun _ _ _ member => (silent _ member).1 _ _ _ rfl, fun member => (silent _ member).2 rfl⟩

/-- A move that verifies nothing and leaves the rows alone. -/
theorem Streaks.keep (streaks : Streaks state outputs) (known : Known next) (auth : next.auth.users = state.auth.users)
    (number : next.nextUserId = state.nextUserId) (stuck : next.stuck = state.stuck)
    (admitted : ∀ call, .admitted call ∈ next.threads → .admitted call ∈ state.threads ∨ call.updateOk = true)
    (recording : ∀ userId success reason code call, .recording userId success reason code call ∈ next.threads →
      .recording userId success reason code call ∈ state.threads ∨ code ≠ .accountLocked)
    (plain : ∀ other now valid, .login (.verified other now valid) ∉ more)
    (returns : .login (.returned .accountLocked) ∉ more) : Streaks next (outputs ++ more) := by
  refine ⟨known, ?_, ?_, ?_, ?_, ?_, ?_, ?_, ?_⟩
  · rw [auth]
    exact streaks.unlocked
  · exact fun call member => (admitted call member).elim (streaks.updates call) id
  · exact fun userId success reason code call member =>
      (recording userId success reason code call member).elim (streaks.codes userId success reason code call) id
  · rw [List.mem_append, not_or]
    exact ⟨streaks.quiet, returns⟩
  · intro userId late
    rw [number] at late
    rw [streak_append userId plain]
    exact streaks.fresh userId late
  · intro free user member
    rw [auth] at member
    rw [streak_append user.id plain]
    exact streaks.counted (stuck ▸ free) user member
  · intro free userId
    rw [streak_append userId plain]
    exact streaks.few (stuck ▸ free) userId
  · intro hangs
    obtain ⟨userId, five⟩ := streaks.hung (stuck ▸ hangs)
    exact ⟨userId, by rwa [streak_append userId plain]⟩

/-- A thread that ends takes nothing along. -/
theorem erased_kept (list : List AuthThread) (index : Nat) :
    (∀ call, .admitted call ∈ list.eraseIdx index → .admitted call ∈ list ∨ call.updateOk = true) ∧
      ∀ userId success reason code call, .recording userId success reason code call ∈ list.eraseIdx index →
        .recording userId success reason code call ∈ list ∨ code ≠ .accountLocked :=
  ⟨fun _ member => .inl (List.mem_of_mem_eraseIdx member),
    fun _ _ _ _ _ member => .inl (List.mem_of_mem_eraseIdx member)⟩

/-- The row of a user after its password was verified, as long as the fifth wrong one is still to come. -/
theorem verifiedRow_counts (user : UserRow) (valid : Bool) (unlocked : user.accountLockedUntil = 0)
    (below : valid = false → user.loginAttempts + 1 < authMaxLoginAttempts) (few : user.loginAttempts.toNat < 5) :
    (verifiedRow user now valid).accountLockedUntil = 0 ∧
      (verifiedRow user now valid).loginAttempts.toNat = (if valid then 0 else user.loginAttempts.toNat + 1) ∧
      (valid = false → user.loginAttempts.toNat + 1 < 5) := by
  cases valid with
  | true => exact ⟨rfl, rfl, by rintro ⟨⟩⟩
  | false =>
      have next := increment32 user.loginAttempts (by omega)
      have small := below rfl
      rw [verifiedRow, if_neg (by simp), failLogin, if_neg (UInt32.not_le.mpr small)]
      refine ⟨unlocked, next, fun _ => ?_⟩
      rw [← next]
      exact small

/-- A verified password changes the count of its user only. -/
theorem Streaks.verified (streaks : Streaks state outputs) (known : Known next) (free : state.stuck = false)
    (still : next.stuck = false) (number : next.nextUserId = state.nextUserId) (user : UserRow)
    (member : user ∈ state.auth.users) (valid : Bool)
    (below : valid = false → user.loginAttempts + 1 < authMaxLoginAttempts)
    (users : next.auth.users = state.auth.users.map fun other =>
      if other.id = user.id then verifiedRow user now valid else other)
    (admitted : ∀ call, .admitted call ∈ next.threads → .admitted call ∈ state.threads)
    (recording : ∀ userId success reason code call, .recording userId success reason code call ∈ next.threads →
      .recording userId success reason code call ∈ state.threads ∨ code ≠ .accountLocked) :
    Streaks next (outputs ++ [.login (.verified user.id now valid)]) := by
  have attempts := streaks.counted free user member
  obtain ⟨unlocked, count, small⟩ := @verifiedRow_counts now user valid (streaks.unlocked user member) below
    (by rw [attempts]; exact streaks.few free user.id)
  refine ⟨known, ?_, fun call inside => streaks.updates call (admitted call inside), ?_, ?_, ?_, ?_, ?_, ?_⟩
  · intro other inside
    rw [users] at inside
    obtain ⟨row, before, rfl⟩ := List.mem_map.mp inside
    split
    · exact unlocked
    · exact streaks.unlocked row before
  · exact fun userId success reason code call inside =>
      (recording userId success reason code call inside).elim (streaks.codes userId success reason code call) id
  · rw [List.mem_append, not_or]
    exact ⟨streaks.quiet, by rintro (_ | ⟨_, ⟨⟩⟩)⟩
  · intro userId late
    rw [number] at late
    have range := (streaks.known.numbers _ (fixed_mem member)).2
    rw [streak_verified, if_neg]
    · exact streaks.fresh userId late
    · rintro rfl
      exact absurd range (Nat.not_lt.mpr late)
  · intro _ other inside
    rw [users] at inside
    obtain ⟨row, before, rfl⟩ := List.mem_map.mp inside
    split
    · rw [verifiedRow_id, streak_verified, if_pos rfl, count, attempts]
    · rename_i different
      rw [streak_verified, if_neg (Ne.symm different)]
      exact streaks.counted free row before
  · intro _ userId
    rw [streak_verified]
    split
    · rename_i same
      subst same
      cases valid with
      | true =>
          rw [if_pos rfl]
          exact Nat.zero_lt_succ 4
      | false =>
          rw [if_neg (by simp), ← attempts]
          exact small rfl
    · exact streaks.few free userId
  · intro hangs
    cases hangs.symm.trans still

theorem Streaks.move (streaks : Streaks state outputs) (free : state.stuck = false) (later : 0 ≤ now)
    (updates : ∀ call answers, turn = .begin call answers → call.updateOk = true) (known : Known next)
    (move : Move crypto state now turn next more) : Streaks next (outputs ++ more) := by
  cases move with
  | registers call hash valid fresh room hashed =>
      have newest := newest_toNat room
      have plain : ∀ other now valid, .login (.verified other now valid) ∉
          [AccountOutput.registered (UInt64.ofNat state.nextUserId) call] := by
        rintro _ _ _ (_ | ⟨_, ⟨⟩⟩)
      refine ⟨known, ?_, ?_, ?_, ?_, ?_, ?_, ?_, ?_⟩
      · rw [List.forall_mem_append, List.forall_mem_singleton]
        exact ⟨streaks.unlocked, rfl⟩
      · intro other member
        rcases List.mem_append.mp member with old | new
        · exact streaks.updates other old
        · cases List.mem_singleton.mp new
      · intro userId success reason code other member
        rcases List.mem_append.mp member with old | new
        · exact streaks.codes userId success reason code other old
        · cases List.mem_singleton.mp new
      · rw [List.mem_append, not_or]
        exact ⟨streaks.quiet, by rintro (_ | ⟨_, ⟨⟩⟩)⟩
      · intro userId late
        rw [streak_append userId plain]
        exact streaks.fresh userId (Nat.le_of_succ_le late)
      · intro _
        rw [List.forall_mem_append, List.forall_mem_singleton]
        refine ⟨fun user member => ?_, ?_⟩
        · rw [streak_append user.id plain]
          exact streaks.counted free user member
        · dsimp only
          rw [streak_append _ plain, streaks.fresh _ (Nat.le_of_eq newest.symm)]
          rfl
      · intro _ userId
        rw [streak_append userId plain]
        exact streaks.few free userId
      · intro hangs
        cases hangs.symm.trans free
  | announces index userId username clientIp details insertOk found =>
      obtain ⟨auth, number, threads, stuck, -⟩ := logAuthenticationAttempt_frame
        { state with threads := state.threads.eraseIdx index } userId clientIp details true now insertOk
      obtain ⟨admitted, recording⟩ := erased_kept state.threads index
      exact streaks.keep known (congrArg AuthState.users auth) number stuck (by rw [threads]; exact admitted)
        (by rw [threads]; exact recording) (by rintro _ _ _ (_ | ⟨_, ⟨⟩⟩)) (by rintro (_ | ⟨_, ⟨⟩⟩))
  | begins call answers admitted =>
      refine streaks.keep known rfl rfl rfl (fun other member => ?_) (fun userId success reason code other member => ?_)
        (by rintro _ _ _ ⟨⟩) (by rintro ⟨⟩)
      · rcases List.mem_append.mp member with old | new
        · exact .inl old
        · cases List.mem_singleton.mp new
          exact .inr (updates call answers rfl)
      · rcases List.mem_append.mp member with old | new
        · exact .inl old
        · cases List.mem_singleton.mp new
  | drops index call found =>
      obtain ⟨admitted, recording⟩ := erased_kept state.threads index
      exact streaks.keep known rfl rfl rfl admitted recording (by rintro _ _ _ (_ | ⟨_, ⟨⟩⟩)) (by rintro (_ | ⟨_, ⟨⟩⟩))
  | refuses index call after userId reason code found same why =>
      refine streaks.keep known rfl rfl rfl (fun other member => ?_) (fun userId success reason code other member => ?_)
        (by rintro _ _ _ ⟨⟩) (by rintro ⟨⟩)
      · rcases List.mem_or_eq_of_mem_set member with old | new
        · exact .inl old
        · cases new
      · rcases List.mem_or_eq_of_mem_set member with old | new
        · exact .inl old
        · right
          cases new
          cases why with
          | unknown missing => rintro ⟨⟩
          | locked user chosen early =>
              rw [streaks.unlocked user (findUser_some chosen).1] at early
              exact absurd later (Int.not_le.mpr early)
          | disabled user chosen off => rintro ⟨⟩
  | verifies index call after user valid reason found same chosen below =>
      have inside := (findUser_some chosen).1
      refine streaks.verified known free free rfl user inside valid below ?_ (fun other member => ?_)
        (fun userId success reason code other member => ?_)
      · rw [updateUser, if_pos (streaks.updates call (List.mem_of_getElem? found)), verifiedRow_id]
      · rcases List.mem_or_eq_of_mem_set member with old | new
        · exact old
        · cases new
      · rcases List.mem_or_eq_of_mem_set member with old | new
        · exact .inl old
        · right
          cases new
          cases valid <;> rintro ⟨⟩
  | hangs index call user found chosen fifth =>
      have inside := (findUser_some chosen).1
      have attempts := streaks.counted free user inside
      have range := (streaks.known.numbers _ (fixed_mem inside)).2
      refine ⟨known, streaks.unlocked, streaks.updates, streaks.codes, ?_, ?_, by rintro ⟨⟩, by rintro ⟨⟩, fun _ => ?_⟩
      · rw [List.mem_append, not_or]
        exact ⟨streaks.quiet, by rintro (_ | ⟨_, ⟨⟩⟩)⟩
      · intro userId late
        rw [streak_verified, if_neg]
        · exact streaks.fresh userId late
        · rintro rfl
          exact absurd range (Nat.not_lt.mpr late)
      · refine ⟨user.id, ?_⟩
        have few := streaks.few free user.id
        have next := increment32 user.loginAttempts (by omega)
        rw [UInt32.le_iff_toNat_le, next] at fifth
        rw [streak_verified, if_pos rfl, if_neg (by simp), ← attempts]
        exact fifth
  | records index userId success reason code call insertOk found =>
      obtain ⟨auth, number, threads, stuck, -⟩ := logAuthenticationAttempt_frame
        { state with threads := state.threads.eraseIdx index } userId call.clientIp reason success now insertOk
      obtain ⟨admitted, recording⟩ := erased_kept state.threads index
      refine streaks.keep known (congrArg AuthState.users auth) number stuck (by rw [threads]; exact admitted)
        (by rw [threads]; exact recording) (by rintro _ _ _ (_ | ⟨_, ⟨⟩⟩)) ?_
      intro member
      cases List.mem_singleton.mp member
      exact streaks.codes userId success reason _ call (List.mem_of_getElem? found) rfl
  | goesOn index userId reason code call insertOk found =>
      obtain ⟨auth, number, threads, stuck, -⟩ := logAuthenticationAttempt_frame
        { state with threads := state.threads.set index (.issuing userId call) } userId call.clientIp reason true now
        insertOk
      refine streaks.keep known (congrArg AuthState.users auth) number stuck (fun other member => ?_)
        (fun userId success reason code other member => ?_) (by rintro _ _ _ ⟨⟩) (by rintro ⟨⟩)
      · rw [threads] at member
        rcases List.mem_or_eq_of_mem_set member with old | new
        · exact .inl old
        · cases new
      · rw [threads] at member
        rcases List.mem_or_eq_of_mem_set member with old | new
        · exact .inl old
        · cases new
  | issues index userId call auth outputs found users silent =>
      obtain ⟨admitted, recording⟩ := erased_kept state.threads index
      obtain ⟨plain, returns⟩ := silent_plain silent
      exact streaks.keep known users rfl rfl admitted recording plain returns

theorem Streaks.step (schema : Schema) (streaks : Streaks state outputs) (input : AccountInput)
    (recorded : Recorded state input) :
    Streaks ((accountMachine schema crypto).step state input).1
      (outputs ++ ((accountMachine schema crypto).step state input).2) := by
  obtain ⟨later, guard⟩ := recorded
  have known := streaks.known
  have timed : Streaks { state with clock := input.now.seconds } outputs :=
    ⟨⟨known.numbers, known.bounded, known.kinds, known.distinct⟩, streaks.unlocked, streaks.updates, streaks.codes,
      streaks.quiet, streaks.fresh, streaks.counted, streaks.few, streaks.hung⟩
  rcases accountMachine_cases schema crypto state input with ⟨same, silent⟩ | ⟨free, move⟩
  · obtain ⟨plain, returns⟩ := silent_plain silent
    rw [same]
    exact timed.keep timed.known rfl rfl rfl (fun _ => .inl) (fun _ _ _ _ _ => .inl) plain returns
  · refine timed.move free later ?_ (known.step schema input) move
    intro call answers begin
    rw [begin] at guard
    exact guard

end Hangs

end SecureChat.Auth
