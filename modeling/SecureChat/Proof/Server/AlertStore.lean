import SecureChat.Construction.Server.Monitoring
import SecureChat.Library.Records

namespace SecureChat.Monitoring
open Library

/-- The alert without what was done about it later. -/
def Alert.asAdded (alert : Alert) : Alert :=
  { alert with
    status := .active
    acknowledgeTime := 0
    resolveTime := 0
    acknowledgedBy := []
    resolveBy := [] }

/-- The slots in use are slots of the array. -/
structure AlertStore.Valid (store : AlertStore) : Prop where
  positive : 0 < store.capacity
  slots : store.alerts.length = store.capacity
  bounded : store.count ≤ store.capacity

namespace AlertStore

variable {store : AlertStore}

theorem Valid.stored_length (valid : store.Valid) : store.stored.length = store.count := by
  rw [stored, List.length_take, valid.slots]
  exact Nat.min_eq_left valid.bounded

theorem makePlace_stored (valid : store.Valid) : store.makePlace.stored =
    if store.capacity ≤ store.stored.length then store.stored.tail else store.stored := by
  rw [valid.stored_length, makePlace]
  split
  · exact shiftDown_take store.alerts store.count (by rw [valid.slots]; exact valid.bounded)
  · rfl

theorem makePlace_slots (valid : store.Valid) : store.makePlace.alerts.length = store.capacity := by
  rw [makePlace]
  split
  · exact (shiftDown_length _ _).trans valid.slots
  · exact valid.slots

theorem makePlace_count (valid : store.Valid) : store.makePlace.count < store.capacity := by
  have positive := valid.positive
  have bounded := valid.bounded
  rw [makePlace]
  split
  · dsimp only
    omega
  · omega

theorem makePlace_other (store : AlertStore) :
    store.makePlace.capacity = store.capacity ∧ store.makePlace.nextAlertId = store.nextAlertId := by
  rw [makePlace]
  split <;> exact ⟨rfl, rfl⟩

theorem append_stored (alert : Alert) (free : store.count < store.alerts.length) :
    (store.append alert).stored = store.stored ++ [alert] := by
  have inside : store.count < (store.alerts.set store.count alert).length := by rwa [List.length_set]
  show (store.alerts.set store.count alert).take (store.count + 1) = store.alerts.take store.count ++ [alert]
  rw [List.take_succ_eq_append_getElem inside, List.getElem_set_self, List.take_set_of_le (Nat.le_refl _)]

/-- Room is made when it is needed, and the new alert is the last one. -/
theorem push_stored (alert : Alert) (valid : store.Valid) : (store.makePlace.append alert).stored =
    (if store.capacity ≤ store.stored.length then store.stored.tail else store.stored) ++ [alert] := by
  have free : store.makePlace.count < store.makePlace.alerts.length := by
    rw [makePlace_slots valid]
    exact makePlace_count valid
  rw [append_stored alert free, makePlace_stored valid]

theorem push_valid (alert : Alert) (valid : store.Valid) : (store.makePlace.append alert).Valid := by
  have same := store.makePlace_other.1
  refine ⟨?_, ?_, ?_⟩
  · show 0 < store.makePlace.capacity
    rw [same]
    exact valid.positive
  · show (store.makePlace.alerts.set _ alert).length = store.makePlace.capacity
    rw [List.length_set, makePlace_slots valid, same]
  · show store.makePlace.count + 1 ≤ store.makePlace.capacity
    rw [same]
    exact makePlace_count valid

end AlertStore

/-- What the run has kept so far, whatever the counter of the identifiers does. -/
structure Logged (cooldown : UInt32) (capacity : Nat) (session : Session) : Prop where
  valid : session.manager.alertStore.Valid
  configured : session.manager.alertCooldownSeconds = cooldown
  size : session.manager.alertStore.capacity = capacity
  recent : session.manager.alertStore.stored.map Alert.asAdded = recent capacity session.accepted
  next : session.manager.alertStore.nextAlertId = UInt64.ofNat (session.accepted.length + 1)
  numbered : ∀ index (inside : index < session.accepted.length),
    session.accepted[index].alertId = UInt64.ofNat (index + 1)
  cooled : session.accepted.Pairwise fun first second => first.metricType = second.metricType →
    first.triggerTime.toNat + cooldown.toNat * 1000 ≤ second.triggerTime.toNat
  last : ∀ alert ∈ session.accepted, 0 < session.manager.lastAlertTime alert.metricType ∧
    alert.triggerTime ≤ session.manager.lastAlertTime alert.metricType ∧
      session.manager.lastAlertTime alert.metricType ≤ session.clock

/-- The clock never stands at zero and never goes back. -/
def ClockRuns (session : Session) (input : AlertCall × UInt64) : Prop :=
  0 < input.2 ∧ session.clock ≤ input.2

section Requests

variable {cooldown : UInt32} {capacity : Nat} {session : Session}

/-- The alert of a request is new, and it keeps the time of its request. -/
theorem alert_fields {request : AlertRequest} {alertId now : UInt64} {alert : Alert}
    (made : request.alert alertId now = some alert) :
    alert.alertId = alertId ∧ alert.metricType = request.metricType ∧ alert.triggerTime = now ∧
      alert.asAdded = alert := by
  rw [AlertRequest.alert] at made
  split at made
  · cases made
    exact ⟨rfl, rfl, rfl, rfl⟩
  · cases made

/-- A request is refused without any change, or its alert is accepted outside of the time to cool down. -/
theorem monitoringAddAlert_cases (manager : Manager) (request : AlertRequest) (now : UInt64) :
    ((monitoringAddAlert manager request now).1 ≠ 0 ∧ (monitoringAddAlert manager request now).2 = manager) ∨
    (∃ alert, request.alert manager.alertStore.nextAlertId now = some alert ∧
      manager.coolingDown request.metricType now = false ∧
      monitoringAddAlert manager request now = (0, { manager with
        alertStore := manager.alertStore.makePlace.append alert
        totalAlertsTriggered := manager.totalAlertsTriggered + 1
        lastAlertTime := Function.update manager.lastAlertTime request.metricType now })) := by
  rw [monitoringAddAlert]
  cases made : request.alert manager.alertStore.nextAlertId now with
  | none => exact .inl ⟨(by decide : (-1 : Int) ≠ 0), rfl⟩
  | some alert =>
      dsimp only
      split
      · exact .inl ⟨(by decide : (-2 : Int) ≠ 0), rfl⟩
      · rename_i cooled
        exact .inr ⟨alert, rfl, Bool.eq_false_of_not_eq_true cooled, rfl⟩

/-- Outside of the time to cool down the last alert of the metric is old enough. -/
theorem cooled_of_not_coolingDown (manager : Manager) (metricType : MetricType) (now : UInt64)
    (fits : manager.alertCooldownSeconds.toNat * 1000 < 2 ^ 32)
    (cool : manager.coolingDown metricType now = false) (seen : 0 < manager.lastAlertTime metricType)
    (order : manager.lastAlertTime metricType ≤ now) :
    (manager.lastAlertTime metricType).toNat + manager.alertCooldownSeconds.toNat * 1000 ≤ now.toNat := by
  have product : (manager.alertCooldownSeconds * 1000).toUInt64.toNat =
      manager.alertCooldownSeconds.toNat * 1000 := by
    rw [UInt32.toNat_toUInt64, UInt32.toNat_mul]
    exact Nat.mod_eq_of_lt fits
  have elapsed := UInt64.toNat_sub_of_le _ _ order
  rw [Manager.coolingDown, decide_eq_false_iff_not, not_and] at cool
  have enough := cool seen
  rw [UInt64.not_lt, UInt64.le_iff_toNat_le, product, elapsed] at enough
  have before := UInt64.le_iff_toNat_le.mp order
  omega

/-- An accepted alert comes after the time to cool down of every earlier one of its metric. -/
theorem cooled_apart {metricType : MetricType} {now : UInt64} (logged : Logged cooldown capacity session)
    (fits : cooldown.toNat * 1000 < 2 ^ 32) (cool : session.manager.coolingDown metricType now = false)
    (order : session.clock ≤ now) (other : Alert) (member : other ∈ session.accepted)
    (same : other.metricType = metricType) :
    other.triggerTime.toNat + cooldown.toNat * 1000 ≤ now.toNat := by
  obtain ⟨seen, later, before⟩ := logged.last other member
  rw [same] at seen later before
  have old := cooled_of_not_coolingDown session.manager metricType now
    (by rw [logged.configured]; exact fits) cool seen (UInt64.le_trans before order)
  rw [logged.configured] at old
  have earlier := UInt64.le_iff_toNat_le.mp later
  omega

theorem numbered_push (logged : Logged cooldown capacity session) {alert : Alert}
    (identified : alert.alertId = UInt64.ofNat (session.accepted.length + 1)) (index : Nat)
    (inside : index < (session.accepted ++ [alert]).length) :
    (session.accepted ++ [alert])[index].alertId = UInt64.ofNat (index + 1) := by
  rw [List.length_append, List.length_singleton] at inside
  by_cases old : index < session.accepted.length
  · rw [List.getElem_append_left old]
    exact logged.numbered index old
  · have new : index = session.accepted.length := by omega
    subst new
    rw [List.getElem_append_right (Nat.le_refl _)]
    simp only [Nat.sub_self, List.getElem_cons_zero]
    exact identified

/-- The last alert of its metric is the new one, and the others keep theirs. -/
theorem last_push (logged : Logged cooldown capacity session) {alert : Alert} {metricType : MetricType}
    {now : UInt64} (positive : 0 < now) (order : session.clock ≤ now) (metric : alert.metricType = metricType)
    (time : alert.triggerTime = now) (other : Alert) (member : other ∈ session.accepted ++ [alert]) :
    0 < Function.update session.manager.lastAlertTime metricType now other.metricType ∧
      other.triggerTime ≤ Function.update session.manager.lastAlertTime metricType now other.metricType ∧
        Function.update session.manager.lastAlertTime metricType now other.metricType ≤ now := by
  rcases List.mem_append.mp member with old | new
  · obtain ⟨seen, later, before⟩ := logged.last other old
    by_cases same : other.metricType = metricType
    · rw [same] at later before ⊢
      rw [Function.update_self]
      exact ⟨positive, UInt64.le_trans later (UInt64.le_trans before order), UInt64.le_refl _⟩
    · rw [Function.update_of_ne same]
      exact ⟨seen, later, UInt64.le_trans before order⟩
  · rw [List.mem_singleton] at new
    subst new
    rw [metric, Function.update_self, time]
    exact ⟨positive, UInt64.le_refl _, UInt64.le_refl _⟩

/-- An alert that is accepted is logged behind the others. -/
theorem accept_logged (logged : Logged cooldown capacity session) (fits : cooldown.toNat * 1000 < 2 ^ 32)
    (request : AlertRequest) (now : UInt64) (runs : 0 < now ∧ session.clock ≤ now) :
    Logged cooldown capacity
      ⟨(monitoringAddAlert session.manager request now).2, session.accept request now, now⟩ := by
  rw [Session.accept]
  rcases monitoringAddAlert_cases session.manager request now with
    ⟨refused, unchanged⟩ | ⟨alert, made, cool, added⟩
  · rw [if_neg refused, unchanged]
    refine ⟨logged.valid, logged.configured, logged.size, logged.recent, logged.next, logged.numbered,
      logged.cooled, fun other member => ?_⟩
    obtain ⟨seen, later, before⟩ := logged.last other member
    exact ⟨seen, later, UInt64.le_trans before runs.2⟩
  · obtain ⟨identified, metric, time, fresh⟩ := alert_fields made
    rw [added, if_pos rfl, made, Option.toList_some]
    constructor
    · exact AlertStore.push_valid alert logged.valid
    · exact logged.configured
    · exact session.manager.alertStore.makePlace_other.1.trans logged.size
    · have stored := AlertStore.push_stored alert logged.valid
      have length := congrArg List.length logged.recent
      rw [List.length_map] at length
      dsimp only
      rw [stored, List.map_append, List.map_singleton, fresh, recent_push capacity
        (logged.size ▸ logged.valid.positive), ← logged.recent, List.length_map, logged.size]
      split
      · rw [List.map_tail]
      · rfl
    · show session.manager.alertStore.makePlace.nextAlertId + 1 = _
      rw [session.manager.alertStore.makePlace_other.2, logged.next, List.length_append,
        List.length_singleton]
      exact (UInt64.ofNat_add _ 1).symm
    · exact numbered_push logged (identified.trans logged.next)
    · rw [List.pairwise_append]
      refine ⟨logged.cooled, List.pairwise_singleton _ _, ?_⟩
      intro other member new here same
      rw [List.mem_singleton] at here
      subst here
      rw [time]
      exact cooled_apart logged fits cool runs.2 other member (same.trans metric)
    · exact last_push logged runs.1 runs.2 metric time

end Requests

section Updates

variable {cooldown : UInt32} {capacity : Nat} {session : Session}

/-- The manager with other alerts in its slots. -/
def Manager.withAlerts (manager : Manager) (alerts : List Alert) : Manager :=
  { manager with alertStore := { manager.alertStore with alerts := alerts } }

/-- No alert has the identifier, or the first one that has it is changed. -/
theorem changeAlert_cases (manager : Manager) (alertId : UInt64) (change : Alert → Alert) :
    ((∀ alert ∈ manager.alertStore.stored, alert.alertId ≠ alertId) ∧
      changeAlert manager alertId change = (-1, manager)) ∨
    (∃ index alert, manager.alertStore.stored[index]? = some alert ∧ alert.alertId = alertId ∧
      changeAlert manager alertId change =
        (0, manager.withAlerts (manager.alertStore.alerts.modify index change))) := by
  rw [changeAlert]
  cases found : manager.alertStore.stored.findIdx? (·.alertId = alertId) with
  | none =>
      refine .inl ⟨fun alert member => ?_, rfl⟩
      exact of_decide_eq_false (List.findIdx?_eq_none_iff.mp found alert member)
  | some index =>
      obtain ⟨inside, passes, -⟩ := List.findIdx?_eq_some_iff_getElem.mp found
      exact .inr ⟨index, _, List.getElem?_eq_getElem inside, of_decide_eq_true passes, rfl⟩

/-- What an update does to the alert with its identifier, if it has no NULL text. -/
def AlertUpdate.target (now : UInt64) : AlertUpdate → Option (UInt64 × (Alert → Alert))
  | .acknowledge alertId acknowledgedBy => acknowledgedBy.map fun text => (alertId, acknowledged now text)
  | .resolve alertId resolvedBy => resolvedBy.map fun text => (alertId, resolved now text)
  | .silence alertId => some (alertId, silenced)

theorem perform_of_target {update : AlertUpdate} {now alertId : UInt64} {change : Alert → Alert}
    (target : update.target now = some (alertId, change)) (manager : Manager) :
    update.perform manager now = changeAlert manager alertId change := by
  cases update with
  | acknowledge other text =>
      cases text with
      | none => cases target
      | some text =>
          cases target
          rfl
  | resolve other text =>
      cases text with
      | none => cases target
      | some text =>
          cases target
          rfl
  | silence other =>
      cases target
      rfl

theorem perform_of_null {update : AlertUpdate} {now : UInt64} (null : update.target now = none)
    (manager : Manager) : update.perform manager now = (-1, manager) := by
  cases update with
  | acknowledge alertId text => cases text <;> first | rfl | cases null
  | resolve alertId text => cases text <;> first | rfl | cases null
  | silence alertId => cases null

/-- No update touches what an alert was added with. -/
theorem target_asAdded {update : AlertUpdate} {now alertId : UInt64} {change : Alert → Alert}
    (target : update.target now = some (alertId, change)) (alert : Alert) :
    (change alert).asAdded = alert.asAdded := by
  cases update with
  | acknowledge other text => cases text <;> cases target; rfl
  | resolve other text => cases text <;> cases target; rfl
  | silence other => cases target; rfl

/-- An update keeps the log. -/
theorem update_logged (logged : Logged cooldown capacity session) (update : AlertUpdate) (now : UInt64)
    (runs : 0 < now ∧ session.clock ≤ now) :
    Logged cooldown capacity ⟨(update.perform session.manager now).2, session.accepted, now⟩ := by
  have last : ∀ alert ∈ session.accepted, 0 < session.manager.lastAlertTime alert.metricType ∧
      alert.triggerTime ≤ session.manager.lastAlertTime alert.metricType ∧
        session.manager.lastAlertTime alert.metricType ≤ now := by
    intro alert member
    obtain ⟨seen, later, before⟩ := logged.last alert member
    exact ⟨seen, later, UInt64.le_trans before runs.2⟩
  have same : Logged cooldown capacity ⟨session.manager, session.accepted, now⟩ :=
    ⟨logged.valid, logged.configured, logged.size, logged.recent, logged.next, logged.numbered,
      logged.cooled, last⟩
  cases target : update.target now with
  | none =>
      rw [perform_of_null target]
      exact same
  | some pair =>
      obtain ⟨alertId, change⟩ := pair
      rw [perform_of_target target]
      rcases changeAlert_cases session.manager alertId change with ⟨-, unchanged⟩ | ⟨index, alert, -, -, changed⟩
      · rw [unchanged]
        exact same
      · rw [changed]
        refine ⟨⟨logged.valid.positive, ?_, logged.valid.bounded⟩, logged.configured, logged.size, ?_,
          logged.next, logged.numbered, logged.cooled, last⟩
        · exact (List.length_modify ..).trans logged.valid.slots
        · show ((session.manager.alertStore.alerts.modify index change).take _).map Alert.asAdded = _
          rw [List.take_modify, map_modify_of_unseen _ change Alert.asAdded (target_asAdded target)]
          exact logged.recent

end Updates

/-- The store holds the last accepted alerts, in the order of their identifiers,
and alerts of one metric keep the time to cool down. -/
structure BoundedAlertLog (cooldown : UInt32) (capacity : Nat) (session : Session) : Prop where
  bounded : session.manager.alertStore.count ≤ capacity
  recent : session.manager.alertStore.stored.map Alert.asAdded = recent capacity session.accepted
  increasing : (session.manager.alertStore.stored.map (·.alertId)).Pairwise (· < ·)
  unique : (session.accepted.map (·.alertId)).Pairwise (· < ·)
  cooled : session.accepted.Pairwise fun first second => first.metricType = second.metricType →
    first.triggerTime.toNat + cooldown.toNat * 1000 ≤ second.triggerTime.toNat

/-- An update changes exactly the alert with its identifier.
It fails without any change when there is none, or when its text is NULL. -/
def UpdatesOne (manager : Manager) (update : AlertUpdate) (now : UInt64) : Prop :=
  match update.target now with
  | none => update.perform manager now = (-1, manager)
  | some (alertId, change) =>
      ((∀ alert ∈ manager.alertStore.stored, alert.alertId ≠ alertId) →
        update.perform manager now = (-1, manager)) ∧
      ((∃ alert ∈ manager.alertStore.stored, alert.alertId = alertId) → ∃ alerts,
        update.perform manager now = (0, manager.withAlerts alerts) ∧
          (manager.withAlerts alerts).alertStore.stored = manager.alertStore.stored.map fun alert =>
            if alert.alertId = alertId then change alert else alert)

section Runs

variable {cooldown : UInt32} {capacity : Nat} {session : Session}

theorem accepted_increasing (logged : Logged cooldown capacity session)
    (few : session.accepted.length < 2 ^ 64) : (session.accepted.map (·.alertId)).Pairwise (· < ·) := by
  rw [List.pairwise_map, List.pairwise_iff_getElem]
  intro first second inside before order
  rw [logged.numbered first inside, logged.numbered second before, UInt64.lt_iff_toNat_lt,
    UInt64.toNat_ofNat', UInt64.toNat_ofNat', Nat.mod_eq_of_lt (by omega), Nat.mod_eq_of_lt (by omega)]
  omega

theorem stored_alertIds (logged : Logged cooldown capacity session) :
    session.manager.alertStore.stored.map (·.alertId) = (recent capacity session.accepted).map (·.alertId) := by
  rw [← logged.recent, List.map_map]
  rfl

theorem boundedAlertLog_of_logged (logged : Logged cooldown capacity session)
    (few : session.accepted.length < 2 ^ 64) : BoundedAlertLog cooldown capacity session := by
  have unique := accepted_increasing logged few
  refine ⟨logged.size ▸ logged.valid.bounded, logged.recent, ?_, unique, logged.cooled⟩
  rw [stored_alertIds logged]
  exact unique.sublist ((recent_sublist capacity session.accepted).map _)

/-- With increasing identifiers the first alert that has one is the only alert that has it. -/
theorem updatesOne_of_increasing (manager : Manager) (update : AlertUpdate) (now : UInt64)
    (increasing : (manager.alertStore.stored.map (·.alertId)).Pairwise (· < ·)) :
    UpdatesOne manager update now := by
  rw [UpdatesOne]
  cases target : update.target now with
  | none => exact perform_of_null target manager
  | some pair =>
      obtain ⟨alertId, change⟩ := pair
      dsimp only
      rw [perform_of_target target]
      rcases changeAlert_cases manager alertId change with ⟨absent, unchanged⟩ | ⟨index, alert, found, same, changed⟩
      · refine ⟨fun _ => unchanged, ?_⟩
        rintro ⟨alert, member, same⟩
        exact absurd same (absent alert member)
      · refine ⟨fun absent => absurd same (absent alert (List.mem_of_getElem? found)), fun _ => ?_⟩
        refine ⟨_, changed, ?_⟩
        show (manager.alertStore.alerts.modify index change).take _ = _
        rw [List.take_modify]
        show manager.alertStore.stored.modify index change = _
        apply List.ext_getElem?
        intro place
        rw [List.getElem?_modify, List.getElem?_map]
        by_cases here : index = place
        · subst here
          rw [found]
          show some (if index = index then change alert else alert) =
            some (if alert.alertId = alertId then change alert else alert)
          rw [if_pos rfl, if_pos same]
        · cases other : manager.alertStore.stored[place]? with
          | none => rfl
          | some entry =>
              have different : entry.alertId ≠ alertId := by
                intro equal
                have nodup := increasing.imp fun {first second} (less : first < second) => UInt64.ne_of_lt less
                have first : (manager.alertStore.stored.map (·.alertId))[index]? = some alertId := by
                  rw [List.getElem?_map, found, Option.map_some, same]
                have second : (manager.alertStore.stored.map (·.alertId))[place]? = some alertId := by
                  rw [List.getElem?_map, other, Option.map_some, equal]
                have inside := (List.getElem?_eq_some_iff.mp first).1
                exact here ((List.getElem?_inj inside nodup).mp (first.trans second.symm))
              show some (if index = place then change entry else entry) =
                some (if entry.alertId = alertId then change entry else entry)
              rw [if_neg here, if_neg different]

/-- With a time to cool down the clock ends before the identifiers do. -/
theorem accepted_lt (logged : Logged cooldown capacity session) (cools : 0 < cooldown) :
    session.accepted.length < 2 ^ 64 := by
  have gap : 1000 ≤ cooldown.toNat * 1000 := by
    have positive := UInt32.lt_iff_toNat_lt.mp cools
    rw [UInt32.toNat_zero] at positive
    omega
  have enough : ∀ length, 0 + (length - 1) * 1000 < 2 ^ 64 → length ≤ 2 ^ 64 / 1000 + 1 := by
    intro length short
    omega
  have few : ∀ metric : MetricType, (session.accepted.filter fun alert =>
      alert.metricType = metric).length ≤ 2 ^ 64 / 1000 + 1 := by
    intro metric
    have spaced : ((session.accepted.filter fun alert => alert.metricType = metric).map
        (·.triggerTime.toNat)).Pairwise fun first second => first + 1000 ≤ second := by
      rw [List.pairwise_map, List.pairwise_filter]
      refine logged.cooled.imp fun {first second} apart here there => ?_
      have far := apart ((of_decide_eq_true here).trans (of_decide_eq_true there).symm)
      omega
    by_cases none : session.accepted.filter (fun alert => alert.metricType = metric) = []
    · rw [none, List.length_nil]
      exact Nat.zero_le _
    · have short := spaced_length 1000 (2 ^ 64) 0 _ spaced (fun value member => by
        obtain ⟨alert, -, rfl⟩ := List.mem_map.mp member
        exact ⟨Nat.zero_le _, alert.triggerTime.toNat_lt⟩) (by rwa [ne_eq, List.map_eq_nil_iff])
      rw [List.length_map] at short
      exact enough _ short
  have total := length_le_kinds (·.metricType) session.accepted _ few
  have kinds : Fintype.card MetricType = 128 := Fintype.card_fin 128
  rw [kinds] at total
  exact Nat.lt_of_le_of_lt total (by decide)

theorem newSession_logged (cooldown : UInt32) (capacity : Nat) (positive : 0 < capacity)
    (lastAlertTime : MetricType → UInt64) :
    Logged cooldown capacity (newSession cooldown capacity lastAlertTime) where
  valid := ⟨positive, List.length_replicate, Nat.zero_le _⟩
  configured := rfl
  size := rfl
  recent := by simp [newSession, AlertStore.stored, Library.recent]
  next := rfl
  numbered _ inside := nomatch inside
  cooled := .nil
  last _ member := nomatch member

theorem step_logged (fits : cooldown.toNat * 1000 < 2 ^ 32) (session : Session) (input : AlertCall × UInt64)
    (logged : Logged cooldown capacity session) (runs : ClockRuns session input) :
    Logged cooldown capacity (alertMachine.step session input).1 := by
  obtain ⟨call, now⟩ := input
  cases call with
  | addAlert request => exact accept_logged logged fits request now runs
  | update update => exact update_logged logged update now runs

end Runs

/-- As long as the identifiers do not start again, the store is a bounded log with unique identifiers,
and every update changes exactly one alert. -/
theorem alertStore_bounded_log (cooldown : UInt32) (capacity : Nat) (positive : 0 < capacity)
    (fits : cooldown.toNat * 1000 < 2 ^ 32) (lastAlertTime : MetricType → UInt64)
    (calls : List (AlertCall × UInt64))
    (clock : alertMachine.Along ClockRuns (newSession cooldown capacity lastAlertTime) calls) :
    ∀ session ∈ alertMachine.states (newSession cooldown capacity lastAlertTime) calls,
      0 < cooldown ∨ session.accepted.length < 2 ^ 64 →
        BoundedAlertLog cooldown capacity session ∧
          ∀ update now, UpdatesOne session.manager update now := by
  intro session visited bound
  have logged := alertMachine.states_invariant ClockRuns (Logged cooldown capacity)
    (step_logged fits) _ calls (newSession_logged cooldown capacity positive lastAlertTime) clock session visited
  have few : session.accepted.length < 2 ^ 64 := bound.elim (accepted_lt logged) id
  have whole := boundedAlertLog_of_logged logged few
  exact ⟨whole, fun update now => updatesOne_of_increasing session.manager update now whole.increasing⟩

/-- Two alerts of the same metric, five minutes apart, and an update of the first one. -/
def twoAlerts : List (AlertCall × UInt64) :=
  [(.addAlert ⟨.warning, zeroAlert.metricType, some ['a'], some ['b'], some ['c'], 0, 0⟩, 1000),
    (.update (.acknowledge 1 (some ['d'])), 2000),
    (.addAlert ⟨.error, zeroAlert.metricType, some ['a'], some ['b'], some ['c'], 0, 0⟩, 301000)]

/-- All three calls succeed. -/
theorem alertStore_bounded_log_twoAlerts :
    (alertMachine.run (newSession 300 2 fun _ => 0) twoAlerts).2 = [0, 0, 0] ∧
      ∀ session ∈ alertMachine.states (newSession 300 2 fun _ => 0) twoAlerts,
        0 < (300 : UInt32) ∨ session.accepted.length < 2 ^ 64 →
          BoundedAlertLog 300 2 session ∧ ∀ update now, UpdatesOne session.manager update now :=
  ⟨by decide +kernel, alertStore_bounded_log 300 2 (by decide) (by decide) (fun _ => 0) twoAlerts
    ⟨by unfold ClockRuns; decide, by unfold ClockRuns; decide, by unfold ClockRuns; decide, trivial⟩⟩

section Wrapping

variable {cooldown : UInt32} {capacity : Nat} {session : Session}

/-- Behind the largest identifier comes the identifier zero. -/
theorem not_increasing_of_full (logged : Logged cooldown capacity session) (two : 2 ≤ capacity)
    (full : session.accepted.length = 2 ^ 64) :
    ¬ (session.manager.alertStore.stored.map (·.alertId)).Pairwise (· < ·) := by
  rw [stored_alertIds logged, List.pairwise_map, List.pairwise_iff_getElem]
  intro increasing
  have size := recent_length capacity session.accepted
  have less := increasing (min (2 ^ 64) capacity - 2) (min (2 ^ 64) capacity - 1) (by omega) (by omega) (by omega)
  simp only [recent, List.getElem_drop] at less
  rw [logged.numbered, logged.numbered] at less
  have before : session.accepted.length - capacity + (min (2 ^ 64) capacity - 2) + 1 = 2 ^ 64 - 1 := by omega
  have after : session.accepted.length - capacity + (min (2 ^ 64) capacity - 1) + 1 = 2 ^ 64 := by omega
  rw [before, after] at less
  exact absurd less (by decide)

/-- Without a time to cool down every request is accepted. -/
theorem accept_always (request : AlertRequest) (now : UInt64) (alert : UInt64 → Alert)
    (made : ∀ alertId, request.alert alertId now = some (alert alertId))
    (free : session.manager.alertCooldownSeconds = 0) :
    (alertMachine.step session (.addAlert request, now)).1.accepted.length = session.accepted.length + 1 ∧
      (alertMachine.step session (.addAlert request, now)).1.manager.alertCooldownSeconds = 0 := by
  have cool : session.manager.coolingDown request.metricType now = false := by
    rw [Manager.coolingDown, free, decide_eq_false_iff_not]
    exact fun both => absurd both.2 UInt64.not_lt_zero
  have added := made session.manager.alertStore.nextAlertId
  rcases monitoringAddAlert_cases session.manager request now with ⟨refused, -⟩ | ⟨entry, -, -, accepted⟩
  · rw [monitoringAddAlert, added] at refused
    dsimp only at refused
    rw [cool] at refused
    exact absurd rfl refused
  · show (session.accept request now).length = _ ∧
      (monitoringAddAlert session.manager request now).2.alertCooldownSeconds = 0
    rw [Session.accept, accepted, if_pos rfl, added, List.length_append]
    exact ⟨rfl, free⟩

theorem run_accept_always (session : Session) (request : AlertRequest) (now : UInt64) (alert : UInt64 → Alert)
    (made : ∀ alertId, request.alert alertId now = some (alert alertId)) (positive : 0 < now) (count : Nat)
    (free : session.manager.alertCooldownSeconds = 0) (early : session.clock ≤ now) :
    alertMachine.Along ClockRuns session (List.replicate count (.addAlert request, now)) ∧
      (alertMachine.run session (List.replicate count (.addAlert request, now))).1.accepted.length =
        session.accepted.length + count := by
  induction count generalizing session with
  | zero => exact ⟨trivial, rfl⟩
  | succ count ih =>
      obtain ⟨grown, still⟩ := accept_always request now alert made free
      obtain ⟨later, total⟩ := ih _ still (UInt64.le_refl now)
      rw [List.replicate_succ]
      refine ⟨⟨⟨positive, early⟩, later⟩, ?_⟩
      rw [Machine.run_cons]
      dsimp only
      rw [total, grown]
      omega

end Wrapping

/-- Without a time to cool down the identifiers of the store are not increasing after 2^64 alerts,
and an update with a NULL text fails although the alert is there. -/
theorem alertStore_not_always_increasing :
    (∃ calls, alertMachine.Along ClockRuns (newSession 0 1000 fun _ => 0) calls ∧
      ∃ session ∈ alertMachine.states (newSession 0 1000 fun _ => 0) calls,
        ¬ (session.manager.alertStore.stored.map (·.alertId)).Pairwise (· < ·)) ∧
    (alertMachine.run (newSession 0 1000 fun _ => 0)
      [(.addAlert ⟨.info, 0, some [], some [], some [], 0, 0⟩, 1), (.update (.acknowledge 1 none), 2)]).2 =
        [0, -1] := by
  refine ⟨⟨List.replicate (2 ^ 64) (.addAlert ⟨.info, 0, some [], some [], some [], 0, 0⟩, 1), ?_⟩, by decide +kernel⟩
  obtain ⟨clock, total⟩ := run_accept_always (newSession 0 1000 fun _ => 0)
    ⟨.info, 0, some [], some [], some [], 0, 0⟩ 1 _ (fun _ => rfl) (by decide) (2 ^ 64) rfl (by decide)
  refine ⟨clock, _, alertMachine.run_mem_states _ _, ?_⟩
  have logged := alertMachine.states_invariant ClockRuns (Logged 0 1000) (step_logged (by decide)) _ _
    (newSession_logged 0 1000 (by decide) fun _ => 0) clock _ (alertMachine.run_mem_states _ _)
  exact not_increasing_of_full logged (by decide) (total.trans (Nat.zero_add _))

/-- The crossing of a threshold that the manager has to report. -/
def AlertingManager.crossing (manager : AlertingManager) (metricType : MetricType) (value : UInt64) :
    Option Crossing :=
  if manager.enableAlerting then (manager.metrics metricType).crossing metricType value else none

/-- The check comes to its end. It adds an alert exactly when there is a crossing without an active alert of
its metric and level and outside of the time to cool down, and otherwise it only refreshes the active one. -/
structure RaisesAlert (manager : AlertingManager) (metricType : MetricType) (value : UInt64)
    (hostname : List Char) (now : UInt64) : Prop where
  returns : LockOp.Goes false (checkMetricThresholds manager metricType value hostname now).1
  quiet : manager.crossing metricType value = none →
    (checkMetricThresholds manager metricType value hostname now).2 = manager
  refreshes : ∀ crossing, manager.crossing metricType value = some crossing →
    ∀ before alert after, manager.alertStore.stored = before ++ alert :: after →
      (∀ other ∈ before, other.activeFor metricType crossing.level = false) →
      alert.activeFor metricType crossing.level = true →
      ∃ alerts, (checkMetricThresholds manager metricType value hostname now).2 =
          { manager with toManager := manager.toManager.withAlerts alerts } ∧
        (manager.toManager.withAlerts alerts).alertStore.stored =
          before ++ alert.refreshed value now :: after
  adds : ∀ crossing, manager.crossing metricType value = some crossing →
    (∀ alert ∈ manager.alertStore.stored, alert.activeFor metricType crossing.level = false) →
    manager.coolingDown metricType now = false →
    ∃ alert, alert.activeFor metricType crossing.level = true ∧ alert.actualValue = value ∧
      alert.triggerTime = now ∧
      (checkMetricThresholds manager metricType value hostname now).2.alertStore.stored =
        (if manager.alertStore.capacity ≤ manager.alertStore.stored.length then manager.alertStore.stored.tail
          else manager.alertStore.stored) ++ [alert]
  cools : ∀ crossing, manager.crossing metricType value = some crossing →
    (∀ alert ∈ manager.alertStore.stored, alert.activeFor metricType crossing.level = false) →
    manager.coolingDown metricType now = true →
    (checkMetricThresholds manager metricType value hostname now).2 = manager

/-- A crossing already has an active alert of its metric and level. -/
def AlertActive (manager : AlertingManager) (metricType : MetricType) (value : UInt64) : Prop :=
  ∀ crossing, manager.crossing metricType value = some crossing →
    ∃ alert ∈ manager.alertStore.stored, alert.activeFor metricType crossing.level = true

section Check

variable {manager : AlertingManager} {metricType : MetricType} {value : UInt64} (hostname : List Char)
  (now : UInt64)

theorem checkMetricThresholds_quiet (none : manager.crossing metricType value = none) :
    checkMetricThresholds manager metricType value hostname now = ([], manager) := by
  unfold AlertingManager.crossing at none
  unfold checkMetricThresholds
  split_ifs with off
  · rfl
  · rw [if_pos (by simpa using off)] at none
    dsimp only
    rw [none]

theorem checkMetricThresholds_crossing {crossing : Crossing}
    (crossed : manager.crossing metricType value = some crossing) :
    checkMetricThresholds manager metricType value hostname now =
      match manager.alertStore.stored.findIdx? (Alert.activeFor metricType crossing.level) with
      | some index =>
          ([.lock, .unlock], { manager with alertStore := { manager.alertStore with
            alerts := manager.alertStore.alerts.modify index (Alert.refreshed value now) } })
      | none =>
          ([.lock, .lock, .unlock, .unlock],
            { manager with toManager := (monitoringAddAlert manager.toManager
              (crossing.request (manager.metrics metricType) metricType hostname value) now).2 }) := by
  unfold AlertingManager.crossing at crossed
  unfold checkMetricThresholds
  split_ifs at crossed with on
  · rw [if_neg (by simp [on])]
    dsimp only
    rw [crossed]
    rfl

/-- The store has no active alert, so that the alert is added with the mutex held. -/
theorem checkMetricThresholds_blocks {crossing : Crossing}
    (crossed : manager.crossing metricType value = some crossing)
    (inactive : ∀ alert ∈ manager.alertStore.stored, alert.activeFor metricType crossing.level = false) :
    ¬LockOp.Goes false (checkMetricThresholds manager metricType value hostname now).1 := by
  rw [checkMetricThresholds_crossing hostname now crossed, List.findIdx?_eq_none_iff.mpr inactive]
  exact fun goes => goes rfl

/-- The first active alert takes the value and the time. -/
theorem checkMetricThresholds_refreshes {crossing : Crossing}
    (crossed : manager.crossing metricType value = some crossing) {before after : List Alert} {alert : Alert}
    (split : manager.alertStore.stored = before ++ alert :: after)
    (first : ∀ other ∈ before, other.activeFor metricType crossing.level = false)
    (active : alert.activeFor metricType crossing.level = true) :
    (checkMetricThresholds manager metricType value hostname now).1 = [.lock, .unlock] ∧
      ∃ alerts, (checkMetricThresholds manager metricType value hostname now).2 =
          { manager with toManager := manager.toManager.withAlerts alerts } ∧
        (manager.toManager.withAlerts alerts).alertStore.stored =
          before ++ alert.refreshed value now :: after := by
  have found : manager.alertStore.stored.findIdx? (Alert.activeFor metricType crossing.level) =
      some before.length := by
    rw [split, List.findIdx?_append, List.findIdx?_eq_none_iff.mpr first, List.findIdx?_cons, active]
    simp
  rw [checkMetricThresholds_crossing hostname now crossed, found]
  refine ⟨rfl, _, rfl, ?_⟩
  show (manager.alertStore.alerts.modify before.length (Alert.refreshed value now)).take manager.alertStore.count = _
  have stored : manager.alertStore.alerts.take manager.alertStore.count = before ++ alert :: after := split
  rw [List.take_modify, stored, modify_middle]

/-- A list that is searched has a first element that passes, or none does. -/
theorem exists_first {alerts : List Alert} {passes : Alert → Bool} (some : ∃ alert ∈ alerts, passes alert = true) :
    ∃ before alert after, alerts = before ++ alert :: after ∧ (∀ other ∈ before, passes other = false) ∧
      passes alert = true := by
  induction alerts with
  | nil => simp at some
  | cons head tail ih =>
      by_cases here : passes head = true
      · exact ⟨[], head, tail, rfl, by simp, here⟩
      · have later : ∃ alert ∈ tail, passes alert = true := by simpa [here] using some
        obtain ⟨before, alert, after, split, first, active⟩ := ih later
        refine ⟨head :: before, alert, after, by rw [split]; rfl, ?_, active⟩
        simpa [here] using first

/-- The check does what it should exactly when it has no alert to add: the mutex that it holds is the one that
`monitoring_add_alert` waits for. -/
theorem checkMetricThresholds_iff :
    RaisesAlert manager metricType value hostname now ↔ AlertActive manager metricType value := by
  constructor
  · intro raises crossing crossed
    by_contra inactive
    push Not at inactive
    refine checkMetricThresholds_blocks hostname now crossed (fun alert member => ?_) raises.returns
    exact Bool.eq_false_of_not_eq_true (inactive alert member)
  · intro active
    refine ⟨?_, fun none => by rw [checkMetricThresholds_quiet hostname now none], ?_, ?_, ?_⟩
    · cases crossed : manager.crossing metricType value with
      | none =>
          rw [checkMetricThresholds_quiet hostname now crossed]
          exact nofun
      | some crossing =>
          obtain ⟨before, alert, after, split, first, here⟩ := exists_first (active crossing crossed)
          rw [(checkMetricThresholds_refreshes hostname now crossed split first here).1]
          exact nofun
    · intro crossing crossed before alert after split first here
      exact (checkMetricThresholds_refreshes hostname now crossed split first here).2
    · intro crossing crossed inactive
      obtain ⟨alert, member, here⟩ := active crossing crossed
      exact absurd here (by simp [inactive alert member])
    · intro crossing crossed inactive
      obtain ⟨alert, member, here⟩ := active crossing crossed
      exact absurd here (by simp [inactive alert member])

end Check

section Example

/-- A manager without alerts that watches one metric, which warns at 80 and reports an error at 90. -/
def watchedManager : AlertingManager where
  alertCooldownSeconds := 300
  alertStore := ⟨List.replicate 4 zeroAlert, 4, 0, 1⟩
  totalAlertsTriggered := 0
  lastAlertTime := fun _ => 0
  enableAlerting := true
  metrics := fun _ => ⟨"cpu_usage".toList, ['%'], "CPU".toList, 0x4054000000000000, 0x4056800000000000⟩

/-- The first value of 95 finds an empty store, and the check waits for itself. -/
theorem checkMetricThresholds_firstAlert :
    watchedManager.crossing 0 0x4057C00000000000 ≠ none ∧ watchedManager.alertStore.stored = [] ∧
      watchedManager.coolingDown 0 1000 = false ∧
      ¬LockOp.Goes false (checkMetricThresholds watchedManager 0 0x4057C00000000000 [] 1000).1 := by
  refine ⟨by decide +kernel, by decide +kernel, by decide +kernel, ?_⟩
  have locks : (checkMetricThresholds watchedManager 0 0x4057C00000000000 [] 1000).1 =
      [.lock, .lock, .unlock, .unlock] := by decide +kernel
  rw [locks]
  exact fun goes => goes rfl

end Example

end SecureChat.Monitoring
