/-
This file holds the alert store of the monitoring manager.
-/

import SecureChat.Library.BoundedLog
import SecureChat.Library.Doubles
import SecureChat.Library.Machine
import SecureChat.Library.Threads
import SecureChat.Library.Text

namespace SecureChat.Monitoring
open Library

/-- The metrics that have a place in the arrays of the manager. -/
abbrev MetricType : Type := Fin 128

inductive AlertLevel where
  | info | warning | error | critical | emergency
  deriving DecidableEq, Repr

inductive AlertStatus where
  | active | acknowledged | resolved | silenced
  deriving DecidableEq, Repr

/-- The two doubles are kept as their bits. -/
structure Alert where
  alertId : UInt64
  level : AlertLevel
  status : AlertStatus
  metricType : MetricType
  title : List Char
  message : List Char
  source : List Char
  threshold : UInt64
  actualValue : UInt64
  triggerTime : UInt64
  acknowledgeTime : UInt64
  resolveTime : UInt64
  acknowledgedBy : List Char
  resolveBy : List Char
  deriving DecidableEq, Repr

/-- A slot of the array as `calloc` leaves it. -/
def zeroAlert : Alert := ⟨0, .info, .active, 0, [], [], [], 0, 0, 0, 0, 0, [], []⟩

structure AlertStore where
  alerts : List Alert
  capacity : Nat
  count : Nat
  nextAlertId : UInt64
  deriving DecidableEq, Repr

/-- The alerts in the slots that are in use. -/
def AlertStore.stored (store : AlertStore) : List Alert := store.alerts.take store.count

/-- The static array of the times belongs to the manager here. -/
structure Manager where
  alertCooldownSeconds : UInt32
  alertStore : AlertStore
  totalAlertsTriggered : UInt64
  lastAlertTime : MetricType → UInt64

/-- The arguments of `monitoring_add_alert`. A text may be NULL. -/
structure AlertRequest where
  level : AlertLevel
  metricType : MetricType
  title : Option (List Char)
  message : Option (List Char)
  source : Option (List Char)
  threshold : UInt64
  actualValue : UInt64
  deriving DecidableEq, Repr

/-- The alert of a request without a NULL text. -/
def AlertRequest.alert (request : AlertRequest) (alertId now : UInt64) : Option Alert :=
  match request.title, request.message, request.source with
  | some title, some message, some source => some {
      alertId := alertId
      level := request.level
      status := .active
      metricType := request.metricType
      title := cutTo 128 title
      message := cutTo 512 message
      source := cutTo 64 source
      threshold := request.threshold
      actualValue := request.actualValue
      triggerTime := now
      acknowledgeTime := 0
      resolveTime := 0
      acknowledgedBy := []
      resolveBy := [] }
  | _, _, _ => none

/-- The oldest alert makes place when the store is full. -/
def AlertStore.makePlace (store : AlertStore) : AlertStore :=
  if store.count ≥ store.capacity then
    { store with alerts := shiftDown store.alerts store.count, count := store.count - 1 }
  else store

def AlertStore.append (store : AlertStore) (alert : Alert) : AlertStore :=
  { store with
    alerts := store.alerts.set store.count alert
    nextAlertId := store.nextAlertId + 1
    count := store.count + 1 }

/-- The metric had an alert a moment ago. -/
def Manager.coolingDown (manager : Manager) (metricType : MetricType) (now : UInt64) : Bool :=
  manager.lastAlertTime metricType > 0 ∧
    now - manager.lastAlertTime metricType < (manager.alertCooldownSeconds * 1000).toUInt64

def monitoringAddAlert (manager : Manager) (request : AlertRequest) (now : UInt64) : Int × Manager :=
  match request.alert manager.alertStore.nextAlertId now with
  | none => (-1, manager)
  | some alert =>
      if manager.coolingDown request.metricType now then (-2, manager)
      else
        (0, { manager with
          alertStore := manager.alertStore.makePlace.append alert
          totalAlertsTriggered := manager.totalAlertsTriggered + 1
          lastAlertTime := Function.update manager.lastAlertTime request.metricType now })

/-- The first alert with the identifier is changed. -/
def changeAlert (manager : Manager) (alertId : UInt64) (change : Alert → Alert) : Int × Manager :=
  match manager.alertStore.stored.findIdx? (·.alertId = alertId) with
  | none => (-1, manager)
  | some index =>
      (0, { manager with alertStore := { manager.alertStore with
        alerts := manager.alertStore.alerts.modify index change } })

def acknowledged (now : UInt64) (acknowledgedBy : List Char) (alert : Alert) : Alert :=
  { alert with
    status := .acknowledged
    acknowledgeTime := now
    acknowledgedBy := cutTo 64 acknowledgedBy }

def resolved (now : UInt64) (resolvedBy : List Char) (alert : Alert) : Alert :=
  { alert with
    status := .resolved
    resolveTime := now
    resolveBy := cutTo 64 resolvedBy }

/-- The end of the silence is not kept. -/
def silenced (alert : Alert) : Alert := { alert with status := .silenced }

def monitoringAcknowledgeAlert (manager : Manager) (alertId : UInt64) (acknowledgedBy : Option (List Char))
    (now : UInt64) : Int × Manager :=
  match acknowledgedBy with
  | none => (-1, manager)
  | some acknowledgedBy => changeAlert manager alertId (acknowledged now acknowledgedBy)

def monitoringResolveAlert (manager : Manager) (alertId : UInt64) (resolvedBy : Option (List Char))
    (now : UInt64) : Int × Manager :=
  match resolvedBy with
  | none => (-1, manager)
  | some resolvedBy => changeAlert manager alertId (resolved now resolvedBy)

def monitoringSilenceAlert (manager : Manager) (alertId : UInt64) : Int × Manager :=
  changeAlert manager alertId silenced

/-- A call that changes an alert. -/
inductive AlertUpdate where
  | acknowledge (alertId : UInt64) (acknowledgedBy : Option (List Char))
  | resolve (alertId : UInt64) (resolvedBy : Option (List Char))
  | silence (alertId : UInt64)
  deriving DecidableEq, Repr

inductive AlertCall where
  | addAlert (request : AlertRequest)
  | update (update : AlertUpdate)
  deriving DecidableEq, Repr

def AlertUpdate.perform (manager : Manager) (now : UInt64) : AlertUpdate → Int × Manager
  | .acknowledge alertId acknowledgedBy => monitoringAcknowledgeAlert manager alertId acknowledgedBy now
  | .resolve alertId resolvedBy => monitoringResolveAlert manager alertId resolvedBy now
  | .silence alertId => monitoringSilenceAlert manager alertId

/-- A manager with the alerts that it has accepted so far and the last time that was read. -/
structure Session where
  manager : Manager
  accepted : List Alert
  clock : UInt64

/-- What a call with the time of its clock adds to the accepted alerts. -/
def Session.accept (session : Session) (request : AlertRequest) (now : UInt64) : List Alert :=
  if (monitoringAddAlert session.manager request now).1 = 0 then
    session.accepted ++ (request.alert session.manager.alertStore.nextAlertId now).toList
  else session.accepted

def alertMachine : Machine Session (AlertCall × UInt64) Int where
  step session input :=
    match input.1 with
    | .addAlert request =>
        (⟨(monitoringAddAlert session.manager request input.2).2, session.accept request input.2, input.2⟩,
          [(monitoringAddAlert session.manager request input.2).1])
    | .update update =>
        (⟨(update.perform session.manager input.2).2, session.accepted, input.2⟩,
          [(update.perform session.manager input.2).1])

/-- A new manager, in a process that may have had others. -/
def newSession (alertCooldownSeconds : UInt32) (capacity : Nat) (lastAlertTime : MetricType → UInt64) : Session where
  manager := {
    alertCooldownSeconds := alertCooldownSeconds
    alertStore := ⟨List.replicate capacity zeroAlert, capacity, 0, 1⟩
    totalAlertsTriggered := 0
    lastAlertTime := lastAlertTime }
  accepted := []
  clock := 0

def metricErrorRate : MetricType := 10

/-- The fields of `metric_t` that the check of the thresholds reads. -/
structure Metric where
  name : List Char
  unit : List Char
  description : List Char
  warningThreshold : UInt64
  errorThreshold : UInt64
  deriving DecidableEq, Repr

/-- A manager with its metrics and the switch of its configuration. -/
structure AlertingManager extends Manager where
  enableAlerting : Bool
  metrics : MetricType → Metric

/-- The level that a value calls for, and what `snprintf` leaves in the buffers of the two texts. -/
structure Crossing where
  level : AlertLevel
  title : List Char
  message : List Char
  deriving DecidableEq, Repr

def Metric.overThreshold (metric : Metric) (level : AlertLevel) (title label : String)
    (threshold value : UInt64) : Crossing where
  level := level
  title := cutTo 128 (metric.name ++ utf8Chars title)
  message := cutTo 512 (metric.description ++ utf8Chars "当前值: " ++ twoDecimals value ++ metric.unit ++
    utf8Chars label ++ twoDecimals threshold ++ metric.unit)

def Metric.tooLow (metric : Metric) (value : UInt64) : Crossing where
  level := .warning
  title := cutTo 128 (metric.name ++ utf8Chars "异常低")
  message := cutTo 512 (metric.description ++ utf8Chars "当前值: " ++ twoDecimals value ++ metric.unit ++
    utf8Chars ", 预期正常范围")

/-- A threshold that is not positive does not count. -/
def Metric.crossing (metric : Metric) (metricType : MetricType) (value : UInt64) : Option Crossing :=
  if doubleLess 0 metric.errorThreshold && doubleLe metric.errorThreshold value then
    some (metric.overThreshold .error "超过错误阈值" ", 错误阈值: " metric.errorThreshold value)
  else if doubleLess 0 metric.warningThreshold && doubleLe metric.warningThreshold value then
    some (metric.overThreshold .warning "超过警告阈值" ", 警告阈值: " metric.warningThreshold value)
  else if doubleLe value 0 && metricType ≠ metricErrorRate then some (metric.tooLow value)
  else none

/-- The alert that the search of the store looks for. -/
def Alert.activeFor (metricType : MetricType) (level : AlertLevel) (alert : Alert) : Bool :=
  alert.metricType = metricType ∧ alert.status = .active ∧ alert.level = level

def Alert.refreshed (value now : UInt64) (alert : Alert) : Alert :=
  { alert with
    actualValue := value
    triggerTime := now }

def Crossing.request (crossing : Crossing) (metric : Metric) (metricType : MetricType) (hostname : List Char)
    (value : UInt64) : AlertRequest where
  level := crossing.level
  metricType := metricType
  title := some crossing.title
  message := some crossing.message
  source := some hostname
  threshold := if crossing.level = .error then metric.errorThreshold else metric.warningThreshold
  actualValue := value

/-- What `monitoring_add_alert` does with `alert_mutex`. A NULL text is turned away in front of it. -/
def AlertRequest.ops (request : AlertRequest) : List LockOp :=
  if request.title.isSome && request.message.isSome && request.source.isSome then [.lock, .unlock] else []

/-- What the check does with `alert_mutex`, and the manager that it leaves if it comes to its end. -/
def checkMetricThresholds (manager : AlertingManager) (metricType : MetricType) (value : UInt64)
    (hostname : List Char) (now : UInt64) : List LockOp × AlertingManager :=
  if !manager.enableAlerting then ([], manager)
  else
    let metric := manager.metrics metricType
    match metric.crossing metricType value with
    | none => ([], manager)
    | some crossing =>
        match manager.alertStore.stored.findIdx? (Alert.activeFor metricType crossing.level) with
        | some index =>
            ([.lock, .unlock], { manager with alertStore := { manager.alertStore with
              alerts := manager.alertStore.alerts.modify index (Alert.refreshed value now) } })
        | none =>
            -- The alert is added with the mutex held.
            let request := crossing.request metric metricType hostname value
            (.lock :: (request.ops ++ [.unlock]),
              { manager with toManager := (monitoringAddAlert manager.toManager request now).2 })

end SecureChat.Monitoring
