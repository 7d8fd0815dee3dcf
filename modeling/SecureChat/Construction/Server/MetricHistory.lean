/-
This file keeps the history of a metric in a circular buffer.
-/

import SecureChat.Library.Machine

namespace SecureChat.Monitoring
open Library

structure MetricDataPoint where
  timestamp : UInt64
  value : Float
  minValue : Float
  maxValue : Float
  avgValue : Float
  sampleCount : UInt32

/-- A point of the array as `calloc` leaves it. -/
def zeroPoint : MetricDataPoint := ⟨0, 0, 0, 0, 0, 0⟩

/-- The source has an end index as well and never moves it. -/
structure MetricHistory where
  points : List MetricDataPoint
  capacity : UInt32
  count : UInt32
  startIndex : UInt32

/-- The fields of `metric_t` that follow the values. -/
structure MetricStatistics where
  currentValue : Float
  lastValue : Float
  minValue : Float
  maxValue : Float
  avgValue : Float
  updateCount : UInt64
  lastUpdate : UInt64
  trend : UInt8

structure MetricRecord where
  history : MetricHistory
  metric : MetricStatistics

namespace MetricHistory

/-- The place of a point, counted from the oldest one. The sum has 32 bits. -/
def slot (history : MetricHistory) (index : UInt32) : UInt32 := (history.startIndex + index) % history.capacity

/-- The points in the order in which the loops visit them. -/
def visited (history : MetricHistory) : List MetricDataPoint :=
  (List.range history.count.toNat).map fun index =>
    history.points.getD (history.slot (UInt32.ofNat index)).toNat zeroPoint

end MetricHistory

/-- The tolerance of a second. `abs` takes an `int`, so that the difference loses its upper half. -/
def sameSecond (timestamp other : UInt64) : Bool := (timestamp - other).toUInt32.toInt32.abs < 1000

def newPoint (timestamp : UInt64) (value : Float) : MetricDataPoint :=
  ⟨timestamp, value, value, value, value, 1⟩

def MetricDataPoint.merge (point : MetricDataPoint) (value : Float) : MetricDataPoint :=
  let total := point.avgValue * Float.ofNat point.sampleCount.toNat
  { point with
    minValue := if point.minValue < value then point.minValue else value
    maxValue := if point.maxValue > value then point.maxValue else value
    sampleCount := point.sampleCount + 1
    avgValue := (total + value) / Float.ofNat (point.sampleCount + 1).toNat
    value := value }

/-- The oldest point makes place when the history is full. -/
def MetricHistory.makePlace (history : MetricHistory) : MetricHistory :=
  if history.count ≥ history.capacity then
    { history with
      startIndex := (history.startIndex + 1) % history.capacity
      count := history.count - 1 }
  else history

def MetricHistory.append (history : MetricHistory) (point : MetricDataPoint) : MetricHistory :=
  { history with
    points := history.points.set (history.slot history.count).toNat point
    count := history.count + 1 }

def MetricHistory.update (history : MetricHistory) (timestamp : UInt64) (value : Float) : MetricHistory :=
  match history.visited.findIdx? fun point => sameSecond timestamp point.timestamp with
  | some index =>
      { history with points :=
        history.points.modify (history.slot (UInt32.ofNat index)).toNat fun point => point.merge value }
  | none => history.makePlace.append (newPoint timestamp value)

def MetricStatistics.update (metric : MetricStatistics) (timestamp : UInt64) (value : Float) :
    MetricStatistics :=
  let lastValue := metric.currentValue
  let first := metric.updateCount = 0
  { currentValue := value
    lastValue := lastValue
    minValue := if first then value else if metric.minValue < value then metric.minValue else value
    maxValue := if first then value else if metric.maxValue > value then metric.maxValue else value
    avgValue :=
      if first then value
      else (metric.avgValue * Float.ofNat metric.updateCount.toNat + value) /
        Float.ofNat (metric.updateCount + 1).toNat
    updateCount := metric.updateCount + 1
    lastUpdate := timestamp
    trend :=
      if metric.updateCount + 1 ≤ 1 then metric.trend
      else if value > lastValue + lastValue * 0.05 then 1
      else if value < lastValue - lastValue * 0.05 then 2
      else 0 }

def MetricDataPoint.within (startTime endTime : UInt64) (point : MetricDataPoint) : Bool :=
  point.timestamp ≥ startTime ∧ point.timestamp ≤ endTime

/-- The matching points are counted and then copied to an array of their number. -/
def monitoringGetHistory (history : MetricHistory) (startTime endTime : UInt64) (mallocOk : Bool) :
    Int × List MetricDataPoint :=
  let found := history.visited.filter (MetricDataPoint.within startTime endTime)
  if history.count = 0 then (0, [])
  else if found.length = 0 then (0, [])
  else if !mallocOk then (-1, [])
  else (0, found)

/-- A time series that is told the samples: the time of each of its points, and the number of its samples. -/
abbrev Series := List (Nat × Nat)

/-- A point takes the samples of less than a second before it or behind it. -/
def near (time : Nat) (point : Nat × Nat) : Bool := time < point.1 + 1000 ∧ point.1 < time + 1000

/-- Other samples begin a new last point, for which the oldest one goes if the series is full. -/
def Series.update (capacity : Nat) (series : Series) (time : Nat) : Series :=
  match series.findIdx? (near time) with
  | some index => series.modify index fun point => (point.1, point.2 + 1)
  | none => (if capacity ≤ series.length then series.tail else series) ++ [(time, 1)]

end SecureChat.Monitoring
