import SecureChat.Construction.Server.MetricHistory
import SecureChat.Library.MachineInt
import SecureChat.Library.Records
import SecureChat.Library.Ring

namespace SecureChat.Monitoring
open Library

/-- The points from the oldest one on, across the end of the array if need be. -/
def MetricHistory.retained (history : MetricHistory) : List MetricDataPoint :=
  (history.points.rotate history.startIndex.toNat).take history.count.toNat

/-- The time of a point and the number of its samples. -/
def MetricDataPoint.shown (point : MetricDataPoint) : Nat × Nat := (point.timestamp.toNat, point.sampleCount.toNat)

/-- The array holds the points from the start index on. -/
structure KeepsPoints (history : MetricHistory) (content : List MetricDataPoint) : Prop where
  sized : history.points.length = history.capacity.toNat
  counted : history.count.toNat = content.length
  ring : Ring history.points ((history.startIndex.toNat + content.length) % history.points.length)
    history.startIndex.toNat content

namespace KeepsPoints

variable {history : MetricHistory} {content : List MetricDataPoint}

theorem retained (keeps : KeepsPoints history content) : history.retained = content := by
  rw [MetricHistory.retained, keeps.counted, keeps.ring.held]

theorem slot (keeps : KeepsPoints history content) {index : Nat}
    (fits : history.startIndex.toNat + index < 2 ^ 32) :
    (history.slot (UInt32.ofNat index)).toNat = (history.startIndex.toNat + index) % history.points.length := by
  have small : index % 2 ^ 32 = index := Nat.mod_eq_of_lt (by omega)
  rw [MetricHistory.slot, UInt32.toNat_mod, UInt32.toNat_add, UInt32.toNat_ofNat', small,
    Nat.mod_eq_of_lt fits, keeps.sized]

/-- The loops visit the points in order as long as the sum of the indices has 32 bits. -/
theorem visited (keeps : KeepsPoints history content)
    (fits : history.startIndex.toNat + history.count.toNat ≤ 2 ^ 32) : history.visited = content := by
  have counted := keeps.counted
  unfold MetricHistory.visited
  refine List.ext_getElem (by simp [counted]) fun index short inside => ?_
  rw [List.getElem_map, List.getElem_range, keeps.slot (by omega), List.getD_eq_getElem?_getD,
    keeps.ring.getElem? index inside, List.getElem?_eq_getElem inside]
  rfl

theorem merge (keeps : KeepsPoints history content) {index : Nat} (inside : index < content.length)
    (fits : history.startIndex.toNat + history.count.toNat ≤ 2 ^ 32)
    (change : MetricDataPoint → MetricDataPoint) :
    KeepsPoints { history with points := history.points.modify (history.slot (UInt32.ofNat index)).toNat change }
      (content.modify index change) := by
  have counted := keeps.counted
  have measured : (content.modify index change).length = content.length := List.length_modify ..
  have changed := keeps.ring.modify index inside change
  rw [← keeps.slot (by omega)] at changed
  refine ⟨(List.length_modify ..).trans keeps.sized, counted.trans measured.symm, ?_⟩
  dsimp only
  rwa [measured, List.length_modify]

theorem positive (keeps : KeepsPoints history content) : 0 < history.capacity.toNat := by
  rw [← keeps.sized]
  exact Nat.zero_lt_of_lt keeps.ring.first

theorem within (keeps : KeepsPoints history content) : content.length ≤ history.capacity.toNat := by
  rw [← keeps.sized]
  exact keeps.ring.within

/-- There is room for another point. -/
theorem makePlace (keeps : KeepsPoints history content) :
    history.makePlace.capacity = history.capacity ∧
      (if history.capacity.toNat ≤ content.length then content.tail else content).length < history.capacity.toNat ∧
      KeepsPoints history.makePlace
        (if history.capacity.toNat ≤ content.length then content.tail else content) := by
  have counted := keeps.counted
  have positive := keeps.positive
  have within := keeps.within
  unfold MetricHistory.makePlace
  simp only [ge_iff_le, UInt32.le_iff_toNat_le, counted]
  split
  · rename_i full
    have one : (1 : UInt32) ≤ history.count := UInt32.le_iff_toNat_le.mpr (by rw [counted]; exact Nat.le_trans positive full)
    have advanced := keeps.ring.advance 1 (by omega)
    have start : ((history.startIndex + 1) % history.capacity).toNat =
        (history.startIndex.toNat + 1) % history.points.length := by
      have first := keeps.ring.first
      have bound := history.capacity.toNat_lt
      have sized := keeps.sized
      rw [UInt32.toNat_mod, increment32 _ (by omega), sized]
    refine ⟨rfl, by rw [List.length_tail]; omega, keeps.sized, ?_, ?_⟩
    · dsimp only
      rw [UInt32.toNat_sub_of_le _ _ one, counted, List.length_tail]
      rfl
    · dsimp only
      rw [start, List.length_tail, ← List.drop_one]
      have behind := advanced.behind
      rw [List.length_drop] at behind
      rwa [← behind]
  · exact ⟨rfl, by omega, keeps⟩

theorem append_count (keeps : KeepsPoints history content) (room : content.length < history.capacity.toNat)
    (point : MetricDataPoint) : (history.append point).count.toNat = content.length + 1 := by
  have bound := history.capacity.toNat_lt
  have counted := keeps.counted
  show (history.count + 1).toNat = _
  rw [increment32 _ (by omega), counted]

theorem append (keeps : KeepsPoints history content) (room : content.length < history.capacity.toNat)
    (fits : history.startIndex.toNat + content.length < 2 ^ 32) (point : MetricDataPoint) :
    KeepsPoints (history.append point) (content ++ [point]) := by
  have place : (history.slot history.count).toNat =
      (history.startIndex.toNat + content.length) % history.points.length := by
    rw [← keeps.slot fits, ← keeps.counted, UInt32.ofNat_toNat]
  have pushed := keeps.ring.push (by rw [keeps.sized]; exact room) point
  rw [Nat.mod_add_mod] at pushed
  refine ⟨(List.length_set ..).trans keeps.sized, ?_, ?_⟩
  · rw [keeps.append_count room, List.length_append]
    rfl
  · rw [MetricHistory.append, place, List.length_set, List.length_append, List.length_singleton, ← Nat.add_assoc]
    exact pushed

end KeepsPoints

section Points

/-- The points of a series are a second apart, and none is later than the clock. -/
structure Series.Spaced (series : Series) (clock : Nat) : Prop where
  apart : (series.map Prod.fst).Pairwise fun first second => first + 1000 ≤ second
  past : ∀ point ∈ series, point.1 ≤ clock

variable {series : Series} {clock time : Nat}

theorem near_iff {point : Nat × Nat} (past : point.1 ≤ time) : near time point = true ↔ time - point.1 < 1000 := by
  unfold near
  rw [decide_eq_true_iff]
  omega

/-- A series whose points are a second apart stays so. -/
theorem Series.Spaced.update (spaced : series.Spaced clock) (later : clock ≤ time) (capacity : Nat) :
    (series.update capacity time).Spaced time := by
  have past (point : Nat × Nat) (member : point ∈ series) : point.1 ≤ time :=
    Nat.le_trans (spaced.past point member) later
  unfold Series.update
  split
  · rename_i index found
    have same : (series.modify index fun point => (point.1, point.2 + 1)).map Prod.fst = series.map Prod.fst :=
      map_modify_of_unseen series (fun point => (point.1, point.2 + 1)) Prod.fst (fun _ => rfl) index
    refine ⟨by rw [same]; exact spaced.apart, fun point member => ?_⟩
    have shown := List.mem_map_of_mem (f := Prod.fst) member
    rw [same, List.mem_map] at shown
    obtain ⟨old, here, equal⟩ := shown
    rw [← equal]
    exact past old here
  · rename_i none
    have kept : (if capacity ≤ series.length then series.tail else series) <:+ series := by
      split
      · exact List.tail_suffix series
      · exact List.suffix_rfl
    have older (point : Nat × Nat) (member : point ∈ series) : point.1 + 1000 ≤ time := by
      have far := List.findIdx?_eq_none_iff.mp none point member
      have bound := past point member
      rw [← Bool.not_eq_true, near_iff bound] at far
      omega
    refine ⟨?_, fun point member => ?_⟩
    · rw [List.map_append, List.pairwise_append]
      refine ⟨spaced.apart.sublist (kept.sublist.map Prod.fst), List.pairwise_singleton _ _, ?_⟩
      intro first member second new
      obtain ⟨point, here, rfl⟩ := List.mem_map.mp member
      rw [List.map_singleton, List.mem_singleton] at new
      rw [new]
      exact older point (kept.subset here)
    · rw [List.mem_append, List.mem_singleton] at member
      rcases member with old | rfl
      · exact past point (kept.subset old)
      · exact Nat.le_refl _

end Points

/-- The history is the series, in strictly increasing order of the times, and a question for a range of times
is answered with the points in it. -/
structure FaithfulHistory (history : MetricHistory) (series : Series) : Prop where
  bounded : history.count ≤ history.capacity
  same : history.retained.map MetricDataPoint.shown = series
  increasing : (history.retained.map MetricDataPoint.timestamp).Pairwise (· < ·)
  answered : ∀ startTime endTime, monitoringGetHistory history startTime endTime true =
    (0, history.retained.filter (MetricDataPoint.within startTime endTime))

theorem monitoringGetHistory_visited (history : MetricHistory) (startTime endTime : UInt64) :
    monitoringGetHistory history startTime endTime true =
      (0, history.visited.filter (MetricDataPoint.within startTime endTime)) := by
  unfold monitoringGetHistory
  dsimp only
  split_ifs with empty none
  · simp [MetricHistory.visited, empty]
  · rw [List.length_eq_zero_iff.mp none]
  · simp at *
  · rfl

/-- A history whose loops visit its points is faithful to a series that is spaced. -/
theorem KeepsPoints.faithful {history : MetricHistory} {content : List MetricDataPoint}
    (keeps : KeepsPoints history content)
    (fits : history.startIndex.toNat + history.count.toNat ≤ 2 ^ 32) {series : Series} {clock : Nat}
    (same : content.map MetricDataPoint.shown = series) (spaced : series.Spaced clock) :
    FaithfulHistory history series := by
  refine ⟨?_, by rw [keeps.retained, same], ?_, fun startTime endTime => ?_⟩
  · rw [UInt32.le_iff_toNat_le, keeps.counted]
    exact keeps.within
  · have apart := spaced.apart
    rw [← same, List.map_map, List.pairwise_map] at apart
    rw [keeps.retained, List.pairwise_map]
    refine apart.imp fun step => ?_
    rw [UInt64.lt_iff_toNat_lt]
    exact Nat.lt_of_lt_of_le (Nat.lt_add_of_pos_right (by decide)) step
  · rw [monitoringGetHistory_visited, keeps.visited fits, keeps.retained]

section Step

variable {history : MetricHistory} {content : List MetricDataPoint} {series : Series} {clock : Nat}
  {timestamp : UInt64}

end Step

section Runs

/-- A record whose array holds its points, next to a series with points a second apart. -/
structure Follows (capacity : UInt32) (state : MetricRecord × Series) : Prop where
  keeps : ∃ content, KeepsPoints state.1.history content
  sized : state.1.history.capacity = capacity
  fits : state.1.history.startIndex.toNat + state.1.history.count.toNat ≤ 2 ^ 32
  spaced : state.2.Spaced state.1.metric.lastUpdate.toNat

variable {capacity : UInt32}

end Runs

section Example

end Example

end SecureChat.Monitoring
