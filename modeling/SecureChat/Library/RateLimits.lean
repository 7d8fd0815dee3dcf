import Mathlib.Data.Nat.Basic
import Mathlib.Tactic.Common
import Mathlib.Data.Int.Basic

namespace SecureChat.Library

/-- A counter of a fixed window stands at `used`, and the window began at `start`.
`total` is what was counted between `low` and `high`, and nothing more is counted before `now`.
All of it lies in this window, or this window outlasts `high`, or `high` is already over. -/
def Metered (period limit low high start used now total : Nat) : Prop :=
  (total ≤ used ∧ (0 < total → low ≤ now)) ∨ (total ≤ limit + used ∧ high < start + period) ∨
    (total ≤ 2 * limit ∧ high < now)

namespace Metered

variable {period limit low high start used now total : Nat}

theorem initial : Metered period limit low high start used now 0 :=
  .inl ⟨Nat.zero_le _, fun positive => absurd positive (Nat.lt_irrefl 0)⟩

theorem later {next : Nat} (metered : Metered period limit low high start used now total)
    (after : now ≤ next) : Metered period limit low high start used next total := by
  rcases metered with ⟨bound, reached⟩ | window | ⟨bound, ended⟩
  · exact .inl ⟨bound, fun positive => Nat.le_trans (reached positive) after⟩
  · exact .inr (.inl window)
  · exact .inr (.inr ⟨bound, Nat.lt_of_lt_of_le ended after⟩)

/-- The counter may stand higher than what was counted. -/
theorem spare {more : Nat} (metered : Metered period limit low high start used now total)
    (above : used ≤ more) : Metered period limit low high start more now total := by
  rcases metered with ⟨bound, reached⟩ | ⟨bound, window⟩ | ended
  · exact .inl ⟨Nat.le_trans bound above, reached⟩
  · exact .inr (.inl ⟨by omega, window⟩)
  · exact .inr (.inr ended)

/-- The window starts again after its period. -/
theorem reset {trigger next : Nat} (metered : Metered period limit low high start used now total)
    (short : high < low + period) (within : used ≤ limit) (after : now ≤ trigger)
    (elapsed : start + period ≤ trigger) (behind : trigger ≤ next) :
    Metered period limit low high next 0 trigger total := by
  rcases metered with ⟨bound, reached⟩ | ⟨bound, window⟩ | ⟨bound, ended⟩
  · rcases Nat.eq_zero_or_pos total with zero | positive
    · rw [zero]
      exact initial
    · have entered := reached positive
      exact .inr (.inl ⟨by omega, by omega⟩)
  · exact .inr (.inr ⟨by omega, by omega⟩)
  · exact .inr (.inr ⟨bound, Nat.lt_of_lt_of_le ended after⟩)

/-- Something is counted between `first` and `finish`. -/
theorem charge {first finish : Nat} (metered : Metered period limit low high start used now total)
    (amount : Nat) (after : now ≤ first) (order : first ≤ finish) :
    Metered period limit low high start (used + amount) finish
      (total + if first ≤ high ∧ low ≤ finish then amount else 0) := by
  split
  · rename_i meets
    rcases metered with ⟨bound, -⟩ | ⟨bound, window⟩ | ⟨-, ended⟩
    · exact .inl ⟨by omega, fun _ => meets.2⟩
    · exact .inr (.inl ⟨by omega, window⟩)
    · omega
  · exact (metered.later (Nat.le_trans after order)).spare (Nat.le_add_right used amount)

/-- No short interval sees more than two full windows. -/
theorem bounded (metered : Metered period limit low high start used now total) (within : used ≤ limit) :
    total ≤ 2 * limit := by
  rcases metered with ⟨bound, -⟩ | ⟨bound, -⟩ | ⟨bound, -⟩ <;> omega

end Metered

/-- A counter of failures stands at `attempts`, and nothing is tried before `lockedUntil`.
`failures` were counted in the window that begins at `low`, and nothing more is counted before `now`.
The counter has seen all of them, or the lock outlasts the window, or the window is already over. -/
structure Throttled (duration : Int) (limit : Nat) (low lockedUntil now : Int) (attempts failures : Nat) : Prop where
  reached : 0 < failures → low ≤ now
  counted : failures ≤ attempts ∨
    failures ≤ limit ∧ (low + duration ≤ lockedUntil ∨ low + duration ≤ now)

namespace Throttled

variable {duration low lockedUntil now time : Int} {limit attempts failures : Nat}

theorem initial : Throttled duration limit low lockedUntil now attempts 0 :=
  ⟨fun positive => absurd positive (Nat.lt_irrefl 0), .inl (Nat.zero_le _)⟩

/-- No window sees more failures than the limit. -/
theorem bounded (throttled : Throttled duration limit low lockedUntil now attempts failures)
    (within : attempts ≤ limit) : failures ≤ limit := by
  rcases throttled.counted with bound | ⟨bound, -⟩
  · exact Nat.le_trans bound within
  · exact bound

theorem later (throttled : Throttled duration limit low lockedUntil now attempts failures) (after : now ≤ time) :
    Throttled duration limit low lockedUntil time attempts failures := by
  refine ⟨fun positive => Int.le_trans (throttled.reached positive) after, ?_⟩
  rcases throttled.counted with bound | ⟨bound, lock | ended⟩
  · exact .inl bound
  · exact .inr ⟨bound, .inl lock⟩
  · exact .inr ⟨bound, .inr (Int.le_trans ended after)⟩

/-- What happens outside of the window does not matter to it. -/
theorem outside {otherUntil : Int} {otherAttempts : Nat}
    (throttled : Throttled duration limit low lockedUntil now attempts failures) (after : now ≤ time)
    (within : attempts ≤ limit) (elsewhere : ¬ (low ≤ time ∧ time < low + duration)) :
    Throttled duration limit low otherUntil time otherAttempts failures := by
  rcases Nat.eq_zero_or_pos failures with zero | positive
  · rw [zero]
    exact initial
  · have entered := throttled.reached positive
    exact ⟨fun _ => by omega, .inr ⟨throttled.bounded within, .inr (by omega)⟩⟩

/-- Inside of the window the counter has seen every failure, if no lock is in force. -/
theorem seen (throttled : Throttled duration limit low lockedUntil now attempts failures) (after : now ≤ time)
    (unlocked : lockedUntil ≤ time) (inside : time < low + duration) : failures ≤ attempts := by
  rcases throttled.counted with bound | ⟨-, lock | ended⟩
  · exact bound
  · omega
  · omega

/-- One more failure leaves the counter below the limit. -/
theorem fail (throttled : Throttled duration limit low lockedUntil now attempts failures) (after : now ≤ time)
    (unlocked : lockedUntil ≤ time) (within : attempts ≤ limit) :
    Throttled duration limit low lockedUntil time (attempts + 1)
      (failures + if low ≤ time ∧ time < low + duration then 1 else 0) := by
  split
  · rename_i inside
    have bound := throttled.seen after unlocked inside.2
    exact ⟨fun _ => inside.1, .inl (by omega)⟩
  · rename_i elsewhere
    exact throttled.outside after within elsewhere

/-- The failure that reaches the limit sets the lock. -/
theorem lock (throttled : Throttled duration limit low lockedUntil now attempts failures) (after : now ≤ time)
    (unlocked : lockedUntil ≤ time) (within : attempts < limit) :
    Throttled duration limit low (time + duration) time 0
      (failures + if low ≤ time ∧ time < low + duration then 1 else 0) := by
  split
  · rename_i inside
    have bound := throttled.seen after unlocked inside.2
    exact ⟨fun _ => inside.1, .inr ⟨by omega, .inl (by omega)⟩⟩
  · rename_i elsewhere
    exact throttled.outside after (Nat.le_of_lt within) elsewhere

end Throttled

end SecureChat.Library
