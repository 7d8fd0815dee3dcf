import Mathlib.Logic.Function.Basic
import Mathlib.Tactic.Common
import Mathlib.Data.List.Basic
import Mathlib.Algebra.Ring.Nat

namespace SecureChat.Library

variable {Index Place : Type*} [DecidableEq Index]

/-- A step of one thread that does not cross a border leaves all threads on their sides of it. -/
theorem update_side (threads : Index → Place) (side : Place → Prop) (index : Index) (next : Place)
    (same : side next ↔ side (threads index)) (other : Index) :
    side (Function.update threads index next other) ↔ side (threads other) := by
  by_cases here : other = index
  · subst here
    rw [Function.update_self]
    exact same
  · rw [Function.update_of_ne here]

/-- The threads at a place are those from before and the one that has come to it. -/
theorem update_reaches (threads : Index → Place) (index : Index) (next : Place) (other : Index) :
    Function.update threads index next other = next ↔ index = other ∨ threads other = next := by
  by_cases here : other = index
  · subst here
    simp
  · rw [Function.update_of_ne here]
    exact (or_iff_right fun same => here same.symm).symm

/-- Who is somewhere else than the thread that has moved was there before. -/
theorem reached_before (threads : Index → Place) (index : Index) (next place : Place)
    (elsewhere : next ≠ place) (other : Index) (there : Function.update threads index next other = place) :
    threads other = place := by
  by_cases here : other = index
  · rw [here, Function.update_self] at there
    exact absurd there elsewhere
  · rwa [Function.update_of_ne here] at there

theorem exists_update_side (threads : Index → Place) (side : Place → Prop) (index : Index) (next : Place)
    (same : side next ↔ side (threads index)) :
    (∃ other, side (Function.update threads index next other)) ↔ ∃ other, side (threads other) :=
  exists_congr fun other => update_side threads side index next same other

/-- After one thread has left a side, only the other threads can be there. -/
theorem exists_update_left (threads : Index → Place) (side : Place → Prop) (index : Index) (next : Place)
    (left : ¬ side next) :
    (∃ other, side (Function.update threads index next other)) ↔
      ∃ other, other ≠ index ∧ side (threads other) := by
  constructor
  · rintro ⟨other, passes⟩
    by_cases here : other = index
    · subst here
      rw [Function.update_self] at passes
      exact absurd passes left
    · rw [Function.update_of_ne here] at passes
      exact ⟨other, here, passes⟩
  · rintro ⟨other, here, passes⟩
    refine ⟨other, ?_⟩
    rwa [Function.update_of_ne here]

/-- One thread moves, and the weight of the other places rises by no more than the slack. -/
theorem sum_set_le {weight later : Place → Nat} {slack : Nat} (near : ∀ place, later place ≤ weight place + slack)
    {threads : List Place} {index : Nat} {old : Place} (here : threads[index]? = some old) (next : Place) :
    ((threads.set index next).map later).sum + weight old + slack ≤
      (threads.map weight).sum + later next + slack * threads.length := by
  have others : ∀ rest : List Place, (rest.map later).sum ≤ (rest.map weight).sum + slack * rest.length := by
    intro rest
    induction rest with
    | nil => exact Nat.zero_le _
    | cons place rest ih =>
        have first := near place
        simp only [List.map_cons, List.sum_cons, List.length_cons, Nat.mul_add]
        omega
  induction threads generalizing index with
  | nil => cases here
  | cons place rest ih =>
      cases index with
      | zero =>
          cases Option.some.inj here
          have behind := others rest
          simp only [List.set_cons_zero, List.map_cons, List.sum_cons, List.length_cons, Nat.mul_add]
          omega
      | succ index =>
          have first := near place
          have behind := ih here
          simp only [List.set_cons_succ, List.map_cons, List.sum_cons, List.length_cons, Nat.mul_add]
          omega

end SecureChat.Library

namespace SecureChat.Library

/-- What a thread does with a mutex that is not recursive. -/
inductive LockOp where
  | lock | unlock
  deriving DecidableEq, Repr

namespace LockOp

/-- Whether the thread holds the mutex in the end. There is no end once it locks a mutex that it holds. -/
def holds : Bool → List LockOp → Option Bool
  | held, [] => some held
  | held, .lock :: rest => if held then none else holds true rest
  | _, .unlock :: rest => holds false rest

/-- The thread never locks the mutex while it holds it. -/
def Goes (held : Bool) (ops : List LockOp) : Prop := holds held ops ≠ none

theorem goes_nil (held : Bool) : Goes held [] := nofun

/-- The mutex is free, and the thread gets on with the mutex held. -/
theorem goes_lock_iff (held : Bool) (rest : List LockOp) :
    Goes held (.lock :: rest) ↔ held = false ∧ Goes true rest := by
  cases held
  · exact (and_iff_right rfl).symm
  · exact iff_of_false (fun goes => goes rfl) fun both => nomatch both.1

theorem goes_unlock_iff (held : Bool) (rest : List LockOp) : Goes held (.unlock :: rest) ↔ Goes false rest :=
  Iff.rfl

/-- A part of the code that takes the mutex before it does anything else with it, or leaves it alone. -/
def Plain (ops : List LockOp) : Prop := ops = [] ∨ ∃ rest, ops = .lock :: rest

theorem plain_nil : Plain [] := .inl rfl

theorem plain_lock (rest : List LockOp) : Plain (.lock :: rest) := .inr ⟨rest, rfl⟩

theorem Plain.append {first second : List LockOp} (one : Plain first) (other : Plain second) :
    Plain (first ++ second) := by
  rcases one with rfl | ⟨rest, rfl⟩
  · exact other
  · exact plain_lock _

theorem plain_flatMap {Part : Type*} (parts : List Part) (ops : Part → List LockOp)
    (each : ∀ part, Plain (ops part)) : Plain (parts.flatMap ops) := by
  induction parts with
  | nil => exact plain_nil
  | cons part parts ih =>
      rw [List.flatMap_cons]
      exact (each part).append ih

/-- With the mutex held, a thread gets through such a part only if the part leaves it alone. -/
theorem Plain.goes_append_iff {ops : List LockOp} (plain : Plain ops) (rest : List LockOp) :
    Goes true (ops ++ rest) ↔ ops = [] ∧ Goes true rest := by
  rcases plain with rfl | ⟨behind, rfl⟩
  · exact (and_iff_right rfl).symm
  · exact iff_of_false (fun goes => goes rfl) fun both => nomatch both.1

theorem Plain.goes_iff {ops : List LockOp} (plain : Plain ops) : Goes true ops ↔ ops = [] := by
  have whole := plain.goes_append_iff []
  rw [List.append_nil] at whole
  exact whole.trans (and_iff_left nofun)

/-- A part inside of a critical section. -/
theorem Plain.goes_section_iff {ops : List LockOp} (plain : Plain ops) :
    Goes false (.lock :: (ops ++ [.unlock])) ↔ ops = [] :=
  (plain.goes_append_iff [.unlock]).trans (and_iff_left nofun)

end LockOp

end SecureChat.Library
