import Mathlib.Data.List.Basic
import Mathlib.Tactic.Common
import Mathlib.Data.List.Infix
import Mathlib.Data.Nat.Find

namespace SecureChat.Library

variable {State Result : Type*}

/-- Each turn ends the loop with a result or goes on, or it fails. The fuel bounds the number of turns. -/
def loop (turn : State → Option (State ⊕ Result)) : Nat → State → Option Result
  | 0, _ => none
  | fuel + 1, state =>
      match turn state with
      | none => none
      | some (.inl next) => loop turn fuel next
      | some (.inr result) => some result

theorem loop_next {turn : State → Option (State ⊕ Result)} {state next : State}
    (goes : turn state = some (.inl next)) (fuel : Nat) : loop turn (fuel + 1) state = loop turn fuel next := by
  rw [loop, goes]

theorem loop_done {turn : State → Option (State ⊕ Result)} {state : State} {result : Result}
    (ends : turn state = some (.inr result)) (fuel : Nat) : loop turn (fuel + 1) state = some result := by
  rw [loop, ends]

/-- A loop whose turns keep an invariant and lower a variant ends, and its result is what the last turn gives. -/
theorem loop_total (turn : State → Option (State ⊕ Result)) (invariant : State → Prop) (variant : State → Nat)
    (post : Result → Prop)
    (goes : ∀ state, invariant state →
      (∃ next, turn state = some (.inl next) ∧ invariant next ∧ variant next < variant state) ∨
        ∃ result, turn state = some (.inr result) ∧ post result)
    (fuel : Nat) (state : State) (start : invariant state) (enough : variant state < fuel) :
    ∃ result, loop turn fuel state = some result ∧ post result := by
  induction fuel generalizing state with
  | zero => exact absurd enough (Nat.not_lt_zero _)
  | succ fuel ih =>
      rcases goes state start with ⟨next, turned, kept, lower⟩ | ⟨result, ended, holds⟩
      · rw [loop_next turned]
        exact ih next kept (Nat.lt_of_lt_of_le lower (Nat.le_of_lt_succ enough))
      · exact ⟨result, loop_done ended fuel, holds⟩

end SecureChat.Library

namespace SecureChat.Library

variable {Letter : Type*}

section Occurrence

variable [DecidableEq Letter]

/-- Where a word first occurs in a text. -/
def firstOccurrence (word : List Letter) : List Letter → Option Nat
  | [] => if word = [] then some 0 else none
  | letter :: rest =>
      if word <+: letter :: rest then some 0 else (firstOccurrence word rest).map (· + 1)

/-- Where a word first occurs in a text from a position on. -/
def firstOccurrenceFrom (word text : List Letter) (start : Nat) : Option Nat :=
  (firstOccurrence word (text.drop start)).map (start + ·)

theorem firstOccurrence_eq_some {word text : List Letter} {index : Nat} (here : word <+: text.drop index)
    (inside : index ≤ text.length) (first : ∀ earlier < index, ¬ word <+: text.drop earlier) :
    firstOccurrence word text = some index := by
  induction text generalizing index with
  | nil =>
      obtain rfl := Nat.le_zero.mp inside
      rw [firstOccurrence, if_pos (List.prefix_nil.mp here)]
  | cons letter rest ih =>
      cases index with
      | zero =>
          rw [List.drop_zero] at here
          rw [firstOccurrence, if_pos here]
      | succ index =>
          have later := ih here (Nat.le_of_succ_le_succ inside) fun earlier before =>
            first (earlier + 1) (Nat.succ_lt_succ before)
          have elsewhere : ¬ word <+: letter :: rest := first 0 (Nat.succ_pos _)
          rw [firstOccurrence, if_neg elsewhere, later, Option.map_some]

theorem firstOccurrence_eq_none {word text : List Letter} (absent : ∀ index, ¬ word <+: text.drop index) :
    firstOccurrence word text = none := by
  induction text with
  | nil =>
      have somewhere : word ≠ [] := by
        rintro rfl
        exact absent 0 (List.nil_prefix ..)
      rw [firstOccurrence, if_neg somewhere]
  | cons letter rest ih =>
      have elsewhere : ¬ word <+: letter :: rest := absent 0
      rw [firstOccurrence, if_neg elsewhere, ih fun index => absent (index + 1), Option.map_none]

/-- A word of one letter occurs where the letter does. -/
theorem firstOccurrence_singleton (letter : Letter) (text : List Letter) :
    firstOccurrence [letter] text = if letter ∈ text then some (text.idxOf letter) else none := by
  induction text with
  | nil => rfl
  | cons other rest ih =>
      have front : [letter] <+: other :: rest ↔ letter = other := by simp
      unfold firstOccurrence
      by_cases same : letter = other
      · rw [if_pos (front.mpr same)]
        simp [same]
      · rw [if_neg (mt front.mp same), ih]
        by_cases later : letter ∈ rest
        · simp [same, later, List.idxOf_cons_ne _ (Ne.symm same)]
        · simp [same, later]

theorem firstOccurrenceFrom_eq_some {word text : List Letter} {start index : Nat} (nonempty : word ≠ [])
    (behind : start ≤ index) (here : word <+: text.drop index)
    (first : ∀ earlier, start ≤ earlier → earlier < index → ¬ word <+: text.drop earlier) :
    firstOccurrenceFrom word text start = some index := by
  have positive := List.length_pos_of_ne_nil nonempty
  have short := here.length_le
  rw [List.length_drop] at short
  have found : firstOccurrence word (text.drop start) = some (index - start) := by
    refine firstOccurrence_eq_some ?_ ?_ ?_
    · rwa [List.drop_drop, Nat.add_sub_cancel' behind]
    · rw [List.length_drop]
      omega
    · intro earlier before
      rw [List.drop_drop]
      exact first (start + earlier) (Nat.le_add_right ..) (by omega)
  rw [firstOccurrenceFrom, found, Option.map_some, Nat.add_sub_cancel' behind]

theorem firstOccurrenceFrom_eq_none {word text : List Letter} {start : Nat}
    (absent : ∀ index, start ≤ index → ¬ word <+: text.drop index) :
    firstOccurrenceFrom word text start = none := by
  have nowhere : firstOccurrence word (text.drop start) = none := by
    refine firstOccurrence_eq_none fun index => ?_
    rw [List.drop_drop]
    exact absent (start + index) (Nat.le_add_right ..)
  rw [firstOccurrenceFrom, nowhere, Option.map_none]

end Occurrence

/-- The positions at which a word occurs, from the left and from a position on, where no two occurrences overlap. -/
inductive Leftmost (word text : List Letter) : Nat → List Nat → Prop
  | done {start : Nat} (absent : ∀ index, start ≤ index → ¬ word <+: text.drop index) : Leftmost word text start []
  | next {start index : Nat} {positions : List Nat} (behind : start ≤ index) (here : word <+: text.drop index)
      (first : ∀ earlier, start ≤ earlier → earlier < index → ¬ word <+: text.drop earlier)
      (later : Leftmost word text (index + word.length) positions) : Leftmost word text start (index :: positions)

/-- The text from a position on, with another word in the place of each occurrence. -/
def replaceAt (word other text : List Letter) : Nat → List Nat → List Letter
  | start, [] => text.drop start
  | start, index :: positions =>
      (text.drop start).take (index - start) ++ (other ++ replaceAt word other text (index + word.length) positions)

namespace Leftmost

variable {word text : List Letter} {start : Nat} {positions : List Nat}

/-- An occurrence lies inside the text. -/
theorem end_le {index : Nat} (nonempty : word ≠ []) (here : word <+: text.drop index) :
    index + word.length ≤ text.length := by
  have positive := List.length_pos_of_ne_nil nonempty
  have short := here.length_le
  rw [List.length_drop] at short
  omega

theorem length_le (nonempty : word ≠ []) (found : Leftmost word text start positions) :
    positions.length ≤ text.length - start := by
  have positive := List.length_pos_of_ne_nil nonempty
  induction found with
  | done => exact Nat.zero_le _
  | next behind here first later ih =>
      have inside := end_le nonempty here
      rw [List.length_cons]
      omega

/-- The replaced text is longer by what the other words are longer. -/
theorem replaceAt_length (nonempty : word ≠ []) (found : Leftmost word text start positions) (other : List Letter) :
    (replaceAt word other text start positions).length + positions.length * word.length =
      text.length - start + positions.length * other.length := by
  induction found with
  | done => simp [replaceAt]
  | @next start index positions behind here first later ih =>
      have inside := end_le nonempty here
      rw [replaceAt, List.length_append, List.length_append, List.length_take, List.length_drop, List.length_cons,
        Nat.succ_mul, Nat.succ_mul]
      omega

/-- The search from the left ends. -/
theorem exists_positions (nonempty : word ≠ []) (text : List Letter) (start : Nat) :
    ∃ positions, Leftmost word text start positions := by
  classical
  have positive := List.length_pos_of_ne_nil nonempty
  induction room : text.length - start using Nat.strong_induction_on generalizing start with
  | h room' ih =>
      by_cases occurs : ∃ index, start ≤ index ∧ word <+: text.drop index
      · obtain ⟨behind, here⟩ := Nat.find_spec occurs
        have inside := end_le nonempty here
        obtain ⟨positions, later⟩ := ih _ (by omega) (Nat.find occurs + word.length) rfl
        refine ⟨_, .next behind here (fun earlier after before occurrence => ?_) later⟩
        exact Nat.find_min occurs before ⟨after, occurrence⟩
      · refine ⟨[], .done fun index after occurrence => ?_⟩
        exact occurs ⟨index, after, occurrence⟩

end Leftmost

end SecureChat.Library
