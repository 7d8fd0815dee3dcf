import Mathlib.Data.List.Basic
import Mathlib.Order.RelClasses
import Mathlib.Tactic.Common

namespace SecureChat.Library

/-- A machine consumes one input per step and emits the outputs of that step in order. -/
structure Machine (State Input Output : Type*) where
  step : State → Input → State × List Output

namespace Machine

variable {State Input Output : Type*}

/-- The run threads the state through the inputs and joins the outputs. -/
def run (machine : Machine State Input Output) : State → List Input → State × List Output
  | state, [] => (state, [])
  | state, input :: rest =>
      ((run machine (machine.step state input).1 rest).1,
        (machine.step state input).2 ++ (run machine (machine.step state input).1 rest).2)

/-- The states of a run, from the first one to the last one. -/
def states (machine : Machine State Input Output) : State → List Input → List State
  | state, [] => [state]
  | state, input :: rest => state :: states machine (machine.step state input).1 rest

/-- The guard holds of each input in the state that receives it. -/
def Along (machine : Machine State Input Output) (guard : State → Input → Prop) :
    State → List Input → Prop
  | _, [] => True
  | state, input :: rest =>
      guard state input ∧ Along machine guard (machine.step state input).1 rest

/-- Two machines read the same inputs side by side. -/
def pair {Other Result : Type*} (machine : Machine State Input Output)
    (other : Machine Other Input Result) : Machine (State × Other) Input (Output ⊕ Result) where
  step states input :=
    (((machine.step states.1 input).1, (other.step states.2 input).1),
      (machine.step states.1 input).2.map .inl ++ (other.step states.2 input).2.map .inr)

/-- The machine with a record of all that it put out. -/
def recorded (machine : Machine State Input Output) : Machine (State × List Output) Input Output where
  step state input :=
    (((machine.step state.1 input).1, state.2 ++ (machine.step state.1 input).2), (machine.step state.1 input).2)

/-- After every input both machines have shown the same, as far as the view goes. -/
def Agree {Other Result : Type*} (machine : Machine State Input Output)
    (other : Machine Other Input Result) (view : Output → Option Result) (state : State)
    (abstract : Other) (inputs : List Input) : Prop :=
  ∀ count, (machine.run state (inputs.take count)).2.filterMap view =
    (other.run abstract (inputs.take count)).2

@[simp] theorem run_nil (machine : Machine State Input Output) (state : State) :
    machine.run state [] = (state, []) := rfl

@[simp] theorem states_nil (machine : Machine State Input Output) (state : State) :
    machine.states state [] = [state] := rfl

@[simp] theorem along_nil (machine : Machine State Input Output) (guard : State → Input → Prop)
    (state : State) : machine.Along guard state [] ↔ True := Iff.rfl

theorem run_cons (machine : Machine State Input Output) (state : State) (input : Input)
    (rest : List Input) :
    machine.run state (input :: rest) =
      ((machine.run (machine.step state input).1 rest).1,
        (machine.step state input).2 ++ (machine.run (machine.step state input).1 rest).2) := rfl

/-- A run goes on where a shorter run has stopped. -/
theorem run_append (machine : Machine State Input Output) (state : State)
    (first second : List Input) :
    machine.run state (first ++ second) =
      ((machine.run (machine.run state first).1 second).1,
        (machine.run state first).2 ++ (machine.run (machine.run state first).1 second).2) := by
  induction first generalizing state with
  | nil => rfl
  | cons input first ih =>
      rw [List.cons_append, run_cons, ih, run_cons, List.append_assoc]

theorem states_cons (machine : Machine State Input Output) (state : State) (input : Input)
    (rest : List Input) :
    machine.states state (input :: rest) =
      state :: machine.states (machine.step state input).1 rest := rfl

theorem mem_states (machine : Machine State Input Output) (state : State) (inputs : List Input) :
    state ∈ machine.states state inputs := by
  cases inputs <;> simp [states]

/-- A run ends in the last one of its states. -/
theorem run_mem_states (machine : Machine State Input Output) (state : State) (inputs : List Input) :
    (machine.run state inputs).1 ∈ machine.states state inputs := by
  induction inputs generalizing state with
  | nil => exact machine.mem_states state []
  | cons input rest ih => exact List.mem_cons_of_mem _ (ih _)

theorem along_cons (machine : Machine State Input Output) (guard : State → Input → Prop)
    (state : State) (input : Input) (rest : List Input) :
    machine.Along guard state (input :: rest) ↔
      guard state input ∧ machine.Along guard (machine.step state input).1 rest := Iff.rfl

theorem along_of_forall (machine : Machine State Input Output) (guard : State → Input → Prop)
    (always : ∀ state input, guard state input) (state : State) (inputs : List Input) :
    machine.Along guard state inputs := by
  induction inputs generalizing state with
  | nil => trivial
  | cons input rest ih => exact ⟨always state input, ih _⟩

/-- A guard holds along a run exactly if it holds wherever the run is split. -/
theorem along_iff_split (machine : Machine State Input Output) (guard : State → Input → Prop) (state : State)
    (inputs : List Input) :
    machine.Along guard state inputs ↔
      ∀ front input rest, inputs = front ++ input :: rest → guard (machine.run state front).1 input := by
  induction inputs generalizing state with
  | nil => simp
  | cons first inputs ih =>
      rw [along_cons, ih]
      constructor
      · rintro ⟨here, later⟩ front input rest split
        cases front with
        | nil =>
            rw [List.nil_append, List.cons.injEq] at split
            rw [← split.1]
            exact here
        | cons other front =>
            rw [List.cons_append, List.cons.injEq] at split
            rw [← split.1]
            exact later front input rest split.2
      · intro guarded
        refine ⟨guarded [] first inputs rfl, fun front input rest split => ?_⟩
        exact guarded (first :: front) input rest (by rw [split, List.cons_append])

/-- Two guards hold along the same runs, if they agree in every state that the runs reach. -/
theorem along_iff_along (machine : Machine State Input Output) (first second : State → Input → Prop)
    (property : State → Prop)
    (agree : ∀ state input, property state → (first state input ↔ second state input))
    (keeps : ∀ state input, property state → second state input →
      property (machine.step state input).1)
    (state : State) (inputs : List Input) (initial : property state) :
    machine.Along first state inputs ↔ machine.Along second state inputs := by
  induction inputs generalizing state with
  | nil => exact Iff.rfl
  | cons input rest ih =>
      rw [along_cons, along_cons, agree state input initial]
      exact and_congr_right fun holds => ih _ (keeps state input initial holds)

section Agreement

variable {Other Result : Type*} (machine : Machine State Input Output)
  (other : Machine Other Input Result) (view : Output → Option Result)

theorem agree_nil (state : State) (abstract : Other) :
    machine.Agree other view state abstract [] := by
  intro count
  simp

/-- Agreement over a run is agreement over each step of it. -/
theorem agree_cons (state : State) (abstract : Other) (input : Input) (rest : List Input) :
    machine.Agree other view state abstract (input :: rest) ↔
      (machine.step state input).2.filterMap view = (other.step abstract input).2 ∧
        machine.Agree other view (machine.step state input).1 (other.step abstract input).1 rest := by
  constructor
  · intro agree
    have now : (machine.step state input).2.filterMap view = (other.step abstract input).2 := by
      simpa [run_cons] using agree 1
    refine ⟨now, fun count => ?_⟩
    have later := agree (count + 1)
    rw [List.take_succ_cons, run_cons, run_cons, List.filterMap_append, now] at later
    exact List.append_cancel_left later
  · rintro ⟨now, later⟩ count
    cases count with
    | zero => simp
    | succ count =>
        rw [List.take_succ_cons, run_cons, run_cons, List.filterMap_append, now, later count]

/-- A machine whose guarded steps keep a relation and show the same agrees over every guarded run. -/
theorem agree_of_along (related : State → Other → Prop) (guard : State → Input → Prop)
    (step : ∀ state abstract input, related state abstract → guard state input →
      related (machine.step state input).1 (other.step abstract input).1 ∧
        (machine.step state input).2.filterMap view = (other.step abstract input).2)
    (state : State) (abstract : Other) (inputs : List Input) (initial : related state abstract)
    (guarded : machine.Along guard state inputs) :
    machine.Agree other view state abstract inputs := by
  induction inputs generalizing state abstract with
  | nil => exact machine.agree_nil other view state abstract
  | cons input rest ih =>
      obtain ⟨here, later⟩ := guarded
      obtain ⟨next, shown⟩ := step state abstract input initial here
      rw [agree_cons]
      exact ⟨shown, ih _ _ next later⟩

/-- Guarded steps that keep a relation keep it over every guarded run. -/
theorem run_related (related : State → Other → Prop) (guard : State → Input → Prop)
    (step : ∀ state abstract input, related state abstract → guard state input →
      related (machine.step state input).1 (other.step abstract input).1)
    (state : State) (abstract : Other) (inputs : List Input) (initial : related state abstract)
    (guarded : machine.Along guard state inputs) :
    related (machine.run state inputs).1 (other.run abstract inputs).1 := by
  induction inputs generalizing state abstract with
  | nil => exact initial
  | cons input rest ih =>
      obtain ⟨here, later⟩ := guarded
      exact ih _ _ (step state abstract input initial here) later

end Agreement

/-- A state property that every guarded step keeps holds in every state of a guarded run. -/
theorem states_invariant (machine : Machine State Input Output) (guard : State → Input → Prop)
    (property : State → Prop)
    (keeps : ∀ state input, property state → guard state input →
      property (machine.step state input).1)
    (state : State) (inputs : List Input) (initial : property state)
    (guarded : machine.Along guard state inputs) :
    ∀ visited ∈ machine.states state inputs, property visited := by
  induction inputs generalizing state with
  | nil =>
      intro visited member
      rw [states_nil, List.mem_singleton] at member
      exact member ▸ initial
  | cons input rest ih =>
      obtain ⟨here, later⟩ := guarded
      intro visited member
      rw [states_cons, List.mem_cons] at member
      rcases member with rfl | member
      · exact initial
      · exact ih _ (keeps state input initial here) later visited member

/-- Each output of a guarded run meets a property that the outputs of every guarded step meet. -/
theorem run_outputs (machine : Machine State Input Output) (guard : State → Input → Prop)
    (property : State → Prop) (allowed : Output → Prop)
    (keeps : ∀ state input, property state → guard state input →
      property (machine.step state input).1)
    (emits : ∀ state input, property state → guard state input →
      ∀ output ∈ (machine.step state input).2, allowed output)
    (state : State) (inputs : List Input) (initial : property state)
    (guarded : machine.Along guard state inputs) :
    ∀ output ∈ (machine.run state inputs).2, allowed output := by
  induction inputs generalizing state with
  | nil => simp
  | cons input rest ih =>
      obtain ⟨here, later⟩ := guarded
      intro output member
      rw [run_cons, List.mem_append] at member
      rcases member with now | after
      · exact emits state input initial here output now
      · exact ih _ (keeps state input initial here) later output after

/-- All outputs of a run meet a property exactly as long as every step meets the guard,
if the outputs of a step meet it exactly when the step meets the guard. -/
theorem outputs_iff_along (machine : Machine State Input Output) (guard : State → Input → Prop)
    (property : State → Prop) (allowed : Output → Prop)
    (keeps : ∀ state input, property state → guard state input →
      property (machine.step state input).1)
    (emits : ∀ state input, property state →
      ((∀ output ∈ (machine.step state input).2, allowed output) ↔ guard state input))
    (state : State) (inputs : List Input) (initial : property state) :
    (∀ output ∈ (machine.run state inputs).2, allowed output) ↔ machine.Along guard state inputs := by
  induction inputs generalizing state with
  | nil => simp
  | cons input rest ih =>
      rw [run_cons, List.forall_mem_append, along_cons, emits state input initial]
      exact and_congr_right fun holds => ih _ (keeps state input initial holds)

/-- A property of the states and one of the outputs hold over a run exactly as long as every step
meets the guard, if a step keeps both exactly when it meets the guard. -/
theorem kept_iff_along (machine : Machine State Input Output) (guard : State → Input → Prop)
    (invariant property : State → Prop) (allowed : Output → Prop)
    (keeps : ∀ state input, invariant state → invariant (machine.step state input).1)
    (step : ∀ state input, invariant state → property state →
      ((property (machine.step state input).1 ∧ ∀ output ∈ (machine.step state input).2, allowed output) ↔
        guard state input))
    (state : State) (inputs : List Input) (valid : invariant state) (initial : property state) :
    ((∀ visited ∈ machine.states state inputs, property visited) ∧
      ∀ output ∈ (machine.run state inputs).2, allowed output) ↔ machine.Along guard state inputs := by
  induction inputs generalizing state with
  | nil => simp [initial]
  | cons input rest ih =>
      rw [states_cons, run_cons, List.forall_mem_cons, List.forall_mem_append, along_cons,
        ← step state input valid initial]
      constructor
      · rintro ⟨⟨-, visited⟩, now, later⟩
        have next := visited _ (machine.mem_states _ rest)
        exact ⟨⟨next, now⟩, (ih _ (keeps state input valid) next).mp ⟨visited, later⟩⟩
      · rintro ⟨⟨next, now⟩, later⟩
        obtain ⟨visited, outputs⟩ := (ih _ (keeps state input valid) next).mpr later
        exact ⟨⟨initial, visited⟩, now, outputs⟩

/-- A relation between the state and all outputs so far carries over a guarded run. -/
theorem run_history (machine : Machine State Input Output) (guard : State → Input → Prop)
    (history : State → List Output → Prop)
    (grows : ∀ state input outputs, history state outputs → guard state input →
      history (machine.step state input).1 (outputs ++ (machine.step state input).2))
    (state : State) (inputs : List Input) (outputs : List Output) (initial : history state outputs)
    (guarded : machine.Along guard state inputs) :
    history (machine.run state inputs).1 (outputs ++ (machine.run state inputs).2) := by
  induction inputs generalizing state outputs with
  | nil => simpa using initial
  | cons input rest ih =>
      obtain ⟨here, later⟩ := guarded
      have next := ih _ _ (grows state input outputs initial here) later
      simpa only [run_cons, List.append_assoc] using next

section Always

variable (machine : Machine State Input Output)

/-- A property that every step keeps holds in every state of a run. -/
theorem states_always (property : State → Prop)
    (keeps : ∀ state input, property state → property (machine.step state input).1)
    (state : State) (inputs : List Input) (initial : property state) :
    ∀ visited ∈ machine.states state inputs, property visited :=
  machine.states_invariant (fun _ _ => True) property (fun state input holds _ => keeps state input holds)
    state inputs initial (machine.along_of_forall _ (fun _ _ => trivial) state inputs)

/-- A relation between the state and all outputs so far that every step carries on holds after a run. -/
theorem history_always (history : State → List Output → Prop)
    (grows : ∀ state input outputs, history state outputs →
      history (machine.step state input).1 (outputs ++ (machine.step state input).2))
    (state : State) (inputs : List Input) (outputs : List Output) (initial : history state outputs) :
    history (machine.run state inputs).1 (outputs ++ (machine.run state inputs).2) :=
  machine.run_history (fun _ _ => True) history
    (fun state input outputs holds _ => grows state input outputs holds) state inputs outputs initial
    (machine.along_of_forall _ (fun _ _ => trivial) state inputs)

/-- No output of a run excludes a later one, if the states after an output remember it as long as it excludes any. -/
theorem run_pairwise (valid : State → Prop) (remembers : Output → State → Prop) (related : Output → Output → Prop)
    (keeps : ∀ state input, valid state → valid (machine.step state input).1)
    (single : ∀ state input, valid state → (machine.step state input).2.Pairwise related)
    (records : ∀ state input, valid state → ∀ output ∈ (machine.step state input).2,
      remembers output (machine.step state input).1)
    (stays : ∀ state input output, valid state → remembers output state →
      remembers output (machine.step state input).1)
    (follows : ∀ state input output, valid state → remembers output state →
      ∀ later ∈ (machine.step state input).2, related output later)
    (state : State) (inputs : List Input) (initial : valid state) :
    (machine.run state inputs).2.Pairwise related := by
  have history := machine.history_always
    (fun state outputs => valid state ∧ outputs.Pairwise related ∧ ∀ output ∈ outputs, remembers output state)
    (fun state input outputs holds => by
      obtain ⟨holds, ordered, known⟩ := holds
      refine ⟨keeps state input holds, ?_, ?_⟩
      · rw [List.pairwise_append]
        exact ⟨ordered, single state input holds,
          fun output member => follows state input output holds (known output member)⟩
      · intro output member
        rcases List.mem_append.mp member with early | late
        · exact stays state input output holds (known output early)
        · exact records state input holds output late)
    state inputs [] ⟨initial, List.Pairwise.nil, by simp⟩
  exact history.2.1

/-- A property that every step keeps holds after a run. -/
theorem run_always (property : State → Prop)
    (keeps : ∀ state input, property state → property (machine.step state input).1)
    (state : State) (inputs : List Input) (initial : property state) :
    property (machine.run state inputs).1 :=
  machine.history_always (fun state _ => property state) (fun state input _ holds => keeps state input holds)
    state inputs [] initial

/-- What every step emits is all that a run emits. -/
theorem outputs_always (allowed : Output → Prop)
    (emits : ∀ state input, ∀ output ∈ (machine.step state input).2, allowed output)
    (state : State) (inputs : List Input) : ∀ output ∈ (machine.run state inputs).2, allowed output :=
  machine.run_outputs (fun _ _ => True) (fun _ => True) allowed (fun _ _ _ _ => trivial)
    (fun state input _ _ => emits state input) state inputs trivial
    (machine.along_of_forall _ (fun _ _ => trivial) state inputs)

end Always

/-- A property of the states holds over a run exactly as long as every step meets the guard,
if a step keeps it exactly when it meets the guard. -/
theorem states_iff_along (machine : Machine State Input Output) (guard : State → Input → Prop)
    (invariant property : State → Prop)
    (keeps : ∀ state input, invariant state → invariant (machine.step state input).1)
    (step : ∀ state input, invariant state → property state →
      (property (machine.step state input).1 ↔ guard state input))
    (state : State) (inputs : List Input) (valid : invariant state) (initial : property state) :
    (∀ visited ∈ machine.states state inputs, property visited) ↔ machine.Along guard state inputs := by
  have both := machine.kept_iff_along guard invariant property (fun _ => True) keeps
    (fun state input valid holds => (and_iff_left fun _ _ => trivial).trans (step state input valid holds))
    state inputs valid initial
  exact (and_iff_left fun _ _ => trivial).symm.trans both

/-- In a run whose inputs are all allowed a property of the states holds exactly as long as every step meets the
guard, if this is so for every step from a state with an invariant that guarded steps keep. -/
theorem states_iff_allowed (machine : Machine State Input Output) (allowed guard : State → Input → Prop)
    (invariant property : State → Prop)
    (step : ∀ state input, invariant state → property state → allowed state input →
      (property (machine.step state input).1 ↔ guard state input))
    (keeps : ∀ state input, invariant state → property state → allowed state input → guard state input →
      invariant (machine.step state input).1)
    (state : State) (inputs : List Input) (valid : invariant state) (initial : property state)
    (given : machine.Along allowed state inputs) :
    (∀ visited ∈ machine.states state inputs, property visited) ↔ machine.Along guard state inputs := by
  induction inputs generalizing state with
  | nil => simp [initial]
  | cons input rest ih =>
      obtain ⟨here, further⟩ := given
      have once := step state input valid initial here
      rw [states_cons, List.forall_mem_cons, along_cons, ← once]
      constructor
      · rintro ⟨-, later⟩
        have next := later _ (machine.mem_states _ rest)
        have kept := keeps state input valid initial here (once.mp next)
        exact ⟨next, (ih _ kept next further).mp later⟩
      · rintro ⟨next, later⟩
        have kept := keeps state input valid initial here (once.mp next)
        exact ⟨initial, (ih _ kept next further).mpr later⟩

/-- The same for runs with any inputs. -/
theorem states_iff_guarded (machine : Machine State Input Output) (guard : State → Input → Prop)
    (invariant property : State → Prop)
    (step : ∀ state input, invariant state → property state →
      (property (machine.step state input).1 ↔ guard state input))
    (keeps : ∀ state input, invariant state → property state → guard state input →
      invariant (machine.step state input).1)
    (state : State) (inputs : List Input) (valid : invariant state) (initial : property state) :
    (∀ visited ∈ machine.states state inputs, property visited) ↔ machine.Along guard state inputs := by
  apply machine.states_iff_allowed (fun _ _ => True) guard invariant property _ _ state inputs valid initial
  · exact machine.along_of_forall _ (fun _ _ => trivial) state inputs
  · intro before input valid holds _
    exact step before input valid holds
  · intro before input valid holds _ meets
    exact keeps before input valid holds meets

section Pairs

variable (machine : Machine State Input Output) (guard : State → Input → Prop) (invariant : State → Prop)
  (strong : State → State → Prop)

/-- The first state of a guarded run is related to all that come after it,
if guarded steps keep a relation that carries over. -/
theorem states_related (trans : ∀ first second third, strong first second → strong second third →
      strong first third)
    (refl : ∀ state, strong state state)
    (keeps : ∀ state input, invariant state → guard state input → invariant (machine.step state input).1)
    (step : ∀ state input, invariant state → guard state input → strong state (machine.step state input).1)
    (state : State) (inputs : List Input) (valid : invariant state) (guarded : machine.Along guard state inputs) :
    ∀ later ∈ machine.states state inputs, strong state later := by
  induction inputs generalizing state with
  | nil =>
      intro later member
      obtain rfl := List.mem_singleton.mp member
      exact refl later
  | cons input rest ih =>
      obtain ⟨here, further⟩ := guarded
      intro later member
      rcases List.mem_cons.mp member with rfl | member
      · exact refl later
      · exact trans _ _ _ (step state input valid here)
          (ih _ (keeps state input valid here) further later member)

/-- All earlier states of a run are related to all later ones exactly as long as every step meets the guard,
if guarded steps keep a stronger relation that carries over, and other steps break this one. -/
theorem states_pairwise_iff_along (weak : State → State → Prop)
    (trans : ∀ first second third, strong first second → strong second third → strong first third)
    (refl : ∀ state, strong state state) (weaken : ∀ first second, strong first second → weak first second)
    (keeps : ∀ state input, invariant state → guard state input → invariant (machine.step state input).1)
    (step : ∀ state input, invariant state → guard state input → strong state (machine.step state input).1)
    (breaks : ∀ state input, invariant state → weak state (machine.step state input).1 → guard state input)
    (state : State) (inputs : List Input) (valid : invariant state) :
    (machine.states state inputs).Pairwise weak ↔ machine.Along guard state inputs := by
  induction inputs generalizing state with
  | nil => exact iff_of_true (List.pairwise_singleton _ _) trivial
  | cons input rest ih =>
      rw [states_cons, List.pairwise_cons, along_cons]
      constructor
      · rintro ⟨first, others⟩
        have here := breaks state input valid (first _ (machine.mem_states _ rest))
        exact ⟨here, (ih _ (keeps state input valid here)).mp others⟩
      · rintro ⟨here, further⟩
        have next := keeps state input valid here
        refine ⟨fun later member => weaken _ _ ?_, (ih _ next).mpr further⟩
        exact trans _ _ _ (step state input valid here)
          (machine.states_related guard invariant strong trans refl keeps step _ rest next further later member)

end Pairs

section Forever

variable (machine : Machine State Input Output) (start : State) (inputs : Nat → Input)

/-- The state after some steps of a run that never ends. -/
def after : Nat → State
  | 0 => start
  | count + 1 => (machine.step (after count) (inputs count)).1

/-- A run that never ends reaches a goal again and again, if turns come again and again,
every turn in front of the goal lowers a measure, and no other step raises it. -/
theorem after_reaches {Measure : Type*} [Preorder Measure] [WellFoundedLT Measure] (measure : State → Measure)
    (goal : State → Prop) (turn : Input → Prop)
    (lowers : ∀ count, turn (inputs count) → ¬ goal (machine.after start inputs count) →
      ¬ goal (machine.after start inputs (count + 1)) →
      measure (machine.after start inputs (count + 1)) < measure (machine.after start inputs count))
    (keeps : ∀ count, ¬ turn (inputs count) →
      measure (machine.after start inputs (count + 1)) ≤ measure (machine.after start inputs count))
    (fair : ∀ count, ∃ later ≥ count, turn (inputs later)) (count : Nat) :
    ∃ later ≥ count, goal (machine.after start inputs later) := by
  by_contra missed
  push Not at missed
  have falling : ∀ steps first, count ≤ first → measure (machine.after start inputs (first + steps)) ≤
      measure (machine.after start inputs first) := by
    intro steps
    induction steps with
    | zero => exact fun first _ => le_rfl
    | succ steps ih =>
        intro first behind
        refine le_trans ?_ (ih first behind)
        by_cases taken : turn (inputs (first + steps))
        · have further : count ≤ first + steps := Nat.le_add_right_of_le behind
          exact le_of_lt (lowers _ taken (missed _ further) (missed _ (Nat.le_succ_of_le further)))
        · exact keeps _ taken
  -- No measure is the least one behind the first state.
  have none_least : ∀ value first, count ≤ first → measure (machine.after start inputs first) = value → False := by
    intro value
    induction value using WellFoundedLT.induction with
    | _ value ih =>
        rintro first behind rfl
        obtain ⟨later, reached, taken⟩ := fair first
        obtain ⟨steps, rfl⟩ := Nat.exists_eq_add_of_le reached
        have further : count ≤ first + steps := Nat.le_add_right_of_le behind
        have lower := lowers _ taken (missed _ further) (missed _ (Nat.le_succ_of_le further))
        exact ih _ (lt_of_lt_of_le lower (falling steps first behind)) _ (Nat.le_succ_of_le further) rfl
  exact none_least _ count (Nat.le_refl count) rfl

/-- A run that never ends comes to rest, if every step that changes the state lowers a measure. -/
theorem after_rests (measure : State → Nat) (property : State → Prop)
    (keeps : ∀ state input, property state → property (machine.step state input).1)
    (lowers : ∀ state input, property state → (machine.step state input).1 ≠ state →
      measure (machine.step state input).1 < measure state)
    (first : Nat) (holds : property (machine.after start inputs first)) :
    ∃ last, first ≤ last ∧ ∀ steps, machine.after start inputs (last + steps) = machine.after start inputs last := by
  have falling : ∀ count steps, property (machine.after start inputs count) →
      property (machine.after start inputs (count + steps)) ∧
        measure (machine.after start inputs (count + steps)) ≤ measure (machine.after start inputs count) := by
    intro count steps now
    induction steps with
    | zero => exact ⟨now, Nat.le_refl _⟩
    | succ steps ih =>
        refine ⟨keeps _ (inputs (count + steps)) ih.1, Nat.le_trans ?_ ih.2⟩
        by_cases changed : (machine.step (machine.after start inputs (count + steps)) (inputs (count + steps))).1 =
            machine.after start inputs (count + steps)
        · exact Nat.le_of_eq (congrArg measure changed)
        · exact Nat.le_of_lt (lowers _ _ ih.1 changed)
  -- The induction is on the measure of the state from which on the run is looked at.
  have rests : ∀ value count, property (machine.after start inputs count) →
      measure (machine.after start inputs count) = value → ∃ last, count ≤ last ∧
        ∀ steps, machine.after start inputs (last + steps) = machine.after start inputs last := by
    intro value
    induction value using Nat.strongRecOn with
    | ind value ih =>
        intro count now same
        by_cases still : ∀ steps, machine.after start inputs (count + steps + 1) =
            machine.after start inputs (count + steps)
        · refine ⟨count, Nat.le_refl _, fun steps => ?_⟩
          induction steps with
          | zero => rfl
          | succ steps stays => exact (still steps).trans stays
        · obtain ⟨steps, changed⟩ := not_forall.mp still
          obtain ⟨there, bound⟩ := falling count steps now
          have lower := lowers _ (inputs (count + steps)) there changed
          obtain ⟨last, behind, stays⟩ := ih _ (same ▸ Nat.lt_of_lt_of_le lower bound) (count + steps + 1)
            (keeps _ _ there) rfl
          exact ⟨last, Nat.le_trans (Nat.le_add_right_of_le (Nat.le_add_right count steps)) behind, stays⟩
  exact rests _ first holds rfl

end Forever

/-- A guarded run is accepted when every guarded step is accepted from related states. -/
theorem run_accepted {Abstract : Type*} (machine : Machine State Input Output)
    (accept : Abstract → Output → Option Abstract) (guard : State → Input → Prop)
    (related : State → Abstract → Prop)
    (refines : ∀ state abstract input, related state abstract → guard state input →
      ∃ next, (machine.step state input).2.foldlM accept abstract = some next ∧
        related (machine.step state input).1 next)
    (state : State) (abstract : Abstract) (inputs : List Input) (initial : related state abstract)
    (guarded : machine.Along guard state inputs) :
    ∃ final, (machine.run state inputs).2.foldlM accept abstract = some final ∧
      related (machine.run state inputs).1 final := by
  induction inputs generalizing state abstract with
  | nil => exact ⟨abstract, rfl, initial⟩
  | cons input rest ih =>
      obtain ⟨here, later⟩ := guarded
      obtain ⟨next, accepted, kept⟩ := refines state abstract input initial here
      obtain ⟨final, further, reached⟩ := ih _ next kept later
      refine ⟨final, ?_, reached⟩
      rw [run_cons, List.foldlM_append, accepted]
      exact further

end Machine

end SecureChat.Library
