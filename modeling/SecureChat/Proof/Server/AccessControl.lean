import SecureChat.Construction.Server.MessageHandler

namespace SecureChat.Dispatch
open Library

/-- The event of the slot that the output reports. -/
def gateOf (slot : Nat) : DispatchOutput → Option GateEvent
  | .gate other event => if other = slot then some event else none
  | _ => none

/-- The most recent event of the slot. -/
def lastGate (slot : Nat) (outputs : List DispatchOutput) : Option GateEvent :=
  (outputs.filterMap (gateOf slot)).getLast?

/-- Whether the connection of the slot counts as logged in. -/
def authenticatedAt (state : DispatchState) (slot : Nat) : Option Bool :=
  (state.pool.connections[slot]?).map fun conn => decide (conn.state = .authenticated)

/-- Exactly the connections whose most recent event is a login count as logged in. -/
def LoginsMatch (state : DispatchState) (outputs : List DispatchOutput) : Prop :=
  ∀ slot value, authenticatedAt state slot = some value →
    (value = true ↔ lastGate slot outputs = some .login)

/-- No type of message has two handlers. -/
def UniqueHandlers (manager : HandlerManager) : Prop :=
  (manager.handlers.map HandlerEntry.messageType).Nodup

section Manager

variable {manager : HandlerManager} (unique : UniqueHandlers manager)
include unique

theorem UniqueHandlers.register (messageType : UInt32) (handler : Option Handler)
    (requireAuth requireEncryption mallocOk : Bool) :
    UniqueHandlers
      (messageHandlerRegister manager messageType handler requireAuth requireEncryption mallocOk).2 := by
  unfold messageHandlerRegister
  split
  · exact unique
  · split
    · exact unique
    · rename_i unknown
      split
      · exact unique
      · refine List.nodup_cons.mpr ⟨fun member => unknown ?_, unique⟩
        obtain ⟨entry, there, same⟩ := List.mem_map.mp member
        unfold findHandler
        rw [List.find?_isSome]
        exact ⟨entry, there, beq_iff_eq.mpr same⟩

theorem UniqueHandlers.unregister (messageType : UInt32) (handler : Option Handler) :
    UniqueHandlers (messageHandlerUnregister manager messageType handler).2 := by
  unfold messageHandlerUnregister
  split
  · exact unique
  · split
    · exact unique.sublist (List.eraseP_sublist.map _)
    · exact unique

theorem UniqueHandlers.registerDefault (mallocOk : UInt32 → Bool) :
    UniqueHandlers (registerDefaultHandlers manager mallocOk) := by
  unfold registerDefaultHandlers
  induction defaultHandlers generalizing manager with
  | nil => exact unique
  | cons entry entries ih => exact ih (unique.register ..)

end Manager

/-- The check of the login passes, or it is counted. -/
theorem validateMessageAuth_cases (manager : HandlerManager) (conn : ClientConnection) (entry : HandlerEntry) :
    (validateMessageAuth manager conn entry = (true, manager) ∧
        (entry.requireAuth = true → conn.state = .authenticated)) ∨
      (validateMessageAuth manager conn entry = (false, updateStatistics manager false true false) ∧
        ¬ (entry.requireAuth = true → conn.state = .authenticated)) := by
  unfold validateMessageAuth
  cases required : entry.requireAuth with
  | false => exact .inl ⟨rfl, nofun⟩
  | true =>
      rw [Bool.not_true, if_neg Bool.false_ne_true]
      split
      · rename_i outside
        exact .inr ⟨rfl, fun inside => outside (inside rfl)⟩
      · rename_i inside
        exact .inl ⟨rfl, fun _ => Decidable.not_not.mp inside⟩

theorem validateMessageEncryption_cases (manager : HandlerManager) (conn : ClientConnection)
    (entry : HandlerEntry) :
    (validateMessageEncryption manager conn entry = (true, manager) ∧
        (entry.requireEncryption = true → conn.encryptionEnabled = true)) ∨
      (validateMessageEncryption manager conn entry = (false, updateStatistics manager false false true) ∧
        ¬ (entry.requireEncryption = true → conn.encryptionEnabled = true)) := by
  unfold validateMessageEncryption
  cases required : entry.requireEncryption with
  | false => exact .inl ⟨rfl, nofun⟩
  | true =>
      cases enabled : conn.encryptionEnabled with
      | false => exact .inr ⟨rfl, fun inside => nomatch inside rfl⟩
      | true => exact .inl ⟨rfl, fun _ => rfl⟩

section Check

variable (layout : Layout) (manager : HandlerManager) (conn : Option ClientConnection) (messageType : UInt32)
  (data : Option (List UInt8))

/-- The message finds a handler, is long enough, and the connection has what the handler requires. -/
def Admissible (entry : HandlerEntry) (bytes : List UInt8) : Prop :=
  ∃ there, conn = some there ∧ data = some bytes ∧ bytes.length ≠ 0 ∧
    findHandler manager.handlers messageType = some entry ∧
    messageValidateIntegrity layout bytes messageType = true ∧
    (entry.requireAuth = true → there.state = .authenticated) ∧
    (entry.requireEncryption = true → there.encryptionEnabled = true)

/-- A message that is long enough for its handler is admitted, if the connection has what the handler requires. -/
theorem checkMessage_whole {there : ClientConnection} {bytes : List UInt8} {entry : HandlerEntry}
    (filled : bytes.length ≠ 0) (found : findHandler manager.handlers messageType = some entry)
    (whole : messageValidateIntegrity layout bytes messageType = true) :
    (checkMessage layout manager (some there) messageType (some bytes) = .admitted entry bytes ∧
        (entry.requireAuth = true → there.state = .authenticated) ∧
        (entry.requireEncryption = true → there.encryptionEnabled = true)) ∨
      (¬ ((entry.requireAuth = true → there.state = .authenticated) ∧
          (entry.requireEncryption = true → there.encryptionEnabled = true)) ∧
        ∃ code stats, code < 0 ∧ checkMessage layout manager (some there) messageType (some bytes) =
          .rejected code { manager with stats := stats }) := by
  unfold checkMessage
  dsimp only
  rw [if_neg filled, found]
  dsimp only
  rw [whole, Bool.not_true, if_neg Bool.false_ne_true]
  rcases validateMessageAuth_cases manager there entry with ⟨auth, login⟩ | ⟨auth, outside⟩
  · rw [auth]
    dsimp only
    rcases validateMessageEncryption_cases manager there entry with ⟨encryption, enabled⟩ | ⟨encryption, plain⟩
    · rw [encryption]
      exact .inl ⟨rfl, login, enabled⟩
    · rw [encryption]
      exact .inr ⟨fun both => plain both.2, -5, _, by decide, rfl⟩
  · rw [auth]
    exact .inr ⟨fun both => outside both.1, -4, _, by decide, rfl⟩

/-- A message is admitted, or it is not admissible and changes the statistics only. -/
theorem checkMessage_cases :
    (∃ entry bytes, checkMessage layout manager conn messageType data = .admitted entry bytes ∧
        Admissible layout manager conn messageType data entry bytes) ∨
      ((¬ ∃ entry bytes, Admissible layout manager conn messageType data entry bytes) ∧
        ∃ code stats, code < 0 ∧
          checkMessage layout manager conn messageType data = .rejected code { manager with stats := stats }) := by
  unfold Admissible
  cases conn with
  | none => exact .inr ⟨fun ⟨_, _, _, missing, _⟩ => (nomatch missing), -1, manager.stats, by decide, rfl⟩
  | some there =>
      cases data with
      | none => exact .inr ⟨fun ⟨_, _, _, _, missing, _⟩ => (nomatch missing), -1, manager.stats, by decide, rfl⟩
      | some bytes =>
          by_cases empty : bytes.length = 0
          · refine .inr ⟨?_, -1, manager.stats, by decide, if_pos empty⟩
            rintro ⟨_, _, _, _, same, filled, _⟩
            exact filled (Option.some.inj same ▸ empty)
          · cases found : findHandler manager.handlers messageType with
            | none =>
                refine .inr ⟨?_, -2, (updateStatistics manager false false false).stats, by decide, ?_⟩
                · rintro ⟨_, _, _, _, _, _, other, _⟩
                  cases other
                · unfold checkMessage
                  dsimp only
                  rw [if_neg empty, found]
                  rfl
            | some entry =>
                cases whole : messageValidateIntegrity layout bytes messageType with
                | false =>
                    refine .inr ⟨?_, -3, { manager.stats with
                      invalidMessages := manager.stats.invalidMessages + 1 }, by decide, ?_⟩
                    · rintro ⟨_, _, _, _, same, _, _, valid, _⟩
                      rw [← Option.some.inj same, whole] at valid
                      cases valid
                    · unfold checkMessage
                      dsimp only
                      rw [if_neg empty, found]
                      dsimp only
                      rw [whole]
                      rfl
                | true =>
                    rcases checkMessage_whole layout manager messageType empty found whole with
                      ⟨admitted, login, enabled⟩ | ⟨lacks, code, stats, negative, rejected⟩
                    · exact .inl ⟨entry, bytes, admitted, there, rfl, rfl, empty, rfl, whole, login, enabled⟩
                    · refine .inr ⟨?_, code, stats, negative, rejected⟩
                      rintro ⟨_, _, other, same, _, _, handler, _, login, enabled⟩
                      cases same
                      cases handler
                      exact lacks ⟨login, enabled⟩

end Check

section Effects

variable (state : DispatchState)

theorem applyEffect_uniqueHandlers (unique : UniqueHandlers state.manager) (effect : Effect) :
    UniqueHandlers (applyEffect state effect).1.manager := by
  cases effect with
  | register messageType handler requireAuth requireEncryption mallocOk => exact unique.register ..
  | unregister messageType handler => exact unique.unregister ..
  | _ => exact unique

theorem authenticatedAt_change (slot other : Nat) (change : ClientConnection → ClientConnection) :
    authenticatedAt (changeConnection state slot change) other =
      if slot = other then
        (state.pool.connections[other]?).map fun conn => decide ((change conn).state = .authenticated)
      else authenticatedAt state other := by
  unfold authenticatedAt changeConnection
  dsimp only
  rw [List.getElem?_modify]
  split
  · cases state.pool.connections[other]? <;> rfl
  · cases state.pool.connections[other]? <;> rfl

/-- A change that keeps the state of a connection keeps who is logged in. -/
theorem authenticatedAt_kept (slot other : Nat) (change : ClientConnection → ClientConnection)
    (kept : ∀ conn, (change conn).state = conn.state) :
    authenticatedAt (changeConnection state slot change) other = authenticatedAt state other := by
  rw [authenticatedAt_change]
  split
  · unfold authenticatedAt
    simp only [kept]
  · rfl

/-- The output is the only event, and it tells who is logged in from now on. -/
def Gated (next : DispatchState) (slot : Nat) (event : GateEvent) : Prop :=
  authenticatedAt next slot = some (decide (event = .login)) ∧
    ∀ other, other ≠ slot → authenticatedAt next other = authenticatedAt state other

/-- An effect keeps who is logged in, or it reports one event of one slot. -/
def Reported (result : DispatchState × List DispatchOutput) : Prop :=
  (result.2 = [] ∧ ∀ slot, authenticatedAt result.1 slot = authenticatedAt state slot) ∨
    ∃ slot event, result.2 = [.gate slot event] ∧ Gated state result.1 slot event

theorem reported_change (slot : Nat) (event : GateEvent) (change : ClientConnection → ClientConnection)
    (sets : ∀ conn, (change conn).state = .authenticated ↔ event = .login) :
    Reported state (changeConnection state slot change, gateAt state slot event) := by
  unfold gateAt
  split
  · rename_i inside
    refine .inr ⟨slot, event, rfl, ?_, fun other apart => ?_⟩
    · rw [authenticatedAt_change, if_pos rfl, List.getElem?_eq_getElem inside, Option.map_some]
      simp only [sets]
    · rw [authenticatedAt_change, if_neg (Ne.symm apart)]
  · rename_i outside
    refine .inl ⟨rfl, fun other => ?_⟩
    rw [authenticatedAt_change]
    split
    · rename_i same
      subst same
      unfold authenticatedAt
      rw [List.getElem?_eq_none (Nat.not_lt.mp outside)]
      rfl
    · rfl

theorem connectionClose_state (conn : ClientConnection) : (connectionClose conn).state ≠ .authenticated := by
  unfold connectionClose
  split
  · rename_i ended
    rcases ended with closing | closed
    · rw [closing]
      decide
    · rw [closed]
      decide
  · exact nofun

theorem reported_poolAdd (fd : Int) (initOk : Bool) : Reported state (applyEffect state (.poolAdd fd initOk)) := by
  have same : Reported state (state, []) := .inl ⟨rfl, fun _ => rfl⟩
  dsimp only [applyEffect]
  unfold connectionPoolAdd
  split
  · exact same
  · cases found : allocateConnection state.pool with
    | none => exact same
    | some slot =>
        have inside : slot < state.pool.connections.length := by
          unfold allocateConnection at found
          split at found
          · cases found
          · exact (List.findIdx?_eq_some_iff_findIdx_eq.mp found).1
        have cleared : ∀ conn : ClientConnection, conn.state = .new → ∀ count nextConnectionId,
            Gated state { state with pool :=
              ⟨state.pool.connections.set slot conn, count, nextConnectionId⟩ } slot .reuse := by
          intro conn fresh count nextConnectionId
          unfold Gated authenticatedAt
          refine ⟨?_, fun other apart => ?_⟩
          · rw [List.getElem?_set_self inside, Option.map_some, fresh]
            rfl
          · rw [List.getElem?_set_ne apart.symm]
        cases initOk with
        | true => exact .inr ⟨slot, .reuse, rfl, cleared _ rfl _ _⟩
        | false => exact .inr ⟨slot, .reuse, rfl, cleared _ rfl _ _⟩

theorem applyEffect_reported (effect : Effect) : Reported state (applyEffect state effect) := by
  have quiet : ∀ slot change, (∀ conn, (change conn).state = conn.state) →
      Reported state (changeConnection state slot change, []) :=
    fun slot change kept => .inl ⟨rfl, fun other => authenticatedAt_kept state slot other change kept⟩
  cases effect with
  | setUserInfo slot userId username nickname =>
      exact reported_change state slot .login _ fun _ => iff_of_true rfl rfl
  | clearUserInfo slot => exact reported_change state slot .logout _ fun _ => iff_of_false nofun nofun
  | close slot =>
      exact reported_change state slot .close _ fun conn => iff_of_false (connectionClose_state conn) nofun
  | enableSsl slot newOk acceptOk =>
      refine quiet slot _ fun conn => ?_
      unfold connectionEnableSsl
      split <;> rfl
  | attachSsl slot newOk =>
      refine quiet slot _ fun conn => ?_
      unfold attachSsl
      split <;> rfl
  | disableSsl slot =>
      refine quiet slot _ fun conn => ?_
      unfold connectionDisableSsl
      split <;> rfl
  | poolAdd fd initOk => exact reported_poolAdd state fd initOk
  | register messageType handler requireAuth requireEncryption mallocOk => exact .inl ⟨rfl, fun _ => rfl⟩
  | unregister messageType handler => exact .inl ⟨rfl, fun _ => rfl⟩

end Effects

section History

variable {state : DispatchState} {outputs : List DispatchOutput}

theorem lastGate_append (slot : Nat) (event : GateEvent) (other : Nat) :
    lastGate other (outputs ++ [.gate slot event]) =
      if slot = other then some event else lastGate other outputs := by
  unfold lastGate
  rw [List.filterMap_append]
  split
  · rename_i same
    simp [gateOf, same]
  · rename_i apart
    simp [gateOf, apart]

theorem LoginsMatch.applyEffect (logins : LoginsMatch state outputs) (effect : Effect) :
    LoginsMatch (applyEffect state effect).1 (outputs ++ (applyEffect state effect).2) := by
  rcases applyEffect_reported state effect with ⟨none, kept⟩ | ⟨slot, event, one, set, others⟩
  · rw [none, List.append_nil]
    intro slot value there
    exact logins slot value ((kept slot).symm.trans there)
  · rw [one]
    intro other value there
    rw [lastGate_append]
    split
    · rename_i same
      subst same
      rw [set] at there
      rw [← Option.some.inj there, decide_eq_true_iff, Option.some.injEq]
    · rename_i apart
      exact logins other value ((others other (Ne.symm apart)).symm.trans there)

/-- What is no event does not matter. -/
theorem LoginsMatch.silent (logins : LoginsMatch state outputs) (output : DispatchOutput)
    (silent : ∀ slot, gateOf slot output = none) : LoginsMatch state (outputs ++ [output]) := by
  intro slot value there
  have same : lastGate slot (outputs ++ [output]) = lastGate slot outputs := by
    unfold lastGate
    rw [List.filterMap_append, List.filterMap_cons, silent slot, List.filterMap_nil, List.append_nil]
  rw [same]
  exact logins slot value there

theorem effects_uniqueHandlers (unique : UniqueHandlers state.manager) (effects : List Effect) :
    UniqueHandlers (effectMachine.run state effects).1.manager :=
  effectMachine.run_always (fun state => UniqueHandlers state.manager)
    (fun state effect unique => applyEffect_uniqueHandlers state unique effect) state effects unique

/-- Whatever a handler does, the events tell who is logged in. -/
theorem LoginsMatch.effects (logins : LoginsMatch state outputs) (effects : List Effect) :
    LoginsMatch (effectMachine.run state effects).1 (outputs ++ (effectMachine.run state effects).2) :=
  effectMachine.history_always LoginsMatch (fun _ effect _ logins => logins.applyEffect effect)
    state effects outputs logins

/-- No effect runs a handler. -/
theorem effects_run_nothing (effects : List Effect) (slot : Nat) (entry : HandlerEntry) :
    DispatchOutput.ran slot entry ∉ (effectMachine.run state effects).2 := by
  intro member
  refine effectMachine.outputs_always (fun output => output ≠ .ran slot entry) ?_ state effects _ member rfl
  intro state effect output reported
  rcases applyEffect_reported state effect with ⟨none, -⟩ | ⟨slot, event, one, -⟩
  · rw [show (effectMachine.step state effect).2 = [] from none] at reported
    cases reported
  · rw [show (effectMachine.step state effect).2 = [.gate slot event] from one] at reported
    rw [List.mem_singleton.mp reported]
    exact nofun

end History

section Step

variable (layout : Layout) (state : DispatchState)

/-- A message is admitted and its handler runs, or it is turned away and the statistics change. -/
theorem messageHandlerProcess_cases (slot : Nat) (messageType : UInt32) (data : Option (List UInt8))
    (effects : List Effect) (result : Int) :
    (∃ entry bytes,
        Admissible layout state.manager (state.pool.connections[slot]?) messageType data entry bytes ∧
        messageHandlerProcess layout state slot messageType data effects result =
          ({ (effectMachine.run state effects).1 with
              manager := updateStatistics (effectMachine.run state effects).1.manager (result == 0) false false },
            .ran slot entry :: ((effectMachine.run state effects).2 ++ [.returned result]))) ∨
      ((¬ ∃ entry bytes,
          Admissible layout state.manager (state.pool.connections[slot]?) messageType data entry bytes) ∧
        ∃ code stats, code < 0 ∧ messageHandlerProcess layout state slot messageType data effects result =
          ({ state with manager := { state.manager with stats := stats } }, [.returned code])) := by
  unfold messageHandlerProcess
  rcases checkMessage_cases layout state.manager (state.pool.connections[slot]?) messageType data with
    ⟨entry, bytes, admitted, admissible⟩ | ⟨none, code, stats, negative, rejected⟩
  · rw [admitted]
    exact .inl ⟨entry, bytes, admissible, rfl⟩
  · rw [rejected]
    exact .inr ⟨none, code, stats, negative, rfl⟩

variable {state}

theorem dispatchStep_uniqueHandlers (unique : UniqueHandlers state.manager) (input : DispatchInput) :
    UniqueHandlers (dispatchStep layout state input).1.manager := by
  cases input with
  | effect effect => exact applyEffect_uniqueHandlers state unique effect
  | message slot messageType data effects result =>
      unfold dispatchStep
      dsimp only
      rcases messageHandlerProcess_cases layout state slot messageType data effects result with
        ⟨entry, bytes, -, admitted⟩ | ⟨-, code, stats, -, rejected⟩
      · rw [admitted]
        exact effects_uniqueHandlers unique effects
      · rw [rejected]
        exact unique

theorem LoginsMatch.dispatchStep {outputs : List DispatchOutput} (logins : LoginsMatch state outputs)
    (input : DispatchInput) :
    LoginsMatch (dispatchStep layout state input).1 (outputs ++ (dispatchStep layout state input).2) := by
  cases input with
  | effect effect => exact logins.applyEffect effect
  | message slot messageType data effects result =>
      unfold Dispatch.dispatchStep
      dsimp only
      rcases messageHandlerProcess_cases layout state slot messageType data effects result with
        ⟨entry, bytes, -, admitted⟩ | ⟨-, code, stats, -, rejected⟩
      · rw [admitted]
        have ran := logins.silent (.ran slot entry) fun _ => rfl
        have returned := (ran.effects effects).silent (.returned result) fun _ => rfl
        rw [List.append_assoc, List.append_assoc] at returned
        exact returned
      · rw [rejected]
        exact logins.silent (.returned code) fun _ => rfl

/-- A handler runs only for a message that is admissible. -/
theorem dispatchStep_ran (input : DispatchInput) (slot : Nat) (entry : HandlerEntry)
    (ran : DispatchOutput.ran slot entry ∈ (dispatchStep layout state input).2) :
    ∃ messageType data bytes,
      Admissible layout state.manager (state.pool.connections[slot]?) messageType data entry bytes := by
  cases input with
  | effect effect =>
      rcases applyEffect_reported state effect with ⟨none, -⟩ | ⟨other, event, one, -⟩
      · rw [show (dispatchStep layout state (.effect effect)).2 = [] from none] at ran
        cases ran
      · rw [show (dispatchStep layout state (.effect effect)).2 = [.gate other event] from one] at ran
        cases List.mem_singleton.mp ran
  | message other messageType data effects result =>
      unfold dispatchStep at ran
      dsimp only at ran
      rcases messageHandlerProcess_cases layout state other messageType data effects result with
        ⟨own, bytes, admissible, admitted⟩ | ⟨-, code, stats, -, rejected⟩
      · rw [admitted] at ran
        rcases List.mem_cons.mp ran with here | later
        · obtain ⟨rfl, rfl⟩ := DispatchOutput.ran.inj here
          exact ⟨messageType, data, bytes, admissible⟩
        · rcases List.mem_append.mp later with inside | behind
          · exact absurd inside (effects_run_nothing effects slot entry)
          · cases List.mem_singleton.mp behind
      · rw [rejected] at ran
        cases List.mem_singleton.mp ran

end Step

/-- The server when it starts. -/
def dispatchInit (capacity : Nat) (mallocOk : UInt32 → Bool) : DispatchState :=
  ⟨messageHandlerManagerCreate mallocOk, connectionPoolCreate capacity⟩

theorem dispatchInit_uniqueHandlers (capacity : Nat) (mallocOk : UInt32 → Bool) :
    UniqueHandlers (dispatchInit capacity mallocOk).manager := by
  have none : UniqueHandlers ⟨[], ⟨0, 0, 0, 0, 0⟩⟩ := List.nodup_nil
  unfold dispatchInit messageHandlerManagerCreate
  dsimp only
  exact none.registerDefault mallocOk

theorem dispatchInit_loginsMatch (capacity : Nat) (mallocOk : UInt32 → Bool) :
    LoginsMatch (dispatchInit capacity mallocOk) [] := by
  intro slot value there
  unfold authenticatedAt dispatchInit connectionPoolCreate at there
  rw [List.getElem?_replicate] at there
  split at there
  · rw [Option.map_some, Option.some.injEq] at there
    rw [← there]
    exact iff_of_false (by decide) nofun
  · cases there

/-- No type of message has two handlers. A handler that requires a login runs only if the most recent event
of its connection is a login, and one that requires encryption runs only if the connection has it.
Every other message calls no handler and changes the statistics only. -/
theorem dispatchMachine_accessControl (layout : Layout) (capacity : Nat) (mallocOk : UInt32 → Bool)
    (inputs : List DispatchInput) :
    (∀ visited ∈ (dispatchMachine layout).states (dispatchInit capacity mallocOk) inputs,
        (visited.manager.handlers.map HandlerEntry.messageType).Nodup ∧
          ∀ slot messageType data effects result,
            (¬ ∃ entry bytes,
              Admissible layout visited.manager (visited.pool.connections[slot]?) messageType data entry bytes) →
            ∃ code stats, code < 0 ∧
              (dispatchMachine layout).step visited (.message slot messageType data effects result) =
                ({ visited with manager := { visited.manager with stats := stats } }, [.returned code])) ∧
      ∀ earlier input later, inputs = earlier ++ input :: later → ∀ slot entry,
        DispatchOutput.ran slot entry ∈ ((dispatchMachine layout).step
          ((dispatchMachine layout).run (dispatchInit capacity mallocOk) earlier).1 input).2 →
        (entry.requireAuth = true →
          lastGate slot ((dispatchMachine layout).run (dispatchInit capacity mallocOk) earlier).2 = some .login) ∧
        (entry.requireEncryption = true → ∃ conn,
          ((dispatchMachine layout).run (dispatchInit capacity mallocOk) earlier).1.pool.connections[slot]? =
            some conn ∧ conn.encryptionEnabled = true) := by
  have unique := dispatchInit_uniqueHandlers capacity mallocOk
  have logins := dispatchInit_loginsMatch capacity mallocOk
  refine ⟨fun visited member => ⟨?_, fun slot messageType data effects result none => ?_⟩, ?_⟩
  · exact (dispatchMachine layout).states_always (fun state => UniqueHandlers state.manager)
      (fun state input unique => dispatchStep_uniqueHandlers layout unique input) _ inputs unique visited member
  · rcases messageHandlerProcess_cases layout visited slot messageType data effects result with
      ⟨entry, bytes, admissible, -⟩ | ⟨-, rejected⟩
    · exact absurd ⟨entry, bytes, admissible⟩ none
    · exact rejected
  · rintro earlier input later - slot entry ran
    obtain ⟨messageType, data, bytes, conn, there, -, -, -, -, login, enabled⟩ :=
      dispatchStep_ran layout input slot entry ran
    have matching := (dispatchMachine layout).history_always LoginsMatch
      (fun state input outputs logins => logins.dispatchStep layout input) _ earlier [] logins
    refine ⟨fun required => ?_, fun required => ⟨conn, there, enabled required⟩⟩
    have inside : authenticatedAt ((dispatchMachine layout).run (dispatchInit capacity mallocOk) earlier).1 slot =
        some true := by
      unfold authenticatedAt
      rw [there, Option.map_some, login required]
      rfl
    exact (matching slot true inside).mp rfl

/-- A logout is turned away before the login and after the logout. -/
example :
    ((dispatchMachine ⟨1, 1, 1, 1, 1, 1, 1, 1, 1, 1, 1⟩).run (dispatchInit 1 fun _ => true)
        [.effect (.poolAdd 5 true), .message 0 msgAuthLogout (some [1]) [.clearUserInfo 0] 0,
          .message 0 msgAuthLogin (some [1]) [.setUserInfo 0 7 none none] 0,
          .message 0 msgAuthLogout (some [1]) [.clearUserInfo 0] 0,
          .message 0 msgAuthLogout (some [1]) [.clearUserInfo 0] 0]).2 =
      [.gate 0 .reuse, .returned (-4), .ran 0 ⟨msgAuthLogin, .authLogin, false, false⟩, .gate 0 .login, .returned 0,
        .ran 0 ⟨msgAuthLogout, .authLogout, true, false⟩, .gate 0 .logout, .returned 0, .returned (-4)] := by
  decide +kernel

end SecureChat.Dispatch
