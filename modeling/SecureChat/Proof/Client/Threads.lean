import SecureChat.Construction.Client.Threads
import SecureChat.Library.Threads

namespace SecureChat.Client.Threads
open Library

def Online (state : ClientState) : Prop := state = .connected ∨ state = .authenticated

/-- From these states the application can connect again. -/
def Offline (state : ClientState) : Prop := state = .error ∨ state = .disconnected

def ReconnectPc.Running (place : ReconnectPc) : Prop := place ≠ .absent ∧ place ≠ .ended

/-- A disconnect is in progress once it has found something to disconnect. -/
def ApplicationPc.disconnecting : ApplicationPc → Bool
  | .disconnect .check => false
  | .disconnect _ => true
  | _ => false

namespace System

/-- Both threads of the connection have ended. -/
def Lost (system : System) : Prop :=
  system.receive system.connections = .ended ∧ system.heartbeat system.connections = .ended

def Rescued (system : System) : Prop := ∃ thread, (system.reconnect thread).Running

/-- Nobody is there any more who would connect again. -/
def Stranded (system : System) : Prop :=
  system.Lost ∧ system.application.disconnecting = false ∧ ¬ system.Rescued

end System

/-- A connected client has an active connection,
and a client without threads can be connected again by the application. -/
structure NeverStuck (system : System) : Prop where
  active : Online system.client.state → system.client.connectionActive = true
  reachable : system.Stranded → Offline system.client.state

/-- A loss is not noticed when nobody is left, no connection is given up while it counts as connected,
and the thread that ends last leaves a client that can be connected again. -/
def ReceiveSafe (system : System) (thread : Nat) : ReceivePc → Prop
  | .reconnecting => ¬ system.Stranded
  | .clearing => ¬ Online system.client.state
  | .returning => thread = system.connections → system.heartbeat thread = .ended →
      system.application.disconnecting = false → ¬ system.Rescued → Offline system.client.state
  | _ => True

def HeartbeatSafe (system : System) (thread : Nat) : HeartbeatPc → Prop
  | .clearing => ¬ Online system.client.state
  | .returning => thread = system.connections → system.receive thread = .ended →
      system.application.disconnecting = false → ¬ system.Rescued → Offline system.client.state
  | _ => True

/-- Only an active connection is announced, and the last thread that connects again
does not leave before its work is done. -/
def ReconnectSafe (system : System) (thread : Nat) : ReconnectPc → Prop
  | .announcing => system.client.connectionActive = true
  | .returning => system.Lost → system.application.disconnecting = false →
      (¬ ∃ other, other ≠ thread ∧ (system.reconnect other).Running) → Offline system.client.state
  | _ => True

def ApplicationSafe (system : System) : ApplicationPc → Prop
  | .connect .finishing => system.client.connectionActive = true ∧ ¬ system.Stranded
  | .connect (.cleanup next) => next = .active → ¬ Online system.client.state
  | .disconnect (.cleanup next) => next = .active → ¬ Online system.client.state
  | .login .announcing => ¬ system.Stranded
  | .login .reverting => system.client.connectionActive = true ∧ ¬ system.Stranded
  | _ => True

def Safe (system : System) : Action → Prop
  | .receive thread _ _ => ReceiveSafe system thread (system.receive thread)
  | .heartbeat thread _ => HeartbeatSafe system thread (system.heartbeat thread)
  | .reconnect thread _ => ReconnectSafe system thread (system.reconnect thread)
  | .call _ => True
  | .application _ => ApplicationSafe system system.application

section Steps

variable {system : System}

theorem not_online_of_eq {state : ClientState} (connected : state ≠ .connected)
    (authenticated : state ≠ .authenticated) : ¬ Online state := by
  rintro (same | same)
  · exact connected same
  · exact authenticated same

/-- A written state is right for the connection, and it is one to connect from if nobody is left. -/
theorem updateClientState_iff (newState : ClientState) : NeverStuck (system.updateClientState newState) ↔
    (Online newState → system.client.connectionActive = true) ∧ (system.Stranded → Offline newState) :=
  ⟨fun valid => ⟨valid.active, valid.reachable⟩, fun ⟨active, reachable⟩ => ⟨active, reachable⟩⟩

theorem setActive_true (valid : NeverStuck system) : NeverStuck (system.setActive true) :=
  ⟨fun _ => rfl, valid.reachable⟩

theorem setActive_false (valid : NeverStuck system) :
    NeverStuck (system.setActive false) ↔ ¬ Online system.client.state :=
  ⟨fun next online => Bool.false_ne_true (next.active online),
    fun offline => ⟨fun online => absurd online offline, valid.reachable⟩⟩

/-- Only who is stranded decides, as long as the state and the connection stay. -/
theorem stranded_congr {later : System} (client : later.client = system.client)
    (same : later.Stranded ↔ system.Stranded) : NeverStuck later ↔ NeverStuck system := by
  constructor
  · rintro ⟨active, reachable⟩
    rw [client] at active reachable
    exact ⟨active, fun stranded => reachable (same.mpr stranded)⟩
  · rintro ⟨active, reachable⟩
    rw [← client] at active reachable
    exact ⟨active, fun stranded => reachable (same.mp stranded)⟩

/-- A receive thread that goes on strands nobody. -/
theorem receiveAt_iff (system : System) (thread : Nat) (next : ReceivePc) {place : ReceivePc}
    (here : system.receive thread = place) (alive : place ≠ .ended) (going : next ≠ .ended) :
    NeverStuck (system.receiveAt thread next) ↔ NeverStuck system :=
  stranded_congr rfl <| and_congr_left fun _ => and_congr_left fun _ =>
    update_side system.receive (· = .ended) thread next (iff_of_false going (here ▸ alive)) system.connections

theorem heartbeatAt_iff (system : System) (thread : Nat) (next : HeartbeatPc) {place : HeartbeatPc}
    (here : system.heartbeat thread = place) (alive : place ≠ .ended) (going : next ≠ .ended) :
    NeverStuck (system.heartbeatAt thread next) ↔ NeverStuck system :=
  stranded_congr rfl <| and_congr_left fun _ => and_congr_right fun _ =>
    update_side system.heartbeat (· = .ended) thread next (iff_of_false going (here ▸ alive)) system.connections

theorem reconnectAt_iff (system : System) (thread : Nat) (next : ReconnectPc) {place : ReconnectPc}
    (here : system.reconnect thread = place) (alive : place.Running) (going : next.Running) :
    NeverStuck (system.reconnectAt thread next) ↔ NeverStuck system :=
  stranded_congr rfl <| and_congr_right fun _ => and_congr_right fun _ => not_congr <|
    exists_update_side system.reconnect ReconnectPc.Running thread next (iff_of_true going (here ▸ alive))

/-- A new thread does not end a connection. -/
theorem createReceive_kept (connection : Nat) (valid : NeverStuck system) :
    NeverStuck (system.createReceive connection) := by
  refine ⟨valid.active, fun ⟨lost, others⟩ => valid.reachable ⟨⟨?_, lost.2⟩, others⟩⟩
  exact reached_before system.receive connection .testRunning .ended nofun system.connections lost.1

theorem createHeartbeat_kept (connection : Nat) (valid : NeverStuck system) :
    NeverStuck (system.createHeartbeat connection) := by
  refine ⟨valid.active, fun ⟨lost, others⟩ => valid.reachable ⟨⟨lost.1, ?_⟩, others⟩⟩
  exact reached_before system.heartbeat connection .testRunning .ended nofun system.connections lost.2

theorem createReconnect_kept (valid : NeverStuck system) : NeverStuck system.createReconnect := by
  refine ⟨valid.active, fun ⟨_, _, nobody⟩ => absurd ⟨system.reconnects, ?_⟩ nobody⟩
  show (Function.update system.reconnect system.reconnects .testCount system.reconnects).Running
  rw [Function.update_self]
  exact ⟨nofun, nofun⟩

/-- When more connections than before are lost, it matters who is left. -/
theorem lost_iff (system later : System) (client : later.client = system.client)
    (application : later.application = system.application) (reconnect : later.reconnect = system.reconnect)
    (last : Prop) (lost : later.Lost ↔ last ∨ system.Lost) (valid : NeverStuck system) :
    NeverStuck later ↔ (last → system.application.disconnecting = false → ¬ system.Rescued →
      Offline system.client.state) := by
  have rescued : later.Rescued ↔ system.Rescued := by rw [System.Rescued, System.Rescued, reconnect]
  constructor
  · intro next ended quiet nobody
    rw [← client]
    refine next.reachable ⟨lost.mpr (.inl ended), ?_, fun other => nobody (rescued.mp other)⟩
    rw [application]
    exact quiet
  · intro safe
    constructor
    · rw [client]
      exact valid.active
    · rintro ⟨gone, quiet, nobody⟩
      rw [application] at quiet
      rw [client]
      rcases lost.mp gone with ended | before
      · exact safe ended quiet fun other => nobody (rescued.mpr other)
      · exact valid.reachable ⟨before, quiet, fun other => nobody (rescued.mpr other)⟩

/-- The receive thread of the current connection ends last, or it does not matter. -/
theorem receive_ended (thread : Nat) (valid : NeverStuck system) :
    NeverStuck (system.receiveAt thread .ended) ↔ ReceiveSafe system thread .returning := by
  have lost : (system.receiveAt thread .ended).Lost ↔
      (thread = system.connections ∧ system.heartbeat thread = .ended) ∨ system.Lost := by
    have reaches := update_reaches system.receive thread .ended system.connections
    show Function.update system.receive thread .ended system.connections = .ended ∧
      system.heartbeat system.connections = .ended ↔ _
    rw [reaches, or_and_right, System.Lost]
    refine or_congr_left (and_congr_right fun same => ?_)
    rw [same]
  exact (lost_iff system (system.receiveAt thread .ended) rfl rfl rfl _ lost valid).trans and_imp

theorem heartbeat_ended (thread : Nat) (valid : NeverStuck system) :
    NeverStuck (system.heartbeatAt thread .ended) ↔ HeartbeatSafe system thread .returning := by
  have lost : (system.heartbeatAt thread .ended).Lost ↔
      (thread = system.connections ∧ system.receive thread = .ended) ∨ system.Lost := by
    have reaches := update_reaches system.heartbeat thread .ended system.connections
    show system.receive system.connections = .ended ∧
      Function.update system.heartbeat thread .ended system.connections = .ended ↔ _
    rw [reaches, and_or_left, System.Lost, and_comm]
    refine or_congr_left (and_congr_right fun same => ?_)
    rw [same]
  exact (lost_iff system (system.heartbeatAt thread .ended) rfl rfl rfl _ lost valid).trans and_imp

theorem reconnect_ended (thread : Nat) (valid : NeverStuck system) :
    NeverStuck (system.reconnectAt thread .ended) ↔ ReconnectSafe system thread .returning := by
  have rescued : (system.reconnectAt thread .ended).Rescued ↔
      ∃ other, other ≠ thread ∧ (system.reconnect other).Running :=
    exists_update_left system.reconnect ReconnectPc.Running thread .ended fun running => running.2 rfl
  constructor
  · intro next lost quiet nobody
    exact next.reachable ⟨lost, quiet, fun other => nobody (rescued.mp other)⟩
  · intro safe
    exact ⟨valid.active, fun ⟨lost, quiet, nobody⟩ => safe lost quiet fun other => nobody (rescued.mpr other)⟩

/-- One step of a receive thread keeps the client out of trouble exactly when it is safe. -/
theorem receiveThreadFunc_iff (thread : Nat) (reading : Reading) (created : Bool) (valid : NeverStuck system) :
    NeverStuck (receiveThreadFunc system thread reading created) ↔
      ReceiveSafe system thread (system.receive thread) := by
  have goes : ∀ {place next : ReceivePc}, system.receive thread = place → place ≠ .ended → next ≠ .ended →
      NeverStuck (system.receiveAt thread next) := fun here alive going =>
    (receiveAt_iff system thread _ here alive going).mpr valid
  unfold receiveThreadFunc
  cases place : system.receive thread with
  | absent => exact iff_of_true valid trivial
  | testRunning => exact iff_of_true (goes place nofun (by split <;> nofun)) trivial
  | testActive => exact iff_of_true (goes place nofun (by split <;> nofun)) trivial
  | enter => exact iff_of_true (goes place nofun (by split <;> nofun)) trivial
  | enterSocket => exact iff_of_true (goes place nofun (by split <;> nofun)) trivial
  | receiving =>
      refine iff_of_true ?_ trivial
      cases reading with
      | heartbeat => exact ⟨valid.active, valid.reachable⟩
      | handled => exact goes place nofun nofun
      | failed => exact goes place nofun nofun
  | lost =>
      refine iff_of_true (goes place nofun ?_) trivial
      split
      · exact nofun
      · split <;> exact nofun
  | reconnecting =>
      refine (receiveAt_iff (system.updateClientState .reconnecting) thread .testReconnect place nofun nofun).trans
         ((updateClientState_iff _).trans ?_)
      have online : ¬ Online .reconnecting := not_online_of_eq nofun nofun
      have offline : ¬ Offline .reconnecting := by simp [Offline]
      rw [and_iff_right fun same => absurd same online]
      exact ⟨fun next stranded => offline (next stranded), fun safe stranded => absurd stranded safe⟩
  | testReconnect => exact iff_of_true (goes place nofun (by split <;> nofun)) trivial
  | startReconnect =>
      refine iff_of_true ?_ trivial
      cases created with
      | true =>
          exact (receiveAt_iff system.createReconnect thread .clearing place nofun nofun).mpr
            (createReconnect_kept valid)
      | false => exact goes place nofun nofun
  | failing =>
      refine iff_of_true ?_ trivial
      refine (receiveAt_iff (system.updateClientState .error) thread .clearing place nofun nofun).mpr
        ((updateClientState_iff _).mpr ?_)
      exact ⟨fun online => absurd online (not_online_of_eq nofun nofun), fun _ => .inl rfl⟩
  | clearing =>
      exact (receiveAt_iff (system.setActive false) thread .returning place nofun nofun).trans
        (setActive_false valid)
  | returning => exact receive_ended thread valid
  | ended => exact iff_of_true valid trivial

theorem heartbeatThreadFunc_iff (thread : Nat) (now : UInt64) (valid : NeverStuck system) :
    NeverStuck (heartbeatThreadFunc system thread now) ↔
      HeartbeatSafe system thread (system.heartbeat thread) := by
  have goes : ∀ {place next : HeartbeatPc}, system.heartbeat thread = place → place ≠ .ended → next ≠ .ended →
      NeverStuck (system.heartbeatAt thread next) := fun here alive going =>
    (heartbeatAt_iff system thread _ here alive going).mpr valid
  unfold heartbeatThreadFunc
  cases place : system.heartbeat thread with
  | absent => exact iff_of_true valid trivial
  | testRunning => exact iff_of_true (goes place nofun (by split <;> nofun)) trivial
  | testActive => exact iff_of_true (goes place nofun (by split <;> nofun)) trivial
  | sleeping => exact iff_of_true (goes place nofun nofun) trivial
  | checkRunning => exact iff_of_true (goes place nofun (by split <;> nofun)) trivial
  | checkActive => exact iff_of_true (goes place nofun (by split <;> nofun)) trivial
  | timing => exact iff_of_true (goes place nofun (by split <;> nofun)) trivial
  | sending sent =>
      refine iff_of_true ?_ trivial
      exact (heartbeatAt_iff { system with client.lastHeartbeatSent := sent } thread .counting place nofun
        nofun).mpr ⟨valid.active, valid.reachable⟩
  | counting => exact iff_of_true (goes place nofun nofun) trivial
  | storing missed =>
      refine iff_of_true ?_ trivial
      exact (heartbeatAt_iff { system with client.heartbeatMissed := missed } thread .judging place nofun
        nofun).mpr ⟨valid.active, valid.reachable⟩
  | judging => exact iff_of_true (goes place nofun (by split <;> nofun)) trivial
  | clearing =>
      exact (heartbeatAt_iff (system.setActive false) thread .returning place nofun nofun).trans
        (setActive_false valid)
  | returning => exact heartbeat_ended thread valid
  | ended => exact iff_of_true valid trivial

/-- The receive threads of later connections do not exist yet. -/
structure Fresh (system : System) : Prop where
  absent : ∀ thread, system.connections < thread → system.receive thread = .absent
  reconnecting : ∀ thread connection, system.reconnect thread = .startReceive connection →
    connection ≤ system.connections
  connecting : ∀ connection, system.application = .connect (.opening connection) ∨
    system.application = .connect (.establishing connection) ∨
    system.application = .connect (.startReceive connection) → connection ≤ system.connections

/-- A new connection has no threads that could have ended. -/
theorem next_not_lost (fresh : Fresh system) (later : System) (same : later.receive = system.receive)
    (next : later.connections = system.connections + 1) : ¬ later.Lost := by
  intro lost
  have absent := fresh.absent (system.connections + 1) (Nat.lt_succ_self _)
  have ended := lost.1
  rw [same, next, absent] at ended
  cases ended

theorem reconnectThreadFunc_iff (thread : Nat) (answer : Answer) (fresh : Fresh system)
    (valid : NeverStuck system) :
    NeverStuck (reconnectThreadFunc system thread answer) ↔
      ReconnectSafe system thread (system.reconnect thread) := by
  have goes : ∀ {place next : ReconnectPc}, system.reconnect thread = place → place.Running → next.Running →
      NeverStuck (system.reconnectAt thread next) := fun here alive going =>
    (reconnectAt_iff system thread _ here alive going).mpr valid
  unfold reconnectThreadFunc
  cases place : system.reconnect thread with
  | absent => exact iff_of_true valid trivial
  | testCount => exact iff_of_true (goes place ⟨nofun, nofun⟩ (by split <;> exact ⟨nofun, nofun⟩)) trivial
  | testRunning => exact iff_of_true (goes place ⟨nofun, nofun⟩ (by split <;> exact ⟨nofun, nofun⟩)) trivial
  | sleeping => exact iff_of_true (goes place ⟨nofun, nofun⟩ ⟨nofun, nofun⟩) trivial
  | checkRunning => exact iff_of_true (goes place ⟨nofun, nofun⟩ (by split <;> exact ⟨nofun, nofun⟩)) trivial
  | opening =>
      refine iff_of_true ?_ trivial
      exact (reconnectAt_iff { system with client.sockfd := answer.fd } thread _ place ⟨nofun, nofun⟩
        (by split <;> exact ⟨nofun, nofun⟩)).mpr ⟨valid.active, valid.reachable⟩
  | establishing =>
      refine iff_of_true ?_ trivial
      dsimp only
      split
      · refine (reconnectAt_iff { system.setActive true with connections := system.connections + 1 } thread
          (.startReceive (system.connections + 1)) place ⟨nofun, nofun⟩ ⟨nofun, nofun⟩).mpr
          ⟨fun _ => rfl, fun stranded => ?_⟩
        exact absurd stranded.1 (next_not_lost fresh _ rfl rfl)
      · exact (reconnectAt_iff { system with client.sockfd := -1 } thread .counting place ⟨nofun, nofun⟩
          ⟨nofun, nofun⟩).mpr ⟨valid.active, valid.reachable⟩
  | startReceive connection =>
      refine iff_of_true ?_ trivial
      dsimp only
      split
      · exact (reconnectAt_iff (system.createReceive connection) thread (.startHeartbeat connection) place
          ⟨nofun, nofun⟩ ⟨nofun, nofun⟩).mpr (createReceive_kept connection valid)
      · exact goes place ⟨nofun, nofun⟩ ⟨nofun, nofun⟩
  | startHeartbeat connection =>
      refine iff_of_true ?_ trivial
      dsimp only
      split
      · exact (reconnectAt_iff (system.createHeartbeat connection) thread .announcing place ⟨nofun, nofun⟩
          ⟨nofun, nofun⟩).mpr (createHeartbeat_kept connection valid)
      · exact goes place ⟨nofun, nofun⟩ ⟨nofun, nofun⟩
  | announcing =>
      refine (reconnectAt_iff (system.updateClientState .connected) thread .leaving place ⟨nofun, nofun⟩
        ⟨nofun, nofun⟩).trans ((updateClientState_iff _).trans ?_)
      have busy : ¬ system.Stranded := fun stranded =>
        stranded.2.2 ⟨thread, place ▸ ⟨nofun, nofun⟩⟩
      exact ⟨fun next => next.1 (.inl rfl), fun safe => ⟨fun _ => safe, fun stranded => absurd stranded busy⟩⟩
  | counting => exact iff_of_true (goes place ⟨nofun, nofun⟩ ⟨nofun, nofun⟩) trivial
  | storing count =>
      refine iff_of_true ?_ trivial
      exact (reconnectAt_iff { system with client.reconnectCount := count } thread .testCount place
        ⟨nofun, nofun⟩ ⟨nofun, nofun⟩).mpr ⟨valid.active, valid.reachable⟩
  | leaving => exact iff_of_true (goes place ⟨nofun, nofun⟩ (by split <;> exact ⟨nofun, nofun⟩)) trivial
  | failing =>
      refine iff_of_true ?_ trivial
      refine (reconnectAt_iff (system.updateClientState .error) thread .releasing place ⟨nofun, nofun⟩
        ⟨nofun, nofun⟩).mpr ((updateClientState_iff _).mpr ?_)
      exact ⟨fun online => absurd online (not_online_of_eq nofun nofun), fun _ => .inl rfl⟩
  | releasing =>
      refine iff_of_true ?_ trivial
      exact (reconnectAt_iff { system with client.reconnectThread := none } thread .returning place
        ⟨nofun, nofun⟩ ⟨nofun, nofun⟩).mpr ⟨valid.active, valid.reachable⟩
  | returning => exact reconnect_ended thread valid
  | ended => exact iff_of_true valid trivial

theorem applicationAt_iff (system : System) (next : ApplicationPc)
    (same : next.disconnecting = system.application.disconnecting) :
    NeverStuck { system with application := next } ↔ NeverStuck system := by
  refine stranded_congr rfl ?_
  show _ ∧ next.disconnecting = false ∧ _ ↔ _
  rw [same]
  rfl

/-- During a disconnect nobody is stranded. -/
theorem disconnectAt_iff (system : System) (next : DisconnectPc) (busy : next ≠ .check) :
    NeverStuck (system.disconnectAt next) ↔
      (Online system.client.state → system.client.connectionActive = true) := by
  have disconnecting : (ApplicationPc.disconnect next).disconnecting = true := by
    cases next <;> first | rfl | exact absurd rfl busy
  refine ⟨fun valid => valid.active, fun active => ⟨active, fun stranded => ?_⟩⟩
  exact absurd (disconnecting.symm.trans stranded.2.1) (by decide)

/-- A field of the connection is reset, and only the active flag matters. -/
theorem cleanupConnection_iff (next : CleanupPc) (valid : NeverStuck system) :
    NeverStuck { system with client := (cleanupConnection system.client next).1 } ↔
      (next = .active → ¬ Online system.client.state) := by
  cases next with
  | active => exact (setActive_false valid).trans ⟨fun offline _ => offline, fun offline => offline rfl⟩
  | socket => exact iff_of_true ⟨valid.active, valid.reachable⟩ nofun
  | sent => exact iff_of_true ⟨valid.active, valid.reachable⟩ nofun
  | missed => exact iff_of_true ⟨valid.active, valid.reachable⟩ nofun
  | count => exact iff_of_true ⟨valid.active, valid.reachable⟩ nofun

/-- A disconnect strands nobody, and it ends in a state to connect from. -/
theorem clientDisconnect_iff (next : DisconnectPc) (place : system.application = .disconnect next)
    (valid : NeverStuck system) :
    NeverStuck (clientDisconnect system next) ↔ ApplicationSafe system (.disconnect next) := by
  have goes : ∀ (later : System) (next : DisconnectPc), next ≠ .check →
      (Online later.client.state → later.client.connectionActive = true) →
      NeverStuck (later.disconnectAt next) := fun later next busy active =>
    (disconnectAt_iff later next busy).mpr active
  have after : ∀ which : Joined, which.after ≠ .check := by
    intro which
    cases which <;> exact nofun
  cases next with
  | check =>
      refine iff_of_true ?_ trivial
      rw [clientDisconnect]
      split
      · refine (applicationAt_iff system .idle ?_).mpr valid
        rw [place]
        rfl
      · exact goes system .announcing nofun valid.active
  | announcing =>
      refine iff_of_true (goes _ .stopRunning nofun fun online => ?_) trivial
      exact absurd online (not_online_of_eq nofun nofun)
  | stopRunning =>
      exact iff_of_true (goes { system with client.threadsRunning := false } _ nofun valid.active) trivial
  | join which =>
      refine iff_of_true ?_ trivial
      rw [clientDisconnect]
      split
      · exact goes system _ (after which) valid.active
      · exact goes system _ nofun valid.active
  | joining which thread =>
      refine iff_of_true ?_ trivial
      rw [clientDisconnect]
      split
      · exact goes system _ nofun valid.active
      · exact valid
  | release which =>
      refine iff_of_true (goes { system with client := which.released system.client } _ (after which) ?_) trivial
      cases which <;> exact valid.active
  | cleanup next =>
      refine (applicationAt_iff _ _ ?_).trans (cleanupConnection_iff next valid)
      show _ = system.application.disconnecting
      rw [place]
      split <;> rfl
  | finishing =>
      refine iff_of_true ?_ trivial
      exact ⟨fun online => absurd online (not_online_of_eq nofun nofun), fun _ => .inr rfl⟩

/-- The end of a successful attempt announces a connection, and the start of an attempt has no threads yet. -/
theorem clientConnect_iff (answer : Answer) (next : ConnectPc) (place : system.application = .connect next)
    (fresh : Fresh system) (valid : NeverStuck system) :
    NeverStuck (clientConnect system answer next) ↔ ApplicationSafe system (.connect next) := by
  have quiet : system.application.disconnecting = false := by
    rw [place]
    rfl
  have goes : ∀ (later : System) (next : ConnectPc), later.application.disconnecting = false →
      NeverStuck later → NeverStuck (later.connectAt next) := fun later next same valid =>
    (applicationAt_iff later (.connect next) same.symm).mpr valid
  have ends : ∀ later : System, later.application.disconnecting = false →
      (NeverStuck later.done ↔ NeverStuck later) := fun later same => applicationAt_iff later .idle same.symm
  cases next with
  | check =>
      refine iff_of_true ?_ trivial
      rw [clientConnect]
      split
      · exact (ends system quiet).mpr valid
      · exact goes system .announcing quiet valid
  | announcing =>
      refine iff_of_true (goes _ (.opening (system.connections + 1)) quiet ⟨fun online => ?_, fun stranded => ?_⟩)
        trivial
      · exact absurd online (not_online_of_eq nofun nofun)
      · exact absurd stranded.1 (next_not_lost fresh _ rfl rfl)
  | opening connection =>
      exact iff_of_true (goes { system with client.sockfd := answer.fd } _ quiet ⟨valid.active, valid.reachable⟩)
        trivial
  | establishing connection =>
      refine iff_of_true ?_ trivial
      rw [clientConnect]
      split
      · exact goes (system.setActive true) _ quiet (setActive_true valid)
      · exact goes { system with client.sockfd := -1 } _ quiet ⟨valid.active, valid.reachable⟩
  | startReceive connection =>
      refine iff_of_true ?_ trivial
      rw [clientConnect]
      split
      · exact goes (system.createReceive connection) _ quiet (createReceive_kept connection valid)
      · exact goes system _ quiet valid
  | startHeartbeat connection =>
      refine iff_of_true ?_ trivial
      rw [clientConnect]
      split
      · exact goes (system.createHeartbeat connection) _ quiet (createHeartbeat_kept connection valid)
      · exact goes system _ quiet valid
  | setRunning =>
      exact iff_of_true (goes { system with client.threadsRunning := true } _ quiet
        ⟨valid.active, valid.reachable⟩) trivial
  | finishing =>
      refine (ends (system.updateClientState .connected) quiet).trans ((updateClientState_iff _).trans ?_)
      have offline : ¬ Offline .connected := by simp [Offline]
      exact and_congr (forall_prop_of_true (.inl rfl)) (forall_congr' fun _ => iff_false_intro offline)
  | stopRunning =>
      exact iff_of_true (goes { system with client.threadsRunning := false } _ quiet
        ⟨valid.active, valid.reachable⟩) trivial
  | joinReceive =>
      refine iff_of_true ?_ trivial
      rw [clientConnect]
      split
      · exact goes system _ quiet valid
      · exact goes system _ quiet valid
  | joiningReceive thread =>
      refine iff_of_true ?_ trivial
      rw [clientConnect]
      split
      · exact goes system _ quiet valid
      · exact valid
  | cleanup next =>
      refine (applicationAt_iff _ _ ?_).trans (cleanupConnection_iff next valid)
      show _ = system.application.disconnecting
      rw [quiet]
      rfl
  | failing =>
      refine iff_of_true ((ends (system.updateClientState .error) quiet).mpr ?_) trivial
      exact ⟨fun online => absurd online (not_online_of_eq nofun nofun), fun _ => .inl rfl⟩

theorem clientLogin_iff (answer : Answer) (next : LoginPc) (place : system.application = .login next)
    (valid : NeverStuck system) :
    NeverStuck (clientLogin system answer next) ↔ ApplicationSafe system (.login next) := by
  have quiet : system.application.disconnecting = false := by
    rw [place]
    rfl
  have goes : ∀ (later : System) (next : LoginPc), later.application.disconnecting = false →
      (NeverStuck (later.loginAt next) ↔ NeverStuck later) := fun later next same =>
    applicationAt_iff later (.login next) same.symm
  have ends : ∀ later : System, later.application.disconnecting = false →
      (NeverStuck later.done ↔ NeverStuck later) := fun later same => applicationAt_iff later .idle same.symm
  cases next with
  | check =>
      refine iff_of_true ?_ trivial
      rw [clientLogin]
      split
      · exact (ends system quiet).mpr valid
      · exact (goes system _ quiet).mpr valid
  | announcing =>
      refine (goes (system.updateClientState .authenticating) _ quiet).trans ((updateClientState_iff _).trans ?_)
      have online : ¬ Online .authenticating := not_online_of_eq nofun nofun
      have offline : ¬ Offline .authenticating := by simp [Offline]
      rw [and_iff_right fun same => absurd same online]
      exact forall_congr' fun _ => iff_false_intro offline
  | hashing => exact iff_of_true ((goes system _ quiet).mpr valid) trivial
  | sendActive => exact iff_of_true ((goes system _ quiet).mpr valid) trivial
  | sendSocket =>
      refine iff_of_true ?_ trivial
      rw [clientLogin]
      split
      · exact (ends system quiet).mpr valid
      · exact (goes system _ quiet).mpr valid
  | reverting =>
      refine (ends (system.updateClientState .connected) quiet).trans ((updateClientState_iff _).trans ?_)
      have offline : ¬ Offline .connected := by simp [Offline]
      exact and_congr (forall_prop_of_true (.inl rfl)) (forall_congr' fun _ => iff_false_intro offline)

/-- A thread that exists moves, and no thread is added to a later connection. -/
theorem Fresh.receiveAt (fresh : Fresh system) (thread : Nat) (next : ReceivePc) {place : ReceivePc}
    (here : system.receive thread = place) (made : place ≠ .absent) : Fresh (system.receiveAt thread next) := by
  refine ⟨fun other later => ?_, fresh.reconnecting, fresh.connecting⟩
  have before := fresh.absent other later
  have different : other ≠ thread := by
    rintro rfl
    exact made (here.symm.trans before)
  show Function.update system.receive thread next other = .absent
  rw [Function.update_of_ne different]
  exact before

theorem Fresh.createReceive (fresh : Fresh system) (connection : Nat) (known : connection ≤ system.connections) :
    Fresh (system.createReceive connection) := by
  refine ⟨fun other later => ?_, fresh.reconnecting, fresh.connecting⟩
  have different : other ≠ connection := Nat.ne_of_gt (Nat.lt_of_le_of_lt known later)
  show Function.update system.receive connection .testRunning other = .absent
  rw [Function.update_of_ne different]
  exact fresh.absent other later

theorem Fresh.reconnectAt (fresh : Fresh system) (thread : Nat) (next : ReconnectPc)
    (known : ∀ connection, next = .startReceive connection → connection ≤ system.connections) :
    Fresh (system.reconnectAt thread next) := by
  refine ⟨fresh.absent, fun other connection place => ?_, fresh.connecting⟩
  have moved : Function.update system.reconnect thread next other = .startReceive connection := place
  by_cases here : other = thread
  · rw [here, Function.update_self] at moved
    exact known connection moved
  · rw [Function.update_of_ne here] at moved
    exact fresh.reconnecting other connection moved

/-- The count of the connections only grows. -/
theorem Fresh.count (fresh : Fresh system) (connections : Nat) (more : system.connections ≤ connections) :
    Fresh { system with connections := connections } :=
  ⟨fun thread later => fresh.absent thread (Nat.lt_of_le_of_lt more later),
    fun thread connection place => Nat.le_trans (fresh.reconnecting thread connection place) more,
    fun connection place => Nat.le_trans (fresh.connecting connection place) more⟩

/-- One step of any thread keeps the client out of trouble exactly when it is safe. -/
theorem step_iff (action : Action) (fresh : Fresh system) (valid : NeverStuck system) :
    NeverStuck (threadMachine.step system action).1 ↔ Safe system action := by
  cases action with
  | receive thread reading created => exact receiveThreadFunc_iff thread reading created valid
  | heartbeat thread now => exact heartbeatThreadFunc_iff thread now valid
  | reconnect thread answer => exact reconnectThreadFunc_iff thread answer fresh valid
  | call call =>
      refine iff_of_true ?_ trivial
      show NeverStuck (if _ then _ else _)
      split
      · rename_i idle
        refine (applicationAt_iff system call.start ?_).mpr valid
        rw [idle]
        cases call <;> rfl
      · exact valid
  | application answer =>
      show NeverStuck (system.applicationStep answer) ↔ ApplicationSafe system system.application
      rw [System.applicationStep]
      cases place : system.application with
      | idle => exact iff_of_true valid trivial
      | connect next => exact clientConnect_iff answer next place fresh valid
      | disconnect next => exact clientDisconnect_iff next place valid
      | login next => exact clientLogin_iff answer next place valid

end Steps

/-- No thread is there any more, and the client does not count as one that has lost its connection. -/
structure Deserted (system : System) : Prop where
  receive : ∀ thread, system.receive thread = .absent ∨ system.receive thread = .ended
  heartbeat : ∀ thread, system.heartbeat thread = .absent ∨ system.heartbeat thread = .ended
  reconnect : ∀ thread, system.reconnect thread = .absent ∨ system.reconnect thread = .ended
  state : system.client.state = .connected ∨ system.client.state = .authenticating
  application : system.application = .idle ∨ system.application = .connect .check ∨
    ∃ next, system.application = .login next

section Deserted

variable {system : System}

theorem Deserted.call (deserted : Deserted system) (next : ApplicationPc)
    (other : next = .idle ∨ next = .connect .check ∨ ∃ call, next = .login call) :
    Deserted { system with application := next } :=
  ⟨deserted.receive, deserted.heartbeat, deserted.reconnect, deserted.state, other⟩

theorem Deserted.login (deserted : Deserted system) (newState : ClientState) (next : ApplicationPc)
    (written : newState = .connected ∨ newState = .authenticating)
    (other : next = .idle ∨ next = .connect .check ∨ ∃ call, next = .login call) :
    Deserted { system.updateClientState newState with application := next } :=
  ⟨deserted.receive, deserted.heartbeat, deserted.reconnect, written, other⟩

end Deserted

end SecureChat.Client.Threads
