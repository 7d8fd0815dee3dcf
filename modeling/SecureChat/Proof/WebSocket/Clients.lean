import SecureChat.Library.MachineInt
import SecureChat.Construction.WebSocket.Clients
import SecureChat.Library.Slots

namespace SecureChat.WebSocket.Clients
open Library

/-- The clients in the slots that are in use. -/
def Server.live (server : Server) : List Client := server.clients.filterMap id

/-- The counters are right, no identifier is used twice,
and each connection that was answered with success lies in exactly one slot. -/
structure Consistent (table : Table) : Prop where
  bounded : table.server.clientCount ≤ table.server.maxClients
  counted : table.server.clientCount.toNat = table.server.live.length
  active : table.server.connectionsActive.toNat = table.server.clientCount.toNat
  distinct : (table.server.live.map (·.clientId)).Nodup
  held : ∀ connection ∈ table.admitted, (table.server.live.map (·.connection)).count connection = 1

/-- A stop finds no client, and a new client gets an identifier that no other client has. -/
def Orderly (table : Table) : ServerEvent → Prop
  | .stop => table.server.running = true → table.server.live = []
  | .accept created _ _ => table.server.takes = true → created = true →
      table.server.nextClientId ∉ table.server.live.map (·.clientId)
  | _ => True

/-- No client is ever opened, and so no thread ever blocks. -/
structure Silent (table : Table) : Prop where
  slots : table.server.clients.length = table.server.maxClients.toNat
  closed : ∀ client ∈ table.server.live, client.state ≠ .open
  free : table.server.blocked = false
  older : ∀ client ∈ table.server.live, client.connection < table.accepted
  before : ∀ connection ∈ table.admitted, connection < table.accepted

section Threads

variable {server : Server}

theorem mem_live_of_slot {index : Nat} {client : Client} (found : server.clients[index]? = some (some client)) :
    client ∈ server.live :=
  List.mem_filterMap.mpr ⟨some client, List.mem_of_getElem? found, rfl⟩

/-- Without an open client `select` waits for nobody. -/
theorem selected_closed (closed : ∀ client ∈ server.live, client.state ≠ .open) (ready : Int → Bool) (fd : Int) :
    server.selected ready fd = false := by
  have none : (server.clients.any fun slot => slot.any fun client =>
      client.state = .open && client.fd = fd) = false := by
    rw [List.any_eq_false]
    intro slot member
    cases slot with
    | none => exact Bool.false_ne_true
    | some client =>
        have other := closed client (List.mem_filterMap.mpr ⟨some client, member, rfl⟩)
        simp [other]
  rw [Server.selected, none, Bool.and_false]

theorem foldl_same {State Index : Type} (step : State → Index → State) (state : State)
    (same : ∀ index, step state index = state) (indices : List Index) : indices.foldl step state = state := by
  induction indices with
  | nil => rfl
  | cons index rest ih => rw [List.foldl_cons, same, ih]

/-- The worker reads from nobody, and so no handshake is ever answered. -/
theorem workerActivity_closed (closed : ∀ client ∈ server.live, client.state ≠ .open) (ready : Int → Bool)
    (readings : Int → Reading) (now : UInt64) : server.workerActivity ready readings now = server := by
  refine foldl_same _ server (fun index => ?_) _
  rw [Server.readClient]
  split
  · rfl
  · split
    · rw [if_pos]
      rw [selected_closed closed]
      exact Bool.false_ne_true
    · rfl

/-- The time-out only ends open clients. -/
theorem checkClientTimeout_closed (closed : ∀ client ∈ server.live, client.state ≠ .open)
    (currentTime : UInt64) : server.checkClientTimeout currentTime = server := by
  refine foldl_same _ server (fun index => ?_) _
  rw [Server.checkClient]
  split
  · rfl
  · split
    · rename_i client found
      rw [if_pos (closed client (mem_live_of_slot found))]
    · rfl

end Threads

section Steps

variable {table : Table}

theorem stop_step (silent : Silent table) (consistent : Consistent table) :
    (Consistent (tableMachine.step table .stop).1 ↔ Orderly table .stop) ∧
      Silent (tableMachine.step table .stop).1 := by
  have stepped : (tableMachine.step table .stop).1 = { table with
      server := table.server.websocketServerStop
      admitted := if table.server.running ∧ ¬ table.server.blocked then [] else table.admitted } := rfl
  cases runs : table.server.running with
  | false =>
      have same : (tableMachine.step table .stop).1 = table := by
        rw [stepped, Server.websocketServerStop, runs]
        rfl
      rw [same]
      refine ⟨iff_of_true consistent fun other => ?_, silent⟩
      rw [runs] at other
      cases other
  | true =>
      have unblocked : ¬ table.server.blocked = true := by
        rw [silent.free]
        exact Bool.false_ne_true
      have stopped : table.server.websocketServerStop = { table.server with
          shutdownRequested := true
          clients := table.server.clients.map fun _ => none
          running := false } := by
        rw [Server.websocketServerStop, if_neg (not_not_intro runs), if_neg unblocked]
      rw [stepped, stopped, if_pos ⟨runs, unblocked⟩]
      have empty : (table.server.clients.map fun _ => (none : Option Client)).filterMap id = [] := by
        rw [List.filterMap_map, List.filterMap_eq_nil_iff]
        exact fun _ _ => rfl
      refine ⟨⟨fun next _ => ?_, fun orderly => ?_⟩, ?_⟩
      · have counted := next.counted
        rw [Server.live, empty] at counted
        exact List.eq_nil_of_length_eq_zero (consistent.counted.symm.trans counted)
      · have none := orderly runs
        have zero := consistent.counted
        rw [none] at zero
        refine ⟨consistent.bounded, ?_, consistent.active, ?_, fun _ member => nomatch member⟩
        · rw [Server.live, empty]
          exact zero
        · rw [Server.live, empty]
          exact .nil
      · refine ⟨(List.length_map ..).trans silent.slots, ?_, silent.free, ?_, fun _ member => nomatch member⟩
        · rw [Server.live, empty]
          exact fun _ member => nomatch member
        · rw [Server.live, empty]
          exact fun _ member => nomatch member

/-- A new client in a free slot needs an identifier of its own, and the counters go up with it. -/
theorem filled_step (index : Nat) (fd : Int) (now : UInt64)
    (below : table.server.clientCount < table.server.maxClients)
    (found : table.server.clients[index]? = some none) (silent : Silent table) (consistent : Consistent table) :
    let later : Table := ⟨{ table.server with
      clients := table.server.clients.set index
        (some ⟨table.accepted, table.server.nextClientId, fd, .connecting, now⟩)
      clientCount := table.server.clientCount + 1
      nextClientId := table.server.nextClientId + 1
      connectionsTotal := table.server.connectionsTotal + 1
      connectionsActive := table.server.connectionsActive + 1 },
      table.accepted + 1, table.admitted ++ [table.accepted]⟩
    (Consistent later ↔ table.server.nextClientId ∉ table.server.live.map (·.clientId)) ∧ Silent later := by
  intro later
  let client : Client := ⟨table.accepted, table.server.nextClientId, fd, .connecting, now⟩
  have less := UInt32.lt_iff_toNat_lt.mp below
  have limit := table.server.maxClients.toNat_lt
  have active := consistent.active
  have lives : later.server.live.Perm (client :: table.server.live) :=
    set_filterMap table.server.clients id index none (some client) found
  have grown := increment32 table.server.clientCount (by omega)
  have alsoGrown := increment64 table.server.connectionsActive (by omega)
  have counted := lives.length_eq
  rw [List.length_cons, ← consistent.counted] at counted
  have identifiers : (later.server.live.map (·.clientId)).Nodup ↔
      table.server.nextClientId ∉ table.server.live.map (·.clientId) := by
    rw [(lives.map _).nodup_iff, List.map_cons, List.nodup_cons]
    exact and_iff_left consistent.distinct
  have others : ∀ connection ∈ table.server.live.map (·.connection), connection < table.accepted := by
    intro connection member
    obtain ⟨other, live, rfl⟩ := List.mem_map.mp member
    exact silent.older other live
  refine ⟨⟨fun next => identifiers.mp next.distinct, fun fresh => ?_⟩, ?_⟩
  · refine ⟨?_, grown.trans counted.symm, ?_, identifiers.mpr fresh, ?_⟩
    · rw [UInt32.le_iff_toNat_le]
      show (table.server.clientCount + 1).toNat ≤ table.server.maxClients.toNat
      omega
    · show (table.server.connectionsActive + 1).toNat = (table.server.clientCount + 1).toNat
      rw [grown, alsoGrown, active]
    · intro connection member
      rw [(lives.map _).count_eq, List.map_cons]
      rcases List.mem_append.mp member with old | new
      · have before := silent.before connection old
        rw [List.count_cons_of_ne (Nat.ne_of_gt before)]
        exact consistent.held connection old
      · rw [List.mem_singleton] at new
        subst new
        have absent : table.accepted ∉ table.server.live.map (·.connection) :=
          fun member => Nat.lt_irrefl _ (others _ member)
        rw [List.count_cons_self, List.count_eq_zero_of_not_mem absent]
  · refine ⟨(List.length_set ..).trans silent.slots, ?_, silent.free, ?_, ?_⟩
    · intro other member
      rcases List.mem_cons.mp (lives.mem_iff.mp member) with rfl | old
      · exact nofun
      · exact silent.closed other old
    · intro other member
      rcases List.mem_cons.mp (lives.mem_iff.mp member) with rfl | old
      · exact Nat.lt_succ_self _
      · exact Nat.lt_succ_of_lt (silent.older other old)
    · intro connection member
      rcases List.mem_append.mp member with old | new
      · exact Nat.lt_succ_of_lt (silent.before connection old)
      · exact List.mem_singleton.mp new ▸ Nat.lt_succ_self _

theorem accept_step (created : Bool) (fd : Int) (now : UInt64) (silent : Silent table)
    (consistent : Consistent table) :
    (Consistent (tableMachine.step table (.accept created fd now)).1 ↔
      Orderly table (.accept created fd now)) ∧ Silent (tableMachine.step table (.accept created fd now)).1 := by
  by_cases taken : table.server.takes ∧ created
  · have below : table.server.clientCount < table.server.maxClients := by
      have both := taken.1
      rw [Server.takes, Bool.and_eq_true] at both
      exact of_decide_eq_true both.2
    obtain ⟨index, slot, free, found, empty⟩ := exists_free table.server.clients id (by
      rw [silent.slots, ← Server.live, ← consistent.counted]
      exact UInt32.lt_iff_toNat_lt.mp below)
    have emptied : slot = none := empty
    subst emptied
    have stepped : (tableMachine.step table (.accept created fd now)).1 = ⟨{ table.server with
        clients := table.server.clients.set index
          (some ⟨table.accepted, table.server.nextClientId, fd, .connecting, now⟩)
        clientCount := table.server.clientCount + 1
        nextClientId := table.server.nextClientId + 1
        connectionsTotal := table.server.connectionsTotal + 1
        connectionsActive := table.server.connectionsActive + 1 },
        table.accepted + 1, table.admitted ++ [table.accepted]⟩ := by
      have chosen : table.server.clients.findIdx? (·.isNone) = some index := free
      show (if _ then _ else _ : Table × List Unit).1 = _
      rw [if_pos taken, Server.handleClientConnection, chosen]
    obtain ⟨kept, quiet⟩ := filled_step index fd now below found silent consistent
    rw [stepped]
    exact ⟨kept.trans ⟨fun fresh _ _ => fresh, fun orderly => orderly taken.1 taken.2⟩, quiet⟩
  · have same : (tableMachine.step table (.accept created fd now)).1 = table := by
      show (if _ then _ else _ : Table × List Unit).1 = _
      rw [if_neg taken]
    rw [same]
    exact ⟨iff_of_true consistent fun takes made => absurd ⟨takes, made⟩ taken, silent⟩

/-- A removal clears the slot of its client, or there is no such client. -/
theorem removeClient_cases (server : Server) (clientId : UInt64) :
    (server.connectionOf clientId = none ∧ server.removeClient clientId = server) ∨
    (∃ index client, server.clients[index]? = some (some client) ∧
      server.connectionOf clientId = some client.connection ∧
      server.removeClient clientId = { server with
        clients := server.clients.set index none
        clientCount := server.clientCount - 1
        connectionsActive := server.connectionsActive - 1
        connectionsClosed := server.connectionsClosed + 1 }) := by
  cases chosen : server.slotOf clientId with
  | none =>
      left
      rw [Server.connectionOf, Server.removeClient, chosen]
      exact ⟨rfl, rfl⟩
  | some index =>
      right
      obtain ⟨inside, passes, -⟩ := List.findIdx?_eq_some_iff_getElem.mp chosen
      cases stored : server.clients[index] with
      | none =>
          rw [stored] at passes
          cases passes
      | some client =>
          have found : server.clients[index]? = some (some client) := by
            rw [List.getElem?_eq_getElem inside, stored]
          refine ⟨index, client, found, ?_, ?_⟩
          · rw [Server.connectionOf, chosen, Option.bind_eq_bind, Option.bind_some, found]
            rfl
          · rw [Server.removeClient, chosen]

/-- The counters go down with the client, and its connection is not expected in a slot any more. -/
theorem cleared_step (index : Nat) (client : Client) (found : table.server.clients[index]? = some (some client))
    (silent : Silent table) (consistent : Consistent table) :
    let later : Table := { table with
      server := { table.server with
        clients := table.server.clients.set index none
        clientCount := table.server.clientCount - 1
        connectionsActive := table.server.connectionsActive - 1
        connectionsClosed := table.server.connectionsClosed + 1 }
      admitted := table.admitted.filter fun connection => some client.connection ≠ some connection }
    Consistent later ∧ Silent later := by
  have lives : (client :: (table.server.clients.set index none).filterMap id).Perm table.server.live :=
    set_filterMap table.server.clients id index (some client) none found
  have counted := lives.length_eq
  rw [List.length_cons, ← consistent.counted] at counted
  have active := consistent.active
  have bounded := UInt32.le_iff_toNat_le.mp consistent.bounded
  have shrunk := decrement32 table.server.clientCount (by omega)
  have alsoShrunk := decrement64 table.server.connectionsActive (by omega)
  have subset : ∀ other ∈ (table.server.clients.set index none).filterMap id, other ∈ table.server.live :=
    fun other member => lives.mem_iff.mp (List.mem_cons_of_mem _ member)
  constructor
  · refine ⟨?_, ?_, ?_, ?_, ?_⟩
    · rw [UInt32.le_iff_toNat_le]
      dsimp only
      omega
    · show _ = ((table.server.clients.set index none).filterMap id).length
      dsimp only
      rw [shrunk, ← counted]
      rfl
    · dsimp only
      rw [shrunk, alsoShrunk, active]
    · have distinct := (lives.map (·.clientId)).nodup_iff.mpr consistent.distinct
      exact (List.nodup_cons.mp distinct).2
    · intro connection member
      obtain ⟨old, other⟩ := List.mem_filter.mp member
      have once := consistent.held connection old
      rw [← (lives.map (·.connection)).count_eq, List.map_cons, List.count_cons_of_ne] at once
      · exact once
      · exact fun equal => of_decide_eq_true other (congrArg some equal)
  · exact ⟨(List.length_set ..).trans silent.slots, fun other member => silent.closed other (subset other member),
      silent.free, fun other member => silent.older other (subset other member),
      fun connection member => silent.before connection (List.mem_filter.mp member).1⟩

theorem closeClient_step (clientId : UInt64) (silent : Silent table) (consistent : Consistent table) :
    Consistent (tableMachine.step table (.closeClient clientId)).1 ∧
      Silent (tableMachine.step table (.closeClient clientId)).1 := by
  by_cases serves : table.server.running ∧ ¬ table.server.blocked
  · have stepped : (tableMachine.step table (.closeClient clientId)).1 = { table with
        server := table.server.removeClient clientId
        admitted := table.admitted.filter fun connection =>
          table.server.connectionOf clientId ≠ some connection } := by
      show (if _ then _ else _ : Table × List Unit).1 = _
      rw [if_pos serves]
    rw [stepped]
    rcases removeClient_cases table.server clientId with ⟨nobody, unchanged⟩ | ⟨index, client, found, connected, cleared⟩
    · have all : table.admitted.filter (fun connection =>
          table.server.connectionOf clientId ≠ some connection) = table.admitted := by
        rw [nobody, List.filter_eq_self]
        exact fun _ _ => rfl
      rw [all, unchanged]
      exact ⟨consistent, silent⟩
    · rw [connected, cleared]
      exact cleared_step index client found silent consistent
  · have same : (tableMachine.step table (.closeClient clientId)).1 = table := by
      show (if _ then _ else _ : Table × List Unit).1 = _
      rw [if_neg serves]
    rw [same]
    exact ⟨consistent, silent⟩

/-- One event keeps the table consistent exactly when it is orderly, and no event opens a client. -/
theorem table_step (event : ServerEvent) (silent : Silent table) (consistent : Consistent table) :
    (Consistent (tableMachine.step table event).1 ↔ Orderly table event) ∧
      Silent (tableMachine.step table event).1 := by
  cases event with
  | start started =>
      have kept : Consistent (tableMachine.step table (.start started)).1 ∧
          Silent (tableMachine.step table (.start started)).1 := by
        show Consistent { table with server := table.server.websocketServerStart started } ∧
          Silent { table with server := table.server.websocketServerStart started }
        rw [Server.websocketServerStart]
        split
        · exact ⟨consistent, silent⟩
        · exact ⟨⟨consistent.bounded, consistent.counted, consistent.active, consistent.distinct,
            consistent.held⟩, ⟨silent.slots, silent.closed, silent.free, silent.older, silent.before⟩⟩
      exact ⟨iff_of_true kept.1 trivial, kept.2⟩
  | stop => exact stop_step silent consistent
  | accept created fd now => exact accept_step created fd now silent consistent
  | closeClient clientId =>
      obtain ⟨kept, quiet⟩ := closeClient_step clientId silent consistent
      exact ⟨iff_of_true kept trivial, quiet⟩
  | activity ready readings now =>
      have same : (tableMachine.step table (.activity ready readings now)).1 = table := by
        show (if _ then _ else _ : Table × List Unit).1 = _
        rw [workerActivity_closed silent.closed]
        split <;> rfl
      rw [same]
      exact ⟨iff_of_true consistent trivial, silent⟩
  | timeout currentTime =>
      have same : (tableMachine.step table (.timeout currentTime)).1 = table := by
        show (if _ then _ else _ : Table × List Unit).1 = _
        rw [checkClientTimeout_closed silent.closed]
        split <;> rfl
      rw [same]
      exact ⟨iff_of_true consistent trivial, silent⟩

end Steps

/-- The client table stays consistent exactly in the runs in which every stop finds it empty
and no client gets an identifier that is still in use. -/
theorem tableMachine_consistent_iff (maxClients timeout : UInt32) (events : List ServerEvent) :
    (∀ table ∈ tableMachine.states (newTable maxClients timeout) events, Consistent table) ↔
      tableMachine.Along Orderly (newTable maxClients timeout) events := by
  have nobody : (newTable maxClients timeout).server.live = [] := by
    rw [Server.live, List.filterMap_eq_nil_iff]
    exact fun slot member => (List.mem_replicate.mp member).2
  have silent : Silent (newTable maxClients timeout) := by
    refine ⟨List.length_replicate, ?_, rfl, ?_, fun _ member => nomatch member⟩
    · rw [nobody]
      exact fun _ member => nomatch member
    · rw [nobody]
      exact fun _ member => nomatch member
  have consistent : Consistent (newTable maxClients timeout) := by
    refine ⟨?_, ?_, rfl, ?_, fun _ member => nomatch member⟩
    · rw [UInt32.le_iff_toNat_le]
      exact Nat.zero_le _
    · rw [nobody]
      rfl
    · rw [nobody]
      exact .nil
  exact tableMachine.states_iff_guarded Orderly Silent Consistent
    (fun table event silent consistent => (table_step event silent consistent).1)
    (fun table event silent consistent _ => (table_step event silent consistent).2) _ events silent consistent

/-- One connection, and then a stop. -/
def stoppedRun : List ServerEvent := [.start true, .accept true 7 1000, .stop]

/-- After the stop no slot is in use, and the server still counts one client. -/
theorem tableMachine_counts_after_stop :
    (tableMachine.run (newTable 10 300) stoppedRun).1.server.live = [] ∧
      (tableMachine.run (newTable 10 300) stoppedRun).1.server.clientCount = 1 ∧
      ¬ ∀ table ∈ tableMachine.states (newTable 10 300) stoppedRun, Consistent table := by
  have empty : (tableMachine.run (newTable 10 300) stoppedRun).1.server.live = [] := by decide +kernel
  have one : (tableMachine.run (newTable 10 300) stoppedRun).1.server.clientCount = 1 := by decide +kernel
  refine ⟨empty, one, fun always => ?_⟩
  have counted := (always _ (tableMachine.run_mem_states _ _)).counted
  rw [empty, one] at counted
  cases counted

end SecureChat.WebSocket.Clients
