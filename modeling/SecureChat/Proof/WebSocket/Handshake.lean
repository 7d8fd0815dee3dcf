import Mathlib.Data.List.TakeWhile
import SecureChat.Proof.WebSocket.Clients

namespace SecureChat.WebSocket.Clients
open Library

section Texts

end Texts

section Accept

variable (sha1 : List UInt8 → Digest)

end Accept

/-- The hash of the sample key with the identifier behind it. -/
def sampleSha1 (_ : List UInt8) : Digest :=
  ⟨[0xB3, 0x7A, 0x4F, 0x2C, 0xC0, 0x62, 0x4F, 0x16, 0x90, 0xF6, 0x46, 0x06, 0xCF, 0x38, 0x59, 0x45, 0xB2, 0xBE, 0xC4,
    0xEA], rfl⟩

def sampleRequest : List UInt8 :=
  asciiBytes "GET /chat HTTP/1.1" ++ crlf ++ asciiBytes "Sec-WebSocket-Key: dGhlIHNhbXBsZSBub25jZQ==" ++ crlf ++ crlf

/-- Each frame goes to a connection over which a handshake was answered before. -/
def Led (outputs : List Sent) : Prop :=
  ∀ before connection opcode after, outputs = before ++ .frame connection opcode :: after →
    ∃ bytes, .response connection bytes ∈ before

/-- Each frame is led, and each open client was answered. -/
structure Answered (server : Server) (outputs : List Sent) : Prop where
  led : Led outputs
  opened : ∀ client ∈ server.live, client.state = .open → ∃ bytes, .response client.connection bytes ∈ outputs

/-- A step sends frames to open clients only, and opens clients that it answers. -/
structure Leads (server next : Server) (sent : List Sent) : Prop where
  frames : ∀ connection opcode, .frame connection opcode ∈ sent →
    ∃ client ∈ server.live, client.state = .open ∧ client.connection = connection
  opens : ∀ client ∈ next.live, client.state = .open →
    (∃ old ∈ server.live, old.state = .open ∧ old.connection = client.connection) ∨
      ∃ bytes, .response client.connection bytes ∈ sent

section Runs

variable {server next : Server} {outputs sent : List Sent}

theorem Led.append (led : Led outputs)
    (frames : ∀ connection opcode, .frame connection opcode ∈ sent → ∃ bytes, .response connection bytes ∈ outputs) :
    Led (outputs ++ sent) := by
  intro before connection opcode after split
  rcases List.append_eq_append_iff.mp split with ⟨front, rfl, tail⟩ | ⟨back, rest, tail⟩
  · obtain ⟨bytes, answered⟩ := frames connection opcode (by simp [tail])
    exact ⟨bytes, List.mem_append_left _ answered⟩
  · cases back with
    | nil =>
        obtain ⟨bytes, answered⟩ := frames connection opcode (by
          rw [← List.nil_append sent, ← tail]
          exact List.mem_cons_self)
        rw [rest, List.append_nil] at answered
        exact ⟨bytes, answered⟩
    | cons first back =>
        cases tail
        exact led before connection opcode back rest

theorem Answered.step (answered : Answered server outputs) (leads : Leads server next sent) :
    Answered next (outputs ++ sent) := by
  constructor
  · refine answered.led.append fun connection opcode member => ?_
    obtain ⟨client, live, open', rfl⟩ := leads.frames connection opcode member
    exact answered.opened client live open'
  · intro client live open'
    rcases leads.opens client live open' with ⟨old, before, was, same⟩ | ⟨bytes, response⟩
    · obtain ⟨bytes, response⟩ := answered.opened old before was
      exact ⟨bytes, List.mem_append_left _ (same ▸ response)⟩
    · exact ⟨bytes, List.mem_append_right _ response⟩

/-- A step that sends frames to open clients and opens none. -/
theorem Leads.quiet (subset : ∀ client ∈ next.live, client.state = .open → client ∈ server.live)
    (frames : ∀ connection opcode, .frame connection opcode ∈ sent →
      ∃ client ∈ server.live, client.state = .open ∧ client.connection = connection) :
    Leads server next sent :=
  ⟨frames, fun client live open' => .inl ⟨client, subset client live open', open', rfl⟩⟩

theorem Leads.silent (subset : ∀ client ∈ next.live, client.state = .open → client ∈ server.live) :
    Leads server next [] :=
  .quiet subset (by rintro _ _ ⟨⟩)

theorem mem_set_live {clients : List (Option Client)} {index : Nat} {slot : Option Client} {client : Client}
    (member : client ∈ (clients.set index slot).filterMap id) : client ∈ clients.filterMap id ∨ slot = some client := by
  obtain ⟨stored, inside, shown⟩ := List.mem_filterMap.mp member
  rcases List.mem_or_eq_of_mem_set inside with old | rfl
  · exact .inl (List.mem_filterMap.mpr ⟨stored, old, shown⟩)
  · exact .inr shown

/-- A step that changes one client opens it only with an answer. -/
theorem Leads.changed {index : Nat} {client changed : Client} (found : server.clients[index]? = some (some client))
    (clients : next.clients = server.clients.set index (some changed))
    (same : changed.connection = client.connection)
    (frames : ∀ connection opcode, .frame connection opcode ∈ sent →
      ∃ client ∈ server.live, client.state = .open ∧ client.connection = connection)
    (opens : changed.state = .open → client.state = .open ∨ ∃ bytes, .response client.connection bytes ∈ sent) :
    Leads server next sent := by
  refine ⟨frames, fun other member open' => ?_⟩
  rw [Server.live, clients] at member
  rcases mem_set_live member with old | new
  · exact .inl ⟨other, old, open', rfl⟩
  · cases new
    rw [same]
    exact (opens open').imp (fun was => ⟨client, mem_live_of_slot found, was, rfl⟩) id

/-- What the worker reads from one client. -/
theorem readRound_leads (sha1 : List UInt8 → Digest) (isSet : Int → Bool) (received : Int → Received) (now : UInt64)
    (index : Nat) :
    Leads server (Server.readClient isSet (fun fd => (received fd).reading sha1) now server index)
      (readSends sha1 isSet received server index) := by
  have same : ∀ next : Server, next.live = server.live → Leads server next [] := fun next live =>
    .silent fun client member _ => live ▸ member
  rw [Server.readClient, readSends]
  split
  · exact same server rfl
  · split
    · rename_i client found
      have here := mem_live_of_slot found
      split
      · exact same server rfl
      · cases received client.fd with
        | closed => exact same _ rfl
        | failed again =>
            dsimp only [Received.reading]
            split <;> exact same _ rfl
        | data memory count pongs closes =>
            dsimp only [Received.reading]
            by_cases connecting : client.state = .connecting
            · have unopened : ¬ (client.state = .open ∧ closes = true) := by
                rw [connecting]
                rintro ⟨⟨⟩, -⟩
              rw [if_neg unopened, if_pos connecting]
              refine Leads.changed found rfl rfl ?_ ?_
              · intro connection opcode member
                exfalso
                split at member
                · split at member <;> simp at member
                · cases member
              · intro open'
                right
                dsimp only at open'
                split at open'
                · rename_i shaken
                  obtain ⟨response, answered, taken⟩ := (Option.any_eq_true _ _).mp shaken.2
                  rw [answered]
                  dsimp only
                  rw [if_neg (of_decide_eq_true taken)]
                  exact ⟨_, List.mem_singleton_self _⟩
                · exact absurd (connecting.symm.trans open') (by decide)
            · have kept : ∀ changed : Client, changed.connection = client.connection → changed.state = client.state →
                  ∀ next : Server, next.clients = server.clients.set index (some changed) →
                    Leads server next (if client.state = .open ∧ ¬ closes ∧ pongs then
                      [.frame client.connection wsOpcodePong] else []) := by
                intro changed same state next clients
                refine Leads.changed found clients same ?_ fun open' => .inl (state.symm.trans open')
                intro connection opcode member
                split at member
                · rename_i was
                  cases List.mem_singleton.mp member
                  exact ⟨client, here, was.1, rfl⟩
                · cases member
              have still (shaken : Bool) : ¬ (client.state = .connecting ∧ shaken = true) := fun both => connecting both.1
              rw [if_neg connecting, if_neg (still _)]
              split
              · exact kept { client with lastActivity := now } rfl rfl _ rfl
              · exact kept { client with lastActivity := now } rfl rfl _ rfl
    · exact same server rfl

/-- A whole round of the worker. -/
theorem Answered.readRounds (sha1 : List UInt8 → Digest) (isSet : Int → Bool) (received : Int → Received) (now : UInt64)
    (indices : List Nat) (state : Server × List Sent) (answered : Answered state.1 (outputs ++ state.2)) :
    Answered (indices.foldl (readRound sha1 isSet received now) state).1
      (outputs ++ (indices.foldl (readRound sha1 isSet received now) state).2) := by
  induction indices generalizing state with
  | nil => exact answered
  | cons index rest ih =>
      refine ih _ ?_
      rw [readRound, ← List.append_assoc]
      exact answered.step (readRound_leads sha1 isSet received now index)

/-- The application answers a handshake. -/
theorem handshakeFor_leads (sha1 : List UInt8 → Digest) (clientId : UInt64) (memory : List UInt8) (count : Nat)
    (now : UInt64) :
    Leads server (server.handshakeFor sha1 clientId memory count now).1
      (server.handshakeFor sha1 clientId memory count now).2 := by
  have same : Leads server server [] := .silent fun client member _ => member
  rw [Server.handshakeFor]
  split
  · exact same
  · split
    · rename_i index _ _ client found
      have refused : Leads server { server with clients := server.clients.set index (some client) } [] :=
        .changed found rfl rfl (by rintro _ _ ⟨⟩) .inl
      rw [handleHandshake]
      cases responseTo sha1 memory with
      | none => exact refused
      | some response =>
          dsimp only
          by_cases nothing : response.take count = []
          · rw [if_pos nothing]
            exact refused
          · rw [if_neg nothing]
            refine .changed found rfl rfl ?_ fun _ => .inr ⟨_, List.mem_singleton_self _⟩
            intro connection opcode member
            cases List.mem_singleton.mp member
    · exact same

theorem handleClientConnection_leads (connection : Nat) (fd : Int) (now : UInt64) :
    Leads server (server.handleClientConnection connection fd now) [] := by
  refine .silent fun client member open' => ?_
  rw [Server.handleClientConnection, Server.live] at member
  split at member
  · rcases mem_set_live member with old | new
    · exact old
    · cases new
      cases open'
  · exact member

theorem removeClient_leads (clientId : UInt64) :
    Leads server (server.removeClient clientId) (server.closeFrames clientId) := by
  apply Leads.quiet
  · intro client member _
    rcases removeClient_cases server clientId with ⟨-, same⟩ | ⟨index, old, -, -, cleared⟩
    · rwa [same] at member
    · rw [cleared, Server.live] at member
      rcases mem_set_live member with kept | ⟨⟨⟩⟩
      exact kept
  · intro connection opcode member
    rw [Server.closeFrames] at member
    split at member
    · cases member
    · split at member
      · rename_i client found
        split at member
        · rename_i was
          cases List.mem_singleton.mp member
          exact ⟨client, mem_live_of_slot found, was, rfl⟩
        · cases member
      · cases member

theorem stop_leads (server : Server) : Leads server server.websocketServerStop [] := by
  refine .silent fun client member _ => ?_
  rw [Server.websocketServerStop] at member
  split at member
  · exact member
  · split at member
    · exact member
    · rw [Server.live, List.filterMap_map] at member
      obtain ⟨_, -, ⟨⟩⟩ := List.mem_filterMap.mp member

/-- Nothing is read from a client that is not in the set. -/
theorem readRound_unset (sha1 : List UInt8 → Digest) {isSet : Int → Bool} (received : Int → Received) (now : UInt64)
    (server : Server) (index : Nat) (unset : ∀ fd, isSet fd = false) :
    readRound sha1 isSet received now (server, []) index = (server, []) := by
  rw [readRound, Server.readClient, readSends]
  split
  · rfl
  · split
    · rename_i client found
      rw [if_pos (by simp [unset]), if_pos (by simp [unset])]
      rfl
    · rfl

theorem checkClientTimeout_live (server : Server) (currentTime : UInt64) :
    (server.checkClientTimeout currentTime).live = server.live := by
  have all (indices : List Nat) : ∀ first : Server,
      (indices.foldl (Server.checkClient currentTime) first).live = first.live := by
    induction indices with
    | nil => exact fun _ => rfl
    | cons index rest ih =>
        intro first
        refine (ih _).trans ?_
        rw [Server.checkClient]
        repeat' split
        all_goals rfl
  exact all _ server

theorem openClients_live {client : Client} (member : client ∈ server.openClients) :
    client ∈ server.live ∧ client.state = .open := by
  obtain ⟨live, open'⟩ := List.mem_filter.mp member
  exact ⟨live, of_decide_eq_true open'⟩

theorem sendWebsocketFrame_frames {client : Client} {code opcode : UInt8} {payload : List UInt8} {takes : Takes}
    {connection : Nat} (member : .frame connection opcode ∈ (sendWebsocketFrame client code payload takes).2) :
    client.connection = connection := by
  rw [sendWebsocketFrame] at member
  split at member
  · cases member
  · cases List.mem_singleton.mp member
    rfl

/-- A call that sends to one client finds it open. -/
theorem websocketSend_leads (maxMessageSize : UInt32) (clientId : UInt64) (opcode : UInt8) (payload : List UInt8)
    (takes : Takes) : Leads server server (websocketSend maxMessageSize server clientId opcode payload takes) := by
  refine .quiet (fun client member _ => member) fun connection code member => ?_
  rw [websocketSend] at member
  split at member
  · cases List.mem_singleton.mp member
  · rename_i client found
    split at member
    · cases List.mem_singleton.mp member
    · rename_i sendable
      rcases List.mem_append.mp member with frame | result
      · rw [not_or, not_not] at sendable
        exact ⟨client, List.mem_of_find?_eq_some found, sendable.1, sendWebsocketFrame_frames frame⟩
      · cases List.mem_singleton.mp result

theorem websocketBroadcast_leads (maxMessageSize : UInt32) (opcode : UInt8) (payload : List UInt8)
    (takes : Nat → Takes) : Leads server server (websocketBroadcast maxMessageSize server opcode payload takes) := by
  refine .quiet (fun client member _ => member) fun connection code member => ?_
  rw [websocketBroadcast] at member
  split at member
  · cases List.mem_singleton.mp member
  · split at member
    · cases member
    · rcases List.mem_append.mp member with frame | result
      · rw [List.flatMap_map] at frame
        obtain ⟨client, inside, sent⟩ := List.mem_flatMap.mp frame
        obtain ⟨live, open'⟩ := openClients_live inside
        exact ⟨client, live, open', sendWebsocketFrame_frames sent⟩
      · cases List.mem_singleton.mp result

/-- A call that answers an error, or does not return, sends nothing. -/
theorem Leads.error (result : Sent) (plain : ∀ connection opcode, result ≠ .frame connection opcode) :
    Leads server server [result] := by
  refine .quiet (fun client member _ => member) fun connection opcode member => ?_
  exact absurd (List.mem_singleton.mp member).symm (plain connection opcode)

variable {exchange : Exchange}

/-- Whoever takes the next step, frames go to answered connections. -/
theorem Answered.event (sha1 : List UInt8 → Digest) (maxMessageSize pingInterval : UInt32) (event : ExchangeEvent)
    (answered : Answered exchange.server outputs) :
    Answered ((exchangeMachine sha1 maxMessageSize pingInterval).step exchange event).1.server
      (outputs ++ ((exchangeMachine sha1 maxMessageSize pingInterval).step exchange event).2) := by
  have rests : Leads exchange.server exchange.server [] := .silent fun client member _ => member
  have same : Answered exchange.server (outputs ++ []) := answered.step rests
  cases event with
  | start started =>
      dsimp only [exchangeMachine]
      refine answered.step (.silent fun client member _ => ?_)
      rw [Server.websocketServerStart] at member
      split at member <;> exact member
  | stop =>
      dsimp only [exchangeMachine]
      split
      · exact same
      · exact answered.step (stop_leads exchange.server)
  | accept created fd now =>
      dsimp only [exchangeMachine]
      split
      · exact answered.step (handleClientConnection_leads exchange.accepted fd now)
      · exact same
  | closeClient clientId =>
      dsimp only [exchangeMachine]
      split
      · exact answered.step (removeClient_leads clientId)
      · exact same
  | handshake clientId memory count now =>
      dsimp only [exchangeMachine]
      split
      · exact same
      · exact answered.step (handshakeFor_leads sha1 clientId memory count now)
  | select =>
      dsimp only [exchangeMachine]
      split <;> exact same
  | failed => exact same
  | timeout now =>
      dsimp only [exchangeMachine]
      split
      · refine answered.step (.silent fun client member _ => ?_)
        rwa [checkClientTimeout_live] at member
      · exact same
  | ready isReady received now =>
      dsimp only [exchangeMachine]
      split
      · exact same
      · exact Answered.readRounds sha1 _ received now _ (exchange.server, []) same
  | cleanup now takes =>
      dsimp only [exchangeMachine]
      split
      · refine answered.step (.quiet (fun client member _ => member) fun connection opcode member => ?_)
        obtain ⟨client, due, shown⟩ := List.mem_map.mp member
        obtain ⟨live, open'⟩ := openClients_live (List.mem_filter.mp due).1
        cases shown
        exact ⟨client, live, open', rfl⟩
      · exact same
  | sendText clientId text takes =>
      dsimp only [exchangeMachine]
      refine answered.step ?_
      rw [websocketSendText]
      split
      · exact .error _ (by rintro _ _ ⟨⟩)
      · split
        · exact rests
        · exact websocketSend_leads maxMessageSize clientId _ text takes
  | sendBinary clientId data takes =>
      dsimp only [exchangeMachine]
      refine answered.step ?_
      rw [websocketSendBinary]
      split
      · exact .error _ (by rintro _ _ ⟨⟩)
      · split
        · exact rests
        · exact websocketSend_leads maxMessageSize clientId _ data takes
  | broadcastText text takes =>
      dsimp only [exchangeMachine]
      refine answered.step ?_
      rw [websocketBroadcastText]
      split
      · exact .error _ (by rintro _ _ ⟨⟩)
      · exact websocketBroadcast_leads maxMessageSize _ text takes
  | broadcastBinary data takes =>
      dsimp only [exchangeMachine]
      refine answered.step ?_
      rw [websocketBroadcastBinary]
      split
      · exact .error _ (by rintro _ _ ⟨⟩)
      · exact websocketBroadcast_leads maxMessageSize _ data takes

/-- No client is open, and the worker waits for nobody. -/
structure Unopened (exchange : Exchange) : Prop where
  closed : ∀ client ∈ exchange.server.live, client.state ≠ .open
  polled : ∀ fds, exchange.polled = some fds → fds = []

/-- A handshake that the application answers. -/
def ExchangeEvent.answers : ExchangeEvent → Bool
  | .handshake .. => true
  | _ => false

/-- Something was sent, or a call reports that it was. -/
def Sent.heard : Sent → Bool
  | .response .. => true
  | .frame .. => true
  | .returned result => result = 0
  | .broadcast count => 0 < count

theorem openClients_closed (closed : ∀ client ∈ server.live, client.state ≠ .open) : server.openClients = [] := by
  rw [Server.openClients, List.filter_eq_nil_iff]
  exact fun client member => by simpa using closed client member

/-- Without an open client each call that sends fails. -/
theorem unheard_calls (closed : ∀ client ∈ server.live, client.state ≠ .open) (maxMessageSize : UInt32)
    (clientId : UInt64) (opcode : UInt8) (payload : List UInt8) (takes : Takes) (all : Nat → Takes) :
    (∀ sent ∈ websocketSend maxMessageSize server clientId opcode payload takes, sent.heard = false) ∧
      ∀ sent ∈ websocketBroadcast maxMessageSize server opcode payload all, sent.heard = false := by
  constructor
  · rw [websocketSend]
    split
    · exact List.forall_mem_singleton.mpr rfl
    · rename_i client found
      have shut := closed client (List.mem_of_find?_eq_some found)
      rw [if_pos (.inl shut)]
      exact List.forall_mem_singleton.mpr rfl
  · rw [websocketBroadcast, openClients_closed closed]
    split
    · exact List.forall_mem_singleton.mpr rfl
    · split
      · exact List.forall_mem_nil _
      · exact List.forall_mem_singleton.mpr rfl

/-- A step without an answer leaves all clients closed. -/
theorem Leads.closed (leads : Leads server next sent) (closed : ∀ client ∈ server.live, client.state ≠ .open)
    (silent : ∀ connection bytes, .response connection bytes ∉ sent) : ∀ client ∈ next.live, client.state ≠ .open := by
  intro client live open'
  rcases leads.opens client live open' with ⟨old, before, was, -⟩ | ⟨bytes, response⟩
  · exact closed old before was
  · exact silent _ _ response

theorem Unopened.event (sha1 : List UInt8 → Digest) (maxMessageSize pingInterval : UInt32) (event : ExchangeEvent)
    (plain : event.answers = false) (unopened : Unopened exchange) :
    Unopened ((exchangeMachine sha1 maxMessageSize pingInterval).step exchange event).1 ∧
      ∀ sent ∈ ((exchangeMachine sha1 maxMessageSize pingInterval).step exchange event).2, sent.heard = false := by
  have closed := unopened.closed
  have same : Unopened exchange ∧ ∀ sent ∈ ([] : List Sent), sent.heard = false := ⟨unopened, List.forall_mem_nil _⟩
  have silent : ∀ connection bytes, Sent.response connection bytes ∉ [] := by rintro _ _ ⟨⟩
  cases event with
  | start started =>
      refine ⟨⟨fun client member => closed client ?_, unopened.polled⟩, List.forall_mem_nil _⟩
      dsimp only [exchangeMachine] at member
      rw [Server.websocketServerStart] at member
      split at member <;> exact member
  | stop =>
      dsimp only [exchangeMachine]
      split
      · exact same
      · refine ⟨⟨?_, unopened.polled⟩, List.forall_mem_nil _⟩
        exact (stop_leads exchange.server).closed closed silent
  | accept created fd now =>
      dsimp only [exchangeMachine]
      split
      · exact ⟨⟨(handleClientConnection_leads exchange.accepted fd now).closed closed silent, unopened.polled⟩,
          List.forall_mem_nil _⟩
      · exact same
  | closeClient clientId =>
      have none : exchange.server.closeFrames clientId = [] := by
        rw [Server.closeFrames]
        split
        · rfl
        · split
          · rename_i client found
            exact if_neg (closed client (mem_live_of_slot found))
          · rfl
      have removed := @removeClient_leads exchange.server clientId
      dsimp only [exchangeMachine]
      rw [none] at removed ⊢
      split
      · exact ⟨⟨removed.closed closed silent, unopened.polled⟩, List.forall_mem_nil _⟩
      · exact same
  | handshake clientId memory count now => cases plain
  | select =>
      dsimp only [exchangeMachine]
      rw [openClients_closed closed]
      split
      · refine ⟨⟨closed, fun fds shown => ?_⟩, List.forall_mem_nil _⟩
        cases shown
        rfl
      · exact same
  | failed => exact ⟨⟨closed, by rintro _ ⟨⟩⟩, List.forall_mem_nil _⟩
  | timeout now =>
      dsimp only [exchangeMachine]
      split
      · refine ⟨⟨fun client member => closed client ?_, by rintro _ ⟨⟩⟩, List.forall_mem_nil _⟩
        rwa [checkClientTimeout_live] at member
      · exact same
  | ready isReady received now =>
      cases waits : exchange.polled with
      | none =>
          dsimp only [exchangeMachine]
          rw [waits]
          exact same
      | some fds =>
          cases unopened.polled fds waits
          have nothing := foldl_same (readRound sha1 (fun fd => isReady fd && ([] : List Int).contains fd) received now)
            (exchange.server, []) (fun index => readRound_unset sha1 received now exchange.server index
              (by simp)) (List.range exchange.server.maxClients.toNat)
          dsimp only [exchangeMachine]
          rw [waits]
          dsimp only
          rw [nothing]
          exact ⟨⟨closed, by rintro _ ⟨⟩⟩, List.forall_mem_nil _⟩
  | cleanup now takes =>
      dsimp only [exchangeMachine]
      split
      · have none := openClients_closed closed
        rw [cleanupRound, none]
        exact ⟨⟨closed, unopened.polled⟩, List.forall_mem_nil _⟩
      · exact same
  | sendText clientId text takes =>
      refine ⟨unopened, ?_⟩
      dsimp only [exchangeMachine]
      rw [websocketSendText]
      split
      · exact List.forall_mem_singleton.mpr rfl
      · split
        · exact List.forall_mem_nil _
        · exact (unheard_calls closed maxMessageSize clientId _ text takes fun _ => takes).1
  | sendBinary clientId data takes =>
      refine ⟨unopened, ?_⟩
      dsimp only [exchangeMachine]
      rw [websocketSendBinary]
      split
      · exact List.forall_mem_singleton.mpr rfl
      · split
        · exact List.forall_mem_nil _
        · exact (unheard_calls closed maxMessageSize clientId _ data takes fun _ => takes).1
  | broadcastText text takes =>
      refine ⟨unopened, ?_⟩
      dsimp only [exchangeMachine]
      rw [websocketBroadcastText]
      split
      · exact List.forall_mem_singleton.mpr rfl
      · exact (unheard_calls closed maxMessageSize 0 _ text (takes 0) takes).2
  | broadcastBinary data takes =>
      refine ⟨unopened, ?_⟩
      dsimp only [exchangeMachine]
      rw [websocketBroadcastBinary]
      split
      · exact List.forall_mem_singleton.mpr rfl
      · exact (unheard_calls closed maxMessageSize 0 _ data (takes 0) takes).2

end Runs

/-- In whatever order the threads of the server and the application act, a frame only goes to a connection over which a
handshake was answered before. As long as the application itself answers none, nobody is ever sent anything, each
message to a client fails, and no broadcast reaches a client. -/
theorem frames_follow_handshakes (sha1 : List UInt8 → Digest) (maxMessageSize pingInterval maxClients timeout : UInt32)
    (events : List ExchangeEvent) :
    let outputs := ((exchangeMachine sha1 maxMessageSize pingInterval).run (newExchange maxClients timeout) events).2
    Led outputs ∧ ((∀ event ∈ events, event.answers = false) → ∀ sent ∈ outputs, sent.heard = false) := by
  have nobody : (newExchange maxClients timeout).server.live = [] := by
    rw [Server.live, List.filterMap_eq_nil_iff]
    exact fun slot member => (List.mem_replicate.mp member).2
  constructor
  · have answered := (exchangeMachine sha1 maxMessageSize pingInterval).history_always
      (fun exchange outputs => Answered exchange.server outputs)
      (fun exchange event outputs answered => answered.event sha1 maxMessageSize pingInterval event)
      (newExchange maxClients timeout) events [] ⟨by simp [Led], by simp [nobody]⟩
    exact answered.led
  · intro plain
    apply (exchangeMachine sha1 maxMessageSize pingInterval).run_outputs (fun _ event => event.answers = false) Unopened
    · exact fun exchange event unopened plain => (unopened.event sha1 maxMessageSize pingInterval event plain).1
    · exact fun exchange event unopened plain => (unopened.event sha1 maxMessageSize pingInterval event plain).2
    · exact ⟨by simp [nobody], by rintro _ ⟨⟩⟩
    · exact ((exchangeMachine sha1 maxMessageSize pingInterval).along_iff_split _ _ events).mpr
        fun front event rest split => plain event (by simp [split])

/-- A peer connects and asks for the handshake. Nobody answers, and the application calls the sending functions. -/
def unansweredRun : List ExchangeEvent :=
  [.start true, .accept true 7 0, .select, .ready (fun _ => true) (fun _ => .data sampleRequest 159 false false) 5,
    .sendText 1 [0x68] ⟨true, true⟩, .broadcastText [0x68] fun _ => ⟨true, true⟩]

theorem frames_follow_handshakes_unanswered :
    let outputs := ((exchangeMachine sampleSha1 1000 30).run (newExchange 10 300) unansweredRun).2
    Led outputs ∧ outputs.length = 2 ∧ outputs.all (fun sent => !sent.heard) = true := by
  obtain ⟨led, unheard⟩ := frames_follow_handshakes sampleSha1 1000 30 10 300 unansweredRun
  refine ⟨led, by decide +kernel, ?_⟩
  rw [List.all_eq_true]
  intro sent member
  rw [unheard (by decide) sent member]
  rfl

/-- Once the application answers the request itself, the client is reached. -/
example : ((exchangeMachine sampleSha1 1000 30).run (newExchange 10 300)
    [.start true, .accept true 7 0, .handshake 1 sampleRequest 1 5, .broadcastText [0x68] fun _ => ⟨true, true⟩]).2 =
      [.response 0 [0x48], .frame 0 wsOpcodeText, .broadcast 1] := by
  decide +kernel

end SecureChat.WebSocket.Clients
