/-
This file holds the browser client with the promises of its `sendMessage` calls and with its timers.
-/

import SecureChat.Construction.Web.WebSocketClient

namespace SecureChat.Web
open Library Library.JsNumber

/-- What the promise of a `sendMessage` call was settled with. A response has a number. -/
inductive Outcome where
  | null
  | response (number : Nat) (body : List UInt8)
  | rejected
  deriving DecidableEq, Repr

/-- What a `sendMessage` call does with its message and its promise. -/
inductive Delivery where
  | waits | throws | awaits | sent
  deriving DecidableEq, Repr

/-- The client with the calls that it was given.
It is recorded which calls expect a response, which number was assigned to which call,
what responses came, how promises were settled, and whether the application wants a connection. -/
structure Exchange where
  client : SecureChatWebSocket
  calls : Nat
  correlationMap : List (Int × Nat)
  responseTimers : List Int
  heartbeatTimer : Option Nat
  intervals : List Nat
  nextInterval : Nat
  expecting : List Nat
  assigned : List (Int × Nat)
  received : List (Int × List UInt8)
  settled : List (Nat × Outcome)
  wanted : Bool
  deriving DecidableEq, Repr

namespace SecureChatWebSocket

/-- `send` of a socket throws before its open event, and is silent after its close. -/
def delivery (client : SecureChatWebSocket) (expectResponse : Bool) : Delivery :=
  match client.socket with
  | none => .waits
  | some socket =>
      if client.state ≠ .connected then .waits
      else if client.readyState socket = some .connecting then .throws
      else if expectResponse ∧ client.nextCorrelationId ≠ 0 then .awaits
      else .sent

/-- The number and the body of a response. -/
def responseOf (rawData : List UInt8) : Option (Int × List UInt8) :=
  match acceptMessage rawData with
  | none => none
  | some (header, body) =>
      if header.type = msgSystemHeartbeat then none
      else if bitAnd header.flags flagResponse ≠ 0 then some (header.correlationId, body)
      else none

end SecureChatWebSocket

namespace Exchange

def create (reconnectAttempts : Nat) : Exchange where
  client := .create reconnectAttempts
  calls := 0
  correlationMap := []
  responseTimers := []
  heartbeatTimer := none
  intervals := []
  nextInterval := 0
  expecting := []
  assigned := []
  received := []
  settled := []
  wanted := false

def settle (exchange : Exchange) (call : Nat) (outcome : Outcome) : Exchange :=
  { exchange with settled := exchange.settled ++ [(call, outcome)] }

/-- A message that waits keeps its promise, and not whether it expects a response. -/
def sendMessage (exchange : Exchange) (clock : Int → Int) (expectResponse : Bool) (message : Message) :
    Exchange :=
  let correlationId := exchange.client.nextCorrelationId
  let advanced := { exchange with client := (exchange.client.sendMessage clock expectResponse message).1 }
  let counted := if expectResponse then
      { advanced with assigned := exchange.assigned ++ [(correlationId, message.call)] }
    else advanced
  match exchange.client.delivery expectResponse with
  | .waits => advanced
  | .throws => counted.settle message.call .rejected
  | .awaits => { counted with
      correlationMap := exchange.correlationMap ++ [(correlationId, message.call)]
      responseTimers := exchange.responseTimers ++ [correlationId] }
  | .sent => counted.settle message.call .null

/-- Several messages one after the other. -/
def sendAll (exchange : Exchange) (clock : Int → Int) (messages : List (Message × Bool)) : Exchange :=
  messages.foldl (fun exchange entry => exchange.sendMessage clock entry.2 entry.1) exchange

/-- New calls get their numbers before their messages are sent. -/
def call (exchange : Exchange) (clock : Int → Int) (entries : List (Int × List UInt8 × Bool)) : Exchange :=
  let messages := numbered exchange.calls entries
  let counted : Exchange := { exchange with
    calls := exchange.calls + entries.length
    expecting := exchange.expecting ++ (messages.filter Prod.snd).map fun entry => entry.1.call }
  counted.sendAll clock messages

/-- The waiting messages are sent again without an expectation, and their promises follow. -/
def flushPendingMessages (exchange : Exchange) (clock : Int → Int) : Exchange :=
  { exchange with client := { exchange.client with pendingMessages := [] } }.sendAll clock
    (exchange.client.pendingMessages.map (·, false))

/-- An interval that is armed already is not cleared. -/
def startHeartbeat (exchange : Exchange) : Exchange :=
  { exchange with
    heartbeatTimer := some exchange.nextInterval
    intervals := exchange.intervals ++ [exchange.nextInterval]
    nextInterval := exchange.nextInterval + 1 }

def stopHeartbeat (exchange : Exchange) : Exchange :=
  match exchange.heartbeatTimer with
  | none => exchange
  | some timer => { exchange with heartbeatTimer := none, intervals := exchange.intervals.filter (· ≠ timer) }

def onopen (exchange : Exchange) (socket : Nat) (eager : List (Int × List UInt8 × Bool)) (clock : Int → Int) :
    Exchange :=
  let opened := exchange.client.changeSocket socket ({ · with readyState := .open })
  let called := { exchange with client := opened.setState .connected }.call clock eager
  let flushed := called.startHeartbeat.flushPendingMessages clock
  { flushed with client := flushed.client.changeSocket socket ({ · with settled := true }) }

/-- The handler of a response is taken from the map. -/
def handleMessage (exchange : Exchange) (rawData : List UInt8) : Exchange :=
  let handled := { exchange with client := exchange.client.handleMessage rawData }
  match SecureChatWebSocket.responseOf rawData with
  | none => handled
  | some (correlationId, body) =>
      let recorded := { handled with received := exchange.received ++ [(correlationId, body)] }
      match exchange.correlationMap.lookup correlationId with
      | none => recorded
      | some call =>
          { recorded with
            correlationMap := exchange.correlationMap.filter (·.1 ≠ correlationId) }.settle call
              (.response exchange.received.length body)

/-- The timer that a call has started for its response. -/
def onResponseTimeout (exchange : Exchange) (correlationId : Int) : Exchange :=
  let fired := { exchange with responseTimers := exchange.responseTimers.filter (· ≠ correlationId) }
  match exchange.correlationMap.lookup correlationId with
  | none => fired
  | some call =>
      { fired with
        correlationMap := exchange.correlationMap.filter (·.1 ≠ correlationId) }.settle call .rejected

/-- A socket that has failed is no longer open at its error event. -/
def onerror (exchange : Exchange) (socket : Nat) : Exchange :=
  { exchange with client := (exchange.client.closeSocket socket).onerror socket }

def onclose (exchange : Exchange) (socket code : Nat) : Exchange :=
  { exchange.stopHeartbeat with client := exchange.client.onclose socket code }

/-- All promises that wait are forgotten. -/
def disconnect (exchange : Exchange) : Exchange :=
  { exchange.stopHeartbeat with
    client := exchange.client.disconnect
    correlationMap := []
    wanted := false }

/-- An interval sends when the socket is open. -/
def onHeartbeat (exchange : Exchange) (clock : Int → Int) : Exchange :=
  match exchange.client.socket with
  | none => exchange
  | some socket =>
      if exchange.client.readyState socket = some .open then
        exchange.call clock [(msgSystemHeartbeat, [], false)]
      else exchange

end Exchange

/-- What happens to the client, with its own timers. -/
inductive ExchangeEvent where
  | client (event : ClientEvent)
  | heartbeat (interval : Nat) (clock : Int → Int)
  | responseTimeout (correlationId : Int)

/-- An event that its socket or its timer cannot have does not happen. -/
def Exchange.step (exchange : Exchange) : ExchangeEvent → Exchange
  | .client (.connect created) =>
      { exchange with client := exchange.client.connect false created, wanted := true }
  | .client (.reconnectTimer created) =>
      { exchange with client := (clientStep exchange.client exchange.calls (.reconnectTimer created)).1 }
  | .client (.timeout socket) =>
      { exchange with client := (clientStep exchange.client exchange.calls (.timeout socket)).1 }
  | .client (.opened socket eager clock) =>
      if exchange.client.readyState socket = some .connecting then exchange.onopen socket eager clock
      else exchange
  | .client (.message socket rawData) =>
      if exchange.client.readyState socket = some .open then exchange.handleMessage rawData else exchange
  | .client (.error socket) =>
      if (exchange.client.readyState socket).any (· ≠ .closed) then exchange.onerror socket else exchange
  | .client (.closed socket code) =>
      if (exchange.client.readyState socket).any (· ≠ .closed) then exchange.onclose socket code else exchange
  | .client (.sendMessage type data expectResponse clock) =>
      exchange.call clock [(type, data, expectResponse)]
  | .client .disconnect => exchange.disconnect
  | .heartbeat interval clock =>
      if interval ∈ exchange.intervals then exchange.onHeartbeat clock else exchange
  | .responseTimeout correlationId =>
      if correlationId ∈ exchange.responseTimers then exchange.onResponseTimeout correlationId else exchange

def exchangeMachine : Machine Exchange ExchangeEvent Empty where
  step exchange event := (exchange.step event, [])

end SecureChat.Web
