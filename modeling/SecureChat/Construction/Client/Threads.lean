/-
This file holds the threads of the native client, which share its fields without a common lock.
-/

import SecureChat.Construction.Client.Receive
import Mathlib.Logic.Function.Basic

namespace SecureChat.Client.Threads
open Library

/-- The fields that the threads share. A handle names the thread that it was written for. -/
structure Shared where
  state : ClientState
  sockfd : Int
  connectionActive : Bool
  receiveThread : Option Nat
  heartbeatThread : Option Nat
  reconnectThread : Option Nat
  threadsRunning : Bool
  lastHeartbeatSent : UInt64
  heartbeatMissed : UInt32
  reconnectCount : UInt32
  heartbeatInterval : UInt64
  reconnectAttempts : Int32
  deriving DecidableEq, Repr

/-- Where a thread of `receive_thread_func` stands. -/
inductive ReceivePc where
  | absent
  | testRunning
  | testActive
  | enter
  | enterSocket
  | receiving
  | lost
  | reconnecting
  | testReconnect
  | startReconnect
  | failing
  | clearing
  | returning
  | ended
  deriving DecidableEq, Repr

/-- Where a thread of `heartbeat_thread_func` stands. -/
inductive HeartbeatPc where
  | absent
  | testRunning
  | testActive
  | sleeping
  | checkRunning
  | checkActive
  | timing
  | sending (now : UInt64)
  | counting
  | storing (missed : UInt32)
  | judging
  | clearing
  | returning
  | ended
  deriving DecidableEq, Repr

/-- Where a thread of `reconnect_thread_func` stands. -/
inductive ReconnectPc where
  | absent
  | testCount
  | testRunning
  | sleeping
  | checkRunning
  | opening
  | establishing
  | startReceive (connection : Nat)
  | startHeartbeat (connection : Nat)
  | announcing
  | counting
  | storing (count : UInt32)
  | leaving
  | failing
  | releasing
  | returning
  | ended
  deriving DecidableEq, Repr

/-- The fields that `cleanup_connection` resets, one after another. -/
inductive CleanupPc where
  | socket
  | active
  | sent
  | missed
  | count
  deriving DecidableEq, Repr

inductive ConnectPc where
  | check
  | announcing
  | opening (connection : Nat)
  | establishing (connection : Nat)
  | startReceive (connection : Nat)
  | startHeartbeat (connection : Nat)
  | setRunning
  | finishing
  | stopRunning
  | joinReceive
  | joiningReceive (thread : Nat)
  | cleanup (next : CleanupPc)
  | failing
  deriving DecidableEq, Repr

/-- The threads that `client_disconnect` waits for, in this order. -/
inductive Joined where
  | receive
  | heartbeat
  | reconnect
  deriving DecidableEq, Repr

inductive DisconnectPc where
  | check
  | announcing
  | stopRunning
  | join (which : Joined)
  | joining (which : Joined) (thread : Nat)
  | release (which : Joined)
  | cleanup (next : CleanupPc)
  | finishing
  deriving DecidableEq, Repr

inductive LoginPc where
  | check
  | announcing
  | hashing
  | sendActive
  | sendSocket
  | reverting
  deriving DecidableEq, Repr

/-- The application makes one call at a time. -/
inductive ApplicationPc where
  | idle
  | connect (next : ConnectPc)
  | disconnect (next : DisconnectPc)
  | login (next : LoginPc)
  deriving DecidableEq, Repr

/-- The client with all of its threads.
The receive and the heartbeat thread of a connection have its number,
and a reconnect thread has the number of its start. -/
structure System where
  client : Shared
  receive : Nat → ReceivePc
  heartbeat : Nat → HeartbeatPc
  reconnect : Nat → ReconnectPc
  application : ApplicationPc
  connections : Nat
  reconnects : Nat

def clientCreate (heartbeatInterval : UInt64) (reconnectAttempts : Int32) : System where
  client := {
    state := .disconnected
    sockfd := 0
    connectionActive := false
    receiveThread := none
    heartbeatThread := none
    reconnectThread := none
    threadsRunning := false
    lastHeartbeatSent := 0
    heartbeatMissed := 0
    reconnectCount := 0
    heartbeatInterval := heartbeatInterval
    reconnectAttempts := reconnectAttempts }
  receive := fun _ => .absent
  heartbeat := fun _ => .absent
  reconnect := fun _ => .absent
  application := .idle
  connections := 0
  reconnects := 0

namespace System

def receiveAt (system : System) (thread : Nat) (next : ReceivePc) : System :=
  { system with receive := Function.update system.receive thread next }

def heartbeatAt (system : System) (thread : Nat) (next : HeartbeatPc) : System :=
  { system with heartbeat := Function.update system.heartbeat thread next }

def reconnectAt (system : System) (thread : Nat) (next : ReconnectPc) : System :=
  { system with reconnect := Function.update system.reconnect thread next }

/-- `pthread_create` writes the handle and starts the thread. -/
def createReceive (system : System) (connection : Nat) : System :=
  { system with
    client.receiveThread := some connection
    receive := Function.update system.receive connection .testRunning }

def createHeartbeat (system : System) (connection : Nat) : System :=
  { system with
    client.heartbeatThread := some connection
    heartbeat := Function.update system.heartbeat connection .testRunning }

def createReconnect (system : System) : System :=
  { system with
    client.reconnectThread := some system.reconnects
    reconnect := Function.update system.reconnect system.reconnects .testCount
    reconnects := system.reconnects + 1 }

def updateClientState (system : System) (newState : ClientState) : System :=
  { system with client.state := newState }

def setActive (system : System) (active : Bool) : System :=
  { system with client.connectionActive := active }

end System

/-- What `receive_message_internal` does next: it handles a heartbeat of the server,
or it returns with a result that is not negative, or with a negative one. -/
inductive Reading where
  | heartbeat
  | handled
  | failed
  deriving DecidableEq, Repr

/-- One step of a receive thread reads or writes one shared field. -/
def receiveThreadFunc (system : System) (thread : Nat) (reading : Reading) (created : Bool) : System :=
  match system.receive thread with
  | .absent => system
  | .testRunning => system.receiveAt thread (if system.client.threadsRunning then .testActive else .returning)
  | .testActive => system.receiveAt thread (if system.client.connectionActive then .enter else .returning)
  | .enter => system.receiveAt thread (if system.client.connectionActive then .enterSocket else .lost)
  | .enterSocket => system.receiveAt thread (if system.client.sockfd = -1 then .lost else .receiving)
  | .receiving =>
      match reading with
      | .heartbeat => { system with client.heartbeatMissed := 0 }
      | .handled => system.receiveAt thread .testRunning
      | .failed => system.receiveAt thread .lost
  | .lost => system.receiveAt thread (
      if !system.client.threadsRunning then .returning
      else if 0 < system.client.reconnectAttempts then .reconnecting else .failing)
  | .reconnecting => (system.updateClientState .reconnecting).receiveAt thread .testReconnect
  | .testReconnect => system.receiveAt thread (
      if system.client.reconnectThread = none then .startReconnect else .clearing)
  | .startReconnect => (if created then system.createReconnect else system).receiveAt thread .clearing
  | .failing => (system.updateClientState .error).receiveAt thread .clearing
  | .clearing => (system.setActive false).receiveAt thread .returning
  | .returning => system.receiveAt thread .ended
  | .ended => system

/-- A heartbeat that cannot be sent counts as missed too. -/
def heartbeatThreadFunc (system : System) (thread : Nat) (now : UInt64) : System :=
  match system.heartbeat thread with
  | .absent => system
  | .testRunning => system.heartbeatAt thread (if system.client.threadsRunning then .testActive else .returning)
  | .testActive => system.heartbeatAt thread (if system.client.connectionActive then .sleeping else .returning)
  | .sleeping => system.heartbeatAt thread .checkRunning
  | .checkRunning => system.heartbeatAt thread (if system.client.threadsRunning then .checkActive else .returning)
  | .checkActive => system.heartbeatAt thread (if system.client.connectionActive then .timing else .returning)
  | .timing => system.heartbeatAt thread (
      if system.client.heartbeatInterval ≤ now - system.client.lastHeartbeatSent then .sending now
      else .testRunning)
  | .sending sent => { system with client.lastHeartbeatSent := sent }.heartbeatAt thread .counting
  | .counting => system.heartbeatAt thread (.storing (system.client.heartbeatMissed + 1))
  | .storing missed => { system with client.heartbeatMissed := missed }.heartbeatAt thread .judging
  | .judging => system.heartbeatAt thread (if 3 < system.client.heartbeatMissed then .clearing else .testRunning)
  | .clearing => (system.setActive false).heartbeatAt thread .returning
  | .returning => system.heartbeatAt thread .ended
  | .ended => system

/-- What `socket`, the attempt to connect and the other calls of a thread answer. -/
structure Answer where
  fd : Int
  ok : Bool
  deriving DecidableEq, Repr

/-- The number of attempts is compared as an unsigned number. -/
def attemptsLeft (client : Shared) : Bool := client.reconnectCount < client.reconnectAttempts.toUInt32

/-- A new connection of a reconnect thread gets its number when it is established. -/
def reconnectThreadFunc (system : System) (thread : Nat) (answer : Answer) : System :=
  match system.reconnect thread with
  | .absent => system
  | .testCount => system.reconnectAt thread (if attemptsLeft system.client then .testRunning else .leaving)
  | .testRunning => system.reconnectAt thread (if system.client.threadsRunning then .sleeping else .leaving)
  | .sleeping => system.reconnectAt thread .checkRunning
  | .checkRunning => system.reconnectAt thread (if system.client.threadsRunning then .opening else .leaving)
  | .opening =>
      { system with client.sockfd := answer.fd }.reconnectAt thread (
        if answer.fd < 0 then .counting else .establishing)
  | .establishing =>
      if answer.ok then
        { system.setActive true with connections := system.connections + 1 }.reconnectAt thread
          (.startReceive (system.connections + 1))
      else { system with client.sockfd := -1 }.reconnectAt thread .counting
  | .startReceive connection =>
      if answer.ok then (system.createReceive connection).reconnectAt thread (.startHeartbeat connection)
      else system.reconnectAt thread .counting
  | .startHeartbeat connection =>
      (if answer.ok then system.createHeartbeat connection else system).reconnectAt thread .announcing
  | .announcing => (system.updateClientState .connected).reconnectAt thread .leaving
  | .counting => system.reconnectAt thread (.storing (system.client.reconnectCount + 1))
  | .storing count => { system with client.reconnectCount := count }.reconnectAt thread .testCount
  | .leaving => system.reconnectAt thread (if attemptsLeft system.client then .releasing else .failing)
  | .failing => (system.updateClientState .error).reconnectAt thread .releasing
  | .releasing => { system with client.reconnectThread := none }.reconnectAt thread .returning
  | .returning => system.reconnectAt thread .ended
  | .ended => system

/-- One step of `cleanup_connection`, and the step after it. -/
def cleanupConnection (client : Shared) : CleanupPc → Shared × Option CleanupPc
  | .socket => ({ client with sockfd := -1 }, some .active)
  | .active => ({ client with connectionActive := false }, some .sent)
  | .sent => ({ client with lastHeartbeatSent := 0 }, some .missed)
  | .missed => ({ client with heartbeatMissed := 0 }, some .count)
  | .count => ({ client with reconnectCount := 0 }, none)

namespace System

def connectAt (system : System) (next : ConnectPc) : System := { system with application := .connect next }

def disconnectAt (system : System) (next : DisconnectPc) : System :=
  { system with application := .disconnect next }

def loginAt (system : System) (next : LoginPc) : System := { system with application := .login next }

def done (system : System) : System := { system with application := .idle }

end System

/-- An attempt to connect gets its number when it is announced. -/
def clientConnect (system : System) (answer : Answer) : ConnectPc → System
  | .check =>
      if system.client.state ≠ .disconnected ∧ system.client.state ≠ .error then system.done
      else system.connectAt .announcing
  | .announcing =>
      { system.updateClientState .connecting with connections := system.connections + 1 }.connectAt
        (.opening (system.connections + 1))
  | .opening connection =>
      { system with client.sockfd := answer.fd }.connectAt (
        if answer.fd < 0 then .failing else .establishing connection)
  | .establishing connection =>
      if answer.ok then (system.setActive true).connectAt (.startReceive connection)
      else { system with client.sockfd := -1 }.connectAt .failing
  | .startReceive connection =>
      if answer.ok then (system.createReceive connection).connectAt (.startHeartbeat connection)
      else system.connectAt (.cleanup .socket)
  | .startHeartbeat connection =>
      if answer.ok then (system.createHeartbeat connection).connectAt .setRunning
      else system.connectAt .stopRunning
  | .setRunning => { system with client.threadsRunning := true }.connectAt .finishing
  | .finishing => (system.updateClientState .connected).done
  | .stopRunning => { system with client.threadsRunning := false }.connectAt .joinReceive
  | .joinReceive =>
      match system.client.receiveThread with
      | none => system.connectAt (.cleanup .socket)
      | some thread => system.connectAt (.joiningReceive thread)
  | .joiningReceive thread =>
      if system.receive thread = .ended then system.connectAt (.cleanup .socket) else system
  | .cleanup next =>
      { system with client := (cleanupConnection system.client next).1 }.connectAt (
        match (cleanupConnection system.client next).2 with
        | none => .failing
        | some later => .cleanup later)
  | .failing => (system.updateClientState .error).done

def Joined.handle (client : Shared) : Joined → Option Nat
  | .receive => client.receiveThread
  | .heartbeat => client.heartbeatThread
  | .reconnect => client.reconnectThread

def Joined.hasEnded (system : System) (thread : Nat) : Joined → Bool
  | .receive => system.receive thread = .ended
  | .heartbeat => system.heartbeat thread = .ended
  | .reconnect => system.reconnect thread = .ended

def Joined.released (client : Shared) : Joined → Shared
  | .receive => { client with receiveThread := none }
  | .heartbeat => { client with heartbeatThread := none }
  | .reconnect => { client with reconnectThread := none }

def Joined.after : Joined → DisconnectPc
  | .receive => .join .heartbeat
  | .heartbeat => .join .reconnect
  | .reconnect => .cleanup .socket

/-- The message that is sent to log out changes nothing here. -/
def clientDisconnect (system : System) : DisconnectPc → System
  | .check =>
      if system.client.state = .disconnected ∨ system.client.state = .disconnecting then system.done
      else system.disconnectAt .announcing
  | .announcing => (system.updateClientState .disconnecting).disconnectAt .stopRunning
  | .stopRunning => { system with client.threadsRunning := false }.disconnectAt (.join .receive)
  | .join which =>
      match which.handle system.client with
      | none => system.disconnectAt which.after
      | some thread => system.disconnectAt (.joining which thread)
  | .joining which thread =>
      if which.hasEnded system thread then system.disconnectAt (.release which) else system
  | .release which => { system with client := which.released system.client }.disconnectAt which.after
  | .cleanup next =>
      { system with client := (cleanupConnection system.client next).1 }.disconnectAt (
        match (cleanupConnection system.client next).2 with
        | none => .finishing
        | some later => .cleanup later)
  | .finishing => (system.updateClientState .disconnected).done

/-- A login is sent and not waited for. Until it can be sent it falls back to the state before it. -/
def clientLogin (system : System) (answer : Answer) : LoginPc → System
  | .check => if system.client.state ≠ .connected then system.done else system.loginAt .announcing
  | .announcing => (system.updateClientState .authenticating).loginAt .hashing
  | .hashing => system.loginAt (if answer.ok then .sendActive else .reverting)
  | .sendActive => system.loginAt (if system.client.connectionActive then .sendSocket else .reverting)
  | .sendSocket => if system.client.sockfd ≠ -1 ∧ answer.ok then system.done else system.loginAt .reverting
  | .reverting => (system.updateClientState .connected).done

inductive ClientCall where
  | connect
  | disconnect
  | login
  deriving DecidableEq, Repr

def ClientCall.start : ClientCall → ApplicationPc
  | .connect => .connect .check
  | .disconnect => .disconnect .check
  | .login => .login .check

/-- The step of one thread, or the start of a call of the application. -/
inductive Action where
  | receive (thread : Nat) (reading : Reading) (created : Bool)
  | heartbeat (thread : Nat) (now : UInt64)
  | reconnect (thread : Nat) (answer : Answer)
  | call (call : ClientCall)
  | application (answer : Answer)
  deriving DecidableEq, Repr

def System.applicationStep (system : System) (answer : Answer) : System :=
  match system.application with
  | .idle => system
  | .connect next => clientConnect system answer next
  | .disconnect next => clientDisconnect system next
  | .login next => clientLogin system answer next

/-- Any order of the steps of all threads. -/
def threadMachine : Machine System Action Unit where
  step system action :=
    match action with
    | .receive thread reading created => (receiveThreadFunc system thread reading created, [])
    | .heartbeat thread now => (heartbeatThreadFunc system thread now, [])
    | .reconnect thread answer => (reconnectThreadFunc system thread answer, [])
    | .call call =>
        (if system.application = .idle then { system with application := call.start } else system, [])
    | .application answer => (system.applicationStep answer, [])

end SecureChat.Client.Threads
