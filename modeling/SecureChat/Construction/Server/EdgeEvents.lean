/-
This file runs the accept thread of the native server over edge-triggered events.
-/

import SecureChat.Construction.Server.Events
import SecureChat.Library.ReadyList
import Mathlib.Logic.Function.Basic

namespace SecureChat.Server
open Library Protocol

inductive Listener where
  | tcp
  | ws
  deriving DecidableEq, Repr

inductive Descriptor where
  | listening (listener : Listener)
  | client (fd : Nat)
  deriving DecidableEq, Repr

/-- The kernel's side of one connection. The buffer `received` holds what nobody has read yet.
The lists `sent` and `passed` keep what the peer sent and what `connection_process_data` got. -/
structure Socket where
  received : List UInt8
  sent : List UInt8
  passed : List UInt8
  rdhup : Bool
  hup : Bool
  err : Bool
  deriving DecidableEq, Repr

def newSocket : Socket := ⟨[], [], [], false, false, false⟩

inductive HangUp where
  | fin
  | reset
  deriving DecidableEq, Repr

namespace Socket

/-- A peer that has hung up sends nothing more. -/
def send (socket : Socket) (bytes : List UInt8) : Socket :=
  if socket.rdhup then socket
  else { socket with received := socket.received ++ bytes, sent := socket.sent ++ bytes }

/-- The bytes that have arrived before stay in the buffer. -/
def hangUp (socket : Socket) : HangUp → Socket
  | .fin => { socket with rdhup := true }
  | .reset => { socket with rdhup := true, hup := true, err := true }

/-- The end of the stream is readable too. Clients are not registered for writable events. -/
def events (socket : Socket) : EpollEvents :=
  ⟨socket.rdhup, socket.hup, socket.err, !socket.received.isEmpty || socket.rdhup, false⟩

/-- What `recv` answers. A reset connection and a closed one give the same result. -/
def recv (socket : Socket) (fails : Bool) : RecvReply :=
  if fails then .failed
  else if socket.received ≠ [] then .data socket.received
  else if socket.rdhup then .closed
  else .wouldBlock

/-- The bytes leave the kernel's buffer and go to the connection. -/
def pass (socket : Socket) (bytes : List UInt8) : Socket :=
  { socket with received := socket.received.drop bytes.length, passed := socket.passed ++ bytes }

end Socket

/-- An accepted socket. It has a connection only if `handle_tcp_connection` made one. -/
structure Client where
  socket : Socket
  conn : Option ClientConnection

/-- The accept queues, the open clients, and the ready list are the kernel's.
The batch holds the events of the last `epoll_wait` that are not handled yet. -/
structure EventLoop where
  waiting : Listener → List Socket
  clients : Nat → Option Client
  ready : List Descriptor
  batch : List (Descriptor × EpollEvents)
  maxEvents : Nat
  nfds : Nat
  world : World

/-- The loop starts with both listening sockets and nobody waiting. -/
def startLoop (world : World) : EventLoop :=
  ⟨fun _ => [], fun _ => none, [], [], 64, 0, world⟩

/-- What the system answers while one event is handled. A failing `accept` gives no descriptor. -/
structure LoopAnswers where
  accept : Option Nat
  activeCount : Nat
  setNonblocking : Bool
  setSocketOptions : Bool
  connectionCreate : Bool
  epollCtl : Bool
  recvFails : Bool
  reallocOk : Bool
  deriving DecidableEq, Repr

/-- A peer is known by its place in an accept queue or by the descriptor of its socket. -/
inductive Peer where
  | queued (listener : Listener) (index : Nat)
  | accepted (fd : Nat)
  deriving DecidableEq, Repr

inductive LoopInput where
  | connects (listener : Listener)
  | sends (peer : Peer) (bytes : List UInt8)
  | hangsUp (peer : Peer) (how : HangUp)
  | epollWait (reallocOk : Bool)
  | handles (answers : LoopAnswers)
  deriving DecidableEq, Repr

/-- What the handler did, and each socket that the server closed as it was then. -/
inductive LoopOutput where
  | handled (fd : Nat) (output : ServerOutput)
  | closed (socket : Socket)
  deriving DecidableEq, Repr

namespace EventLoop

/-- A descriptor has an event pending from its report to the end of its handling. -/
def pending (state : EventLoop) : List Descriptor :=
  state.ready ++ state.batch.map Prod.fst

/-- What `epoll_wait` finds when it looks at a descriptor. -/
def poll (state : EventLoop) : Descriptor → Option EpollEvents
  | .listening listener => if (state.waiting listener).isEmpty then none else some epollIn
  | .client fd =>
      (state.clients fd).bind fun client =>
        if client.socket.events = newSocket.events then none else some client.socket.events

def connects (state : EventLoop) (listener : Listener) : EventLoop :=
  { state with
    waiting := Function.update state.waiting listener (state.waiting listener ++ [newSocket])
    ready := notify state.ready (.listening listener) }

/-- A change is reported if the socket is registered. Sockets in an accept queue are not. -/
def reach (state : EventLoop) (change : Socket → Socket) : Peer → EventLoop
  | .queued listener index =>
      { state with
        waiting := Function.update state.waiting listener ((state.waiting listener).modify index change) }
  | .accepted fd =>
      match state.clients fd with
      | none => state
      | some client =>
          { state with
            clients := Function.update state.clients fd
              (some { client with socket := change client.socket })
            ready := if client.conn.isSome ∧ change client.socket ≠ client.socket then
              notify state.ready (.client fd) else state.ready }

/-- The loop waits again after the last event. A full array is doubled first. -/
def epollWait (state : EventLoop) (reallocOk : Bool) : EventLoop :=
  if state.batch ≠ [] then state else
  let maxEvents := if state.nfds = state.maxEvents ∧ reallocOk then state.maxEvents * 2
    else state.maxEvents
  let (batch, ready) := fetch state.poll maxEvents state.ready
  { state with ready := ready, batch := batch, maxEvents := maxEvents, nfds := batch.length }

/-- Closing a socket takes it out of the ready list. -/
def close (state : EventLoop) (fd : Nat) : EventLoop :=
  { state with
    clients := Function.update state.clients fd none
    ready := state.ready.filter (· ≠ .client fd) }

/-- A socket that is readable already is reported when it is registered. -/
def register (state : EventLoop) (fd : Nat) (socket : Socket) : EventLoop :=
  let (now, world) := getCurrentTimestampMs state.world
  { state with
    clients := Function.update state.clients fd (some ⟨socket, some (connectionCreate fd false now)⟩)
    ready := if socket.events = newSocket.events then state.ready else notify state.ready (.client fd)
    world := world }

end EventLoop

section AcceptThread

variable (codec : HeaderCodec) (maxClients : Nat)

/-- The result of `handle_tcp_connection`. All negative results close the socket. -/
def tcpConnectionResult (answers : LoopAnswers) : Int :=
  if maxClients ≤ answers.activeCount then -1
  else if !answers.setNonblocking then -2
  else if !answers.setSocketOptions then -3
  else if !answers.connectionCreate then -4
  else if !answers.epollCtl then -5
  else 0

def handleTcpConnection (state : EventLoop) (fd : Nat) (socket : Socket) (answers : LoopAnswers) :
    EventLoop × List LoopOutput :=
  if tcpConnectionResult maxClients answers ≠ 0 then (state, [.closed socket])
  else (state.register fd socket, [])

/-- The socket stays open, and nobody registers it. -/
def handleWebsocketConnection (state : EventLoop) (fd : Nat) (socket : Socket) : EventLoop :=
  { state with clients := Function.update state.clients fd (some ⟨socket, none⟩) }

/-- The kernel gives a descriptor that is not in use, or `accept` fails and the loop goes on. -/
def acceptConnection (state : EventLoop) (listener : Listener) (answers : LoopAnswers) :
    EventLoop × List LoopOutput :=
  match state.waiting listener, answers.accept.filter fun fd => (state.clients fd).isNone with
  | socket :: waiting, some fd =>
      let state := { state with waiting := Function.update state.waiting listener waiting }
      match listener with
      | .tcp => handleTcpConnection maxClients state fd socket answers
      | .ws => (handleWebsocketConnection state fd socket, [])
  | _, _ => (state, [])

/-- A descriptor without a connection is only logged. -/
def clientEvent (state : EventLoop) (fd : Nat) (events : EpollEvents) (answers : LoopAnswers) :
    EventLoop × List LoopOutput :=
  match state.clients fd with
  | some ⟨socket, some conn⟩ =>
      let (host, outputs) := handleClientEvent codec ⟨conn, state.world⟩ events
        (socket.recv answers.recvFails) answers.reallocOk
      match host with
      | some host =>
          ({ state with
            clients := Function.update state.clients fd
              (some ⟨socket.pass (deliveredBytes outputs), some host.conn⟩)
            world := host.world }, outputs.map (.handled fd))
      | none => (state.close fd, outputs.map (.handled fd) ++ [.closed socket])
  | _ => (state, [])

/-- One round of the loop over the events of a batch. -/
def handleEvent (state : EventLoop) (answers : LoopAnswers) : EventLoop × List LoopOutput :=
  match state.batch with
  | [] => (state, [])
  | (.listening listener, _) :: rest =>
      acceptConnection maxClients { state with batch := rest } listener answers
  | (.client fd, events) :: rest => clientEvent codec { state with batch := rest } fd events answers

/-- The accept thread, the kernel below it, and the peers. -/
def acceptThread : Machine EventLoop LoopInput LoopOutput where
  step state input :=
    match input with
    | .connects listener => (state.connects listener, [])
    | .sends peer bytes => (state.reach (·.send bytes) peer, [])
    | .hangsUp peer how => (state.reach (·.hangUp how) peer, [])
    | .epollWait reallocOk => (state.epollWait reallocOk, [])
    | .handles answers => handleEvent codec maxClients state answers

end AcceptThread

end SecureChat.Server
