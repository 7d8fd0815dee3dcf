/-
This file runs the bounded message queue of the native server under its mutex.
-/

import SecureChat.Library.Machine

namespace SecureChat.Server
open Library

/-- The queue without its mutex and its two condition variables. A message is a pointer that may be null.
The array fits in memory, so the sums of two indices do not overflow. -/
structure MessageQueue (Message : Type) where
  messages : List (Option Message)
  capacity : Nat
  count : Nat
  head : Nat
  tail : Nat
  deriving DecidableEq, Repr

variable {Message : Type}

def messageQueueCreate (capacity : Nat) : MessageQueue Message :=
  ⟨List.replicate capacity none, capacity, 0, 0, 0⟩

/-- The part of `message_queue_push` behind its waiting loop. -/
def insertMessage (queue : MessageQueue Message) (message : Message) : MessageQueue Message :=
  { queue with
    messages := queue.messages.set queue.tail (some message)
    tail := (queue.tail + 1) % queue.capacity
    count := queue.count + 1 }

/-- The part of `message_queue_pop` behind its waiting loop. It leaves the pointer in the array. -/
def takeMessage (queue : MessageQueue Message) : MessageQueue Message × Option Message :=
  ({ queue with
    head := (queue.head + 1) % queue.capacity
    count := queue.count - 1 },
    queue.messages[queue.head]?.join)

/-- The loop of `message_queue_clear` frees what it finds and leaves null pointers. -/
def freeMessages : List Nat → List (Option Message) → List (Option Message) × List Message
  | [], messages => (messages, [])
  | index :: rest, messages =>
      match messages[index]?.join with
      | none => freeMessages rest messages
      | some message =>
          let (cells, freed) := freeMessages rest (messages.set index none)
          (cells, message :: freed)

def messageQueueClear (queue : MessageQueue Message) : MessageQueue Message × List Message :=
  let (messages, freed) := freeMessages
    ((List.range queue.count).map fun i => (queue.head + i) % queue.capacity) queue.messages
  ({ queue with messages := messages, count := 0, head := 0, tail := 0 }, freed)

/-- A call that sleeps on a condition variable. -/
inductive WaitingCall (Message : Type) where
  | push (message : Message) (timeoutMs : Int)
  | pop (timeoutMs : Int)
  deriving DecidableEq, Repr

def WaitingCall.timeoutMs : WaitingCall Message → Int
  | .push _ timeoutMs => timeoutMs
  | .pop timeoutMs => timeoutMs

/-- The queue and the sleeping calls of any number of threads. -/
structure QueueState (Message : Type) where
  queue : MessageQueue Message
  waiting : Nat → Option (WaitingCall Message)

/-- What the threads see and what `free` gets. -/
inductive QueueEvent (Message : Type) where
  | pushReturned (thread : Nat) (message : Option Message) (code : Int)
  | popReturned (thread : Nat) (message : Option Message)
  | freed (message : Message)
  deriving DecidableEq, Repr

/-- The test of the waiting loop under the mutex, and the rest of the call when it does not wait.
A signal only lets a sleeping call wake up, which it may do at any time. -/
def attempt (state : QueueState Message) (thread : Nat) (call : WaitingCall Message) :
    QueueState Message × List (QueueEvent Message) :=
  match call with
  | .push message timeoutMs =>
      if state.queue.capacity ≤ state.queue.count then
        ({ state with waiting := Function.update state.waiting thread (some (.push message timeoutMs)) }, [])
      else
        (⟨insertMessage state.queue message, Function.update state.waiting thread none⟩,
          [.pushReturned thread (some message) 0])
  | .pop timeoutMs =>
      if state.queue.count = 0 then
        ({ state with waiting := Function.update state.waiting thread (some (.pop timeoutMs)) }, [])
      else
        let (queue, message) := takeMessage state.queue
        (⟨queue, Function.update state.waiting thread none⟩, [.popReturned thread message])

/-- A null message is refused before the mutex. -/
def messageQueuePush (state : QueueState Message) (thread : Nat) (message : Option Message)
    (timeoutMs : Int) : QueueState Message × List (QueueEvent Message) :=
  match message with
  | none => (state, [.pushReturned thread none (-1)])
  | some message => attempt state thread (.push message timeoutMs)

def messageQueuePop (state : QueueState Message) (thread : Nat) (timeoutMs : Int) :
    QueueState Message × List (QueueEvent Message) :=
  attempt state thread (.pop timeoutMs)

/-- What a call returns when `pthread_cond_timedwait` fails. -/
def expired (thread : Nat) : WaitingCall Message → QueueEvent Message
  | .push message _ => .pushReturned thread (some message) (-2)
  | .pop _ => .popReturned thread none

/-- The steps between two holders of the mutex. -/
inductive QueueInput (Message : Type) where
  | push (thread : Nat) (message : Option Message) (timeoutMs : Int)
  | pop (thread : Nat) (timeoutMs : Int)
  | wake (thread : Nat)
  | expire (thread : Nat)
  | clear
  deriving DecidableEq, Repr

/-- A thread that sleeps starts no other call, and only a call with a time limit expires. -/
def queueStep (state : QueueState Message) :
    QueueInput Message → QueueState Message × List (QueueEvent Message)
  | .push thread message timeoutMs =>
      match state.waiting thread with
      | some _ => (state, [])
      | none => messageQueuePush state thread message timeoutMs
  | .pop thread timeoutMs =>
      match state.waiting thread with
      | some _ => (state, [])
      | none => messageQueuePop state thread timeoutMs
  | .wake thread =>
      match state.waiting thread with
      | none => (state, [])
      | some call => attempt state thread call
  | .expire thread =>
      match state.waiting thread with
      | none => (state, [])
      | some call =>
          if 0 < call.timeoutMs then
            ({ state with waiting := Function.update state.waiting thread none }, [expired thread call])
          else (state, [])
  | .clear =>
      let (queue, freed) := messageQueueClear state.queue
      ({ state with queue := queue }, freed.map .freed)

def queueMachine : Machine (QueueState Message) (QueueInput Message) (QueueEvent Message) :=
  ⟨queueStep⟩

/-- No thread has called the new queue yet. -/
def queueStart (capacity : Nat) : QueueState Message := ⟨messageQueueCreate capacity, fun _ => none⟩

end SecureChat.Server
