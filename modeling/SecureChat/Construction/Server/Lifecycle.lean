/-
This file brings the server up and down: its three threads run while another thread starts it and others stop it.
The main program calls these functions in its order.
-/

import SecureChat.Construction.Server.Maintenance

namespace SecureChat.Server.Restore
open Library

/-- The threads that a start creates, in their order. -/
inductive Task where
  | accept | cleanup | maintenance
  deriving DecidableEq, Repr

/-- A thread tests `running` in front of each round of its loop. The round itself waits, for events or for time. -/
inductive ThreadPhase where
  | absent | created | testing | waiting | left
  deriving DecidableEq, Repr

/-- Where `server_start` is: the last thread that it has created, or its early return. -/
inductive Starter where
  | idle | accepting | cleaning | maintaining
  | joining (code : Int)
  deriving DecidableEq, Repr

structure Lifecycle where
  server : ServerInstance
  starter : Starter
  stopping : Bool
  threads : Task → ThreadPhase

inductive LifecycleEvent where
  | init (answers : InitAnswers)
  | start (answers : InitAnswers) (created : Bool)
  | starter (created : Bool)
  | stop
  | joined
  | turn (task : Task) (succeeds : Bool)
  deriving DecidableEq, Repr

/-- A start returns early before it has created a thread, or because of a thread. -/
inductive LifecycleOutput where
  | initReturned (code : Int)
  | alreadyRunning
  | startReturned (code : Int)
  | created (task : Task)
  | threadFailed (code : Int)
  | up
  | stopReturned
  | worked (task : Task)
  | left (task : Task)
  deriving DecidableEq, Repr

def serverCreate (databasePath : Path) : ServerInstance := ⟨databasePath, .initializing, false, false, none⟩

def newLifecycle (databasePath : Path) : Lifecycle := ⟨serverCreate databasePath, .idle, false, fun _ => .absent⟩

namespace Lifecycle

def setThread (life : Lifecycle) (task : Task) (phase : ThreadPhase) : Lifecycle :=
  { life with threads := Function.update life.threads task phase }

def leave (life : Lifecycle) (task : Task) : Lifecycle × List LifecycleOutput :=
  (life.setThread task .left, [.left task])

/-- Only one thread calls `server_start`. -/
def serverStart (life : Lifecycle) (answers : InitAnswers) (created : Bool) : Lifecycle × List LifecycleOutput :=
  if life.starter ≠ .idle then (life, [])
  else if life.server.running then (life, [.alreadyRunning])
  else
    let initialized := { life with server := (life.server.serverInit answers).2 }
    let initResult := (life.server.serverInit answers).1
    if initResult ≠ 0 then (initialized, [.startReturned initResult])
    else if created = false then (initialized, [.threadFailed (-2)])
    else ({ initialized with starter := .accepting }.setThread .accept .created, [.created .accept])

/-- The later steps of a start. A thread that is cancelled no longer works. -/
def startNext (life : Lifecycle) (created : Bool) : Lifecycle × List LifecycleOutput :=
  let halted := { life.server with running := false }
  match life.starter with
  | .idle => (life, [])
  | .accepting =>
      if created then ({ life with starter := .cleaning }.setThread .cleanup .created, [.created .cleanup])
      else ({ life with server := halted, starter := .joining (-3) }, [])
  | .cleaning =>
      if created then ({ life with starter := .maintaining }.setThread .maintenance .created, [.created .maintenance])
      else ({ life with server := halted, starter := .joining (-4) }.setThread .cleanup .left, [])
  | .maintaining => ({ life with server := { life.server with running := true }, starter := .idle }, [.up])
  | .joining code =>
      if life.threads .accept = .left then ({ life with starter := .idle }, [.threadFailed code]) else (life, [])

/-- The flags are set before the threads are cancelled and joined. -/
def serverStop (life : Lifecycle) : Lifecycle × List LifecycleOutput :=
  if life.server.running = false then (life, [.stopReturned])
  else
    ({ life with
        server := { life.server with shutdownRequested := true, running := false, state := .shuttingDown }
        stopping := true }, [])

def stopJoined (life : Lifecycle) : Lifecycle × List LifecycleOutput :=
  if life.stopping = false then (life, [])
  else
    (⟨{ life.server.serverCleanupComponents with state := .shutdown }, life.starter, false, fun _ => .left⟩,
      [.stopReturned])

/-- The accept thread may get no memory for its events, and `epoll_wait` may fail.
The two others sleep, and test `running` again behind it. -/
def turn (life : Lifecycle) (task : Task) (succeeds : Bool) : Lifecycle × List LifecycleOutput :=
  let failed := task = .accept ∧ succeeds = false
  match life.threads task with
  | .absent | .left => (life, [])
  | .created => if failed then life.leave task else (life.setThread task .testing, [])
  | .testing => if life.server.running then (life.setThread task .waiting, []) else life.leave task
  | .waiting =>
      if failed ∨ task ≠ .accept ∧ life.server.running = false then life.leave task
      else (life.setThread task .testing, [.worked task])

end Lifecycle

def lifecycleMachine : Machine Lifecycle LifecycleEvent LifecycleOutput where
  step life
    | .init answers =>
        ({ life with server := (life.server.serverInit answers).2 }, [.initReturned (life.server.serverInit answers).1])
    | .start answers created => life.serverStart answers created
    | .starter created => life.startNext created
    | .stop => life.serverStop
    | .joined => life.stopJoined
    | .turn task succeeds => life.turn task succeeds

/-- What the steps of `main` in front of the server answer. -/
structure MainAnswers where
  checkConfig : Bool
  logger : Bool
  configuration : Bool
  privileges : Bool
  environment : Bool
  pidFile : Bool
  daemon : Bool
  database : Bool
  authentication : Bool
  fileTransfer : Bool
  instanceCreated : Bool
  init : InitAnswers
  monitorThread : Bool
  start : ServerInstance.StartAnswers
  deriving DecidableEq, Repr

/-- The instance that is left behind is destroyed when a module fails. -/
def initializeModules (databasePath : Path) (answers : MainAnswers) : Option ServerInstance :=
  if ¬ (answers.database ∧ answers.authentication ∧ answers.fileTransfer ∧ answers.instanceCreated) then none
  else
    let (code, server) := (serverCreate databasePath).serverInit answers.init
    if code ≠ 0 then none else some server

/-- How `main` ends: with a status, or in its loop over a server. -/
inductive MainResult where
  | exit (failure : Bool)
  | loop (server : ServerInstance)
  deriving DecidableEq, Repr

def main (databasePath : Path) (answers : MainAnswers) : MainResult :=
  if answers.checkConfig then .exit (!answers.configuration)
  else if ¬ (answers.logger ∧ answers.configuration ∧ answers.privileges ∧ answers.environment ∧ answers.pidFile ∧
      answers.daemon) then .exit true
  else
    match initializeModules databasePath answers with
    | none => .exit true
    | some server =>
        if answers.monitorThread = false then .exit true
        else
          let (code, started) := server.serverStart answers.start
          if code ≠ 0 then .exit true else .loop started

end SecureChat.Server.Restore
