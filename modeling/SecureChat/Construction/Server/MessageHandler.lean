/-
This file registers the handlers of messages and decides which messages reach them.
It changes the connections of the pool and passes messages to the handlers.
-/

import SecureChat.Library.Machine

namespace SecureChat.Dispatch
open Library

def msgAuthLogin : UInt32 := 0x00010001
def msgAuthLogout : UInt32 := 0x00010003
def msgAuthRegister : UInt32 := 0x00010005
def msgAuthTokenRefresh : UInt32 := 0x00010007
def msgChatTextSend : UInt32 := 0x00020001
def msgChatTextReceive : UInt32 := 0x00020003
def msgChatGroupCreate : UInt32 := 0x00020004
def msgChatGroupJoin : UInt32 := 0x00020006
def msgChatGroupLeave : UInt32 := 0x00020008
def msgFileUploadRequest : UInt32 := 0x00030001
def msgFileDownloadRequest : UInt32 := 0x00030003
def msgFileTransferCancel : UInt32 := 0x00030005
def msgFileTransferStatus : UInt32 := 0x00030007
def msgFileProgressUpdate : UInt32 := 0x00030009
def msgUserListGet : UInt32 := 0x00040001
def msgUserStatusUpdate : UInt32 := 0x00040003
def msgUserProfileGet : UInt32 := 0x00040005
def msgUserProfileUpdate : UInt32 := 0x00040007
def msgSystemHeartbeat : UInt32 := 0x00050001
def msgSystemNotification : UInt32 := 0x00050003
def msgSystemError : UInt32 := 0x00050004
def msgSystemShutdown : UInt32 := 0x00050005
def msgSystemInfo : UInt32 := 0x00050007

/-- The functions that handle messages. A program can register others. -/
inductive Handler where
  | authLogin
  | authLogout
  | authRegister
  | chatTextSend
  | chatTextReceive
  | chatGroupCreate
  | chatGroupJoin
  | chatGroupLeave
  | fileUploadRequest
  | fileDownloadRequest
  | fileTransferCancel
  | fileTransferStatus
  | userListRequest
  | userStatusUpdate
  | userProfileGet
  | userProfileUpdate
  | systemHeartbeat
  | systemNotification
  | systemError
  | systemShutdown
  | other (address : Nat)
  deriving DecidableEq, Repr

structure HandlerEntry where
  messageType : UInt32
  handler : Handler
  requireAuth : Bool
  requireEncryption : Bool
  deriving DecidableEq, Repr

structure HandlerStats where
  messagesProcessed : UInt64
  messagesFailed : UInt64
  authenticationFailures : UInt64
  encryptionFailures : UInt64
  invalidMessages : UInt64
  deriving DecidableEq, Repr

/-- The list begins with the handler that was registered last. -/
structure HandlerManager where
  handlers : List HandlerEntry
  stats : HandlerStats
  deriving DecidableEq, Repr

inductive ConnectionState where
  | new
  | authenticated
  | closing
  | closed
  | error
  deriving DecidableEq, Repr

/-- The fields of `client_connection_t` that decide about messages. -/
structure ClientConnection where
  id : UInt64
  fd : Int
  state : ConnectionState
  ssl : Bool
  encryptionEnabled : Bool
  userId : UInt64
  username : List UInt8
  nickname : List UInt8
  deriving DecidableEq, Repr

structure ConnectionPool where
  connections : List ClientConnection
  count : Nat
  nextConnectionId : UInt64
  deriving DecidableEq, Repr

/-- The sizes of the structures that the bodies of messages are cast to. -/
structure Layout where
  loginMsg : Nat
  registerMsg : Nat
  messageContent : Nat
  fileTransferRequest : Nat
  fileDownloadRequest : Nat
  fileTransferCancel : Nat
  fileTransferStatus : Nat
  userListRequest : Nat
  userStatusUpdate : Nat
  userProfileUpdate : Nat
  errorInfo : Nat
  deriving DecidableEq, Repr

def findHandler (handlers : List HandlerEntry) (messageType : UInt32) : Option HandlerEntry :=
  handlers.find? fun entry => entry.messageType == messageType

def messageHandlerRegister (manager : HandlerManager) (messageType : UInt32) (handler : Option Handler)
    (requireAuth requireEncryption mallocOk : Bool) : Int × HandlerManager :=
  match handler with
  | none => (-1, manager)
  | some handler =>
      if (findHandler manager.handlers messageType).isSome then (-2, manager)
      else if !mallocOk then (-3, manager)
      else (0, { manager with
        handlers := ⟨messageType, handler, requireAuth, requireEncryption⟩ :: manager.handlers })

/-- The first entry with the type and the function leaves the list. -/
def messageHandlerUnregister (manager : HandlerManager) (messageType : UInt32) (handler : Option Handler) :
    Int × HandlerManager :=
  match handler with
  | none => (-1, manager)
  | some handler =>
      if manager.handlers.any fun entry => entry.messageType == messageType && entry.handler == handler then
        (0, { manager with handlers := manager.handlers.eraseP fun entry =>
          entry.messageType == messageType && entry.handler == handler })
      else (-2, manager)

def defaultHandlers : List HandlerEntry :=
  [⟨msgAuthLogin, .authLogin, false, false⟩,
    ⟨msgAuthLogout, .authLogout, true, false⟩,
    ⟨msgAuthRegister, .authRegister, false, false⟩,
    ⟨msgAuthTokenRefresh, .authLogin, true, true⟩,
    ⟨msgChatTextSend, .chatTextSend, true, true⟩,
    ⟨msgChatTextReceive, .chatTextReceive, true, true⟩,
    ⟨msgChatGroupCreate, .chatGroupCreate, true, true⟩,
    ⟨msgChatGroupJoin, .chatGroupJoin, true, true⟩,
    ⟨msgChatGroupLeave, .chatGroupLeave, true, true⟩,
    ⟨msgFileUploadRequest, .fileUploadRequest, true, true⟩,
    ⟨msgFileDownloadRequest, .fileDownloadRequest, true, true⟩,
    ⟨msgFileTransferCancel, .fileTransferCancel, true, false⟩,
    ⟨msgFileTransferStatus, .fileTransferStatus, true, false⟩,
    ⟨msgFileProgressUpdate, .fileTransferStatus, true, true⟩,
    ⟨msgUserListGet, .userListRequest, true, false⟩,
    ⟨msgUserStatusUpdate, .userStatusUpdate, true, true⟩,
    ⟨msgUserProfileGet, .userProfileGet, true, true⟩,
    ⟨msgUserProfileUpdate, .userProfileUpdate, true, true⟩,
    ⟨msgSystemHeartbeat, .systemHeartbeat, false, false⟩,
    ⟨msgSystemNotification, .systemNotification, true, false⟩,
    ⟨msgSystemError, .systemError, false, false⟩,
    ⟨msgSystemShutdown, .systemShutdown, true, true⟩,
    ⟨msgSystemInfo, .systemHeartbeat, true, false⟩]

/-- Each registration allocates an entry, and nobody asks whether that has worked. -/
def registerDefaultHandlers (manager : HandlerManager) (mallocOk : UInt32 → Bool) : HandlerManager :=
  defaultHandlers.foldl (fun manager entry => (messageHandlerRegister manager entry.messageType
    (some entry.handler) entry.requireAuth entry.requireEncryption (mallocOk entry.messageType)).2) manager

def messageHandlerManagerCreate (mallocOk : UInt32 → Bool) : HandlerManager :=
  registerDefaultHandlers ⟨[], ⟨0, 0, 0, 0, 0⟩⟩ mallocOk

def messageValidateIntegrity (layout : Layout) (data : List UInt8) (messageType : UInt32) : Bool :=
  if data.length = 0 then false
  else if messageType = msgAuthLogin then layout.loginMsg ≤ data.length
  else if messageType = msgAuthRegister then layout.registerMsg ≤ data.length
  else if messageType = msgChatTextSend then layout.messageContent ≤ data.length
  else if messageType = msgFileUploadRequest then layout.fileTransferRequest ≤ data.length
  else if messageType = msgFileDownloadRequest then layout.fileDownloadRequest ≤ data.length
  else if messageType = msgFileTransferCancel then layout.fileTransferCancel ≤ data.length
  else if messageType = msgFileProgressUpdate then layout.fileTransferStatus ≤ data.length
  else if messageType = msgUserListGet then layout.userListRequest ≤ data.length
  else if messageType = msgUserStatusUpdate then layout.userStatusUpdate ≤ data.length
  else if messageType = msgUserProfileUpdate then layout.userProfileUpdate ≤ data.length
  else if messageType = msgSystemHeartbeat then 8 ≤ data.length
  else if messageType = msgSystemError then layout.errorInfo ≤ data.length
  else true

def updateStatistics (manager : HandlerManager) (success authFailure encryptionFailure : Bool) : HandlerManager :=
  let stats := manager.stats
  { manager with stats :=
    if success then { stats with messagesProcessed := stats.messagesProcessed + 1 }
    else { stats with
      messagesFailed := stats.messagesFailed + 1
      authenticationFailures := stats.authenticationFailures + if authFailure then 1 else 0
      encryptionFailures := stats.encryptionFailures + if encryptionFailure then 1 else 0 } }

def validateMessageAuth (manager : HandlerManager) (conn : ClientConnection) (entry : HandlerEntry) :
    Bool × HandlerManager :=
  if !entry.requireAuth then (true, manager)
  else if conn.state ≠ .authenticated then (false, updateStatistics manager false true false)
  else (true, manager)

def validateMessageEncryption (manager : HandlerManager) (conn : ClientConnection) (entry : HandlerEntry) :
    Bool × HandlerManager :=
  if !entry.requireEncryption then (true, manager)
  else if !conn.encryptionEnabled then (false, updateStatistics manager false false true)
  else (true, manager)

/-- A message is turned away with a code, or it reaches a handler. -/
inductive Verdict where
  | rejected (code : Int) (manager : HandlerManager)
  | admitted (entry : HandlerEntry) (data : List UInt8)
  deriving DecidableEq, Repr

/-- The part of `message_handler_process` in front of the handler. A missing connection or body is `none`. -/
def checkMessage (layout : Layout) (manager : HandlerManager) (conn : Option ClientConnection)
    (messageType : UInt32) (data : Option (List UInt8)) : Verdict :=
  match conn, data with
  | some conn, some data =>
      if data.length = 0 then .rejected (-1) manager
      else
        match findHandler manager.handlers messageType with
        | none => .rejected (-2) (updateStatistics manager false false false)
        | some entry =>
            if !messageValidateIntegrity layout data messageType then
              .rejected (-3) { manager with stats := { manager.stats with
                invalidMessages := manager.stats.invalidMessages + 1 } }
            else
              let (authenticated, manager) := validateMessageAuth manager conn entry
              if !authenticated then .rejected (-4) manager
              else
                let (encrypted, manager) := validateMessageEncryption manager conn entry
                if !encrypted then .rejected (-5) manager else .admitted entry data
  | _, _ => .rejected (-1) manager

/-- What decides whether a connection is logged in. -/
inductive GateEvent where
  | login
  | logout
  | close
  | reuse
  deriving DecidableEq, Repr

inductive DispatchOutput where
  | gate (slot : Nat) (event : GateEvent)
  | ran (slot : Nat) (entry : HandlerEntry)
  | returned (code : Int)
  deriving DecidableEq, Repr

structure DispatchState where
  manager : HandlerManager
  pool : ConnectionPool
  deriving DecidableEq, Repr

/-- A slot that is free has no descriptor. All other bytes of it are zero at first. -/
def freeConnection : ClientConnection := ⟨0, -1, .new, false, false, 0, [], []⟩

def connectionPoolCreate (capacity : Nat) : ConnectionPool := ⟨List.replicate capacity freeConnection, 0, 1⟩

/-- A name without a text stays as it is. Another one is cut to its buffer. -/
def copyName (old : List UInt8) : Option (List UInt8) → List UInt8
  | none => old
  | some text => text.take 63

def connectionSetUserInfo (conn : ClientConnection) (userId : UInt64) (username nickname : Option (List UInt8)) :
    ClientConnection :=
  { conn with
    userId := userId
    username := copyName conn.username username
    nickname := copyName conn.nickname nickname
    state := .authenticated }

def connectionClearUserInfo (conn : ClientConnection) : ClientConnection :=
  { conn with userId := 0, username := [], nickname := [], state := .new }

/-- A connection that is closed already is left alone. -/
def connectionClose (conn : ClientConnection) : ClientConnection :=
  if conn.state = .closing ∨ conn.state = .closed then conn else { conn with fd := -1, state := .closed }

def connectionEnableSsl (conn : ClientConnection) (newOk acceptOk : Bool) : ClientConnection :=
  if conn.ssl || !newOk || !acceptOk then conn else { conn with ssl := true, encryptionEnabled := true }

/-- `handle_tcp_connection` sets the flag before the handshake. -/
def attachSsl (conn : ClientConnection) (newOk : Bool) : ClientConnection :=
  if newOk then { conn with ssl := true, encryptionEnabled := true } else { conn with ssl := false }

def connectionDisableSsl (conn : ClientConnection) : ClientConnection :=
  if conn.ssl then { conn with ssl := false, encryptionEnabled := false } else conn

/-- A pool whose counter is full is resized under its own lock, and the caller waits for ever.
So does one whose counter is not full and that has no free slot. -/
def allocateConnection (pool : ConnectionPool) : Option Nat :=
  if pool.connections.length ≤ pool.count then none
  else pool.connections.findIdx? fun conn => conn.fd == -1

/-- The slot is cleared before anything can fail. -/
def connectionPoolAdd (pool : ConnectionPool) (fd : Int) (initOk : Bool) : ConnectionPool × Option Nat :=
  if fd < 0 then (pool, none)
  else
    match allocateConnection pool with
    | none => (pool, none)
    | some slot =>
        if initOk then
          ({ connections := pool.connections.set slot { freeConnection with id := pool.nextConnectionId, fd := fd }
             count := pool.count + 1
             nextConnectionId := pool.nextConnectionId + 1 }, some slot)
        else
          ({ pool with
             connections := pool.connections.set slot freeConnection
             nextConnectionId := pool.nextConnectionId + 1 }, some slot)

/-- What the server and the handlers do to connections and to the list of handlers. -/
inductive Effect where
  | setUserInfo (slot : Nat) (userId : UInt64) (username nickname : Option (List UInt8))
  | clearUserInfo (slot : Nat)
  | close (slot : Nat)
  | enableSsl (slot : Nat) (newOk acceptOk : Bool)
  | attachSsl (slot : Nat) (newOk : Bool)
  | disableSsl (slot : Nat)
  | poolAdd (fd : Int) (initOk : Bool)
  | register (messageType : UInt32) (handler : Option Handler) (requireAuth requireEncryption mallocOk : Bool)
  | unregister (messageType : UInt32) (handler : Option Handler)
  deriving DecidableEq, Repr

/-- A slot that the pool does not have is a missing connection. Nothing happens to it. -/
def changeConnection (state : DispatchState) (slot : Nat) (change : ClientConnection → ClientConnection) :
    DispatchState :=
  { state with pool := { state.pool with connections := state.pool.connections.modify slot change } }

/-- A call without its connection is no event of the slot. -/
def gateAt (state : DispatchState) (slot : Nat) (event : GateEvent) : List DispatchOutput :=
  if slot < state.pool.connections.length then [.gate slot event] else []

def applyEffect (state : DispatchState) : Effect → DispatchState × List DispatchOutput
  | .setUserInfo slot userId username nickname =>
      (changeConnection state slot fun conn => connectionSetUserInfo conn userId username nickname,
        gateAt state slot .login)
  | .clearUserInfo slot => (changeConnection state slot connectionClearUserInfo, gateAt state slot .logout)
  | .close slot => (changeConnection state slot connectionClose, gateAt state slot .close)
  | .enableSsl slot newOk acceptOk =>
      (changeConnection state slot fun conn => connectionEnableSsl conn newOk acceptOk, [])
  | .attachSsl slot newOk => (changeConnection state slot fun conn => Dispatch.attachSsl conn newOk, [])
  | .disableSsl slot => (changeConnection state slot connectionDisableSsl, [])
  | .poolAdd fd initOk =>
      let (pool, slot) := connectionPoolAdd state.pool fd initOk
      ({ state with pool := pool }, slot.toList.map fun slot => .gate slot .reuse)
  | .register messageType handler requireAuth requireEncryption mallocOk =>
      ({ state with manager :=
        (messageHandlerRegister state.manager messageType handler requireAuth requireEncryption mallocOk).2 }, [])
  | .unregister messageType handler =>
      ({ state with manager := (messageHandlerUnregister state.manager messageType handler).2 }, [])

/-- The effects of a handler happen one after the other. -/
def effectMachine : Machine DispatchState Effect DispatchOutput where
  step := applyEffect

/-- A message comes with what its handler would do and return. A handler can do anything here. -/
inductive DispatchInput where
  | effect (effect : Effect)
  | message (slot : Nat) (messageType : UInt32) (data : Option (List UInt8)) (effects : List Effect)
      (result : Int)
  deriving DecidableEq, Repr

def messageHandlerProcess (layout : Layout) (state : DispatchState) (slot : Nat) (messageType : UInt32)
    (data : Option (List UInt8)) (effects : List Effect) (result : Int) : DispatchState × List DispatchOutput :=
  match checkMessage layout state.manager (state.pool.connections[slot]?) messageType data with
  | .rejected code manager => ({ state with manager := manager }, [.returned code])
  | .admitted entry _ =>
      let (handled, outputs) := effectMachine.run state effects
      ({ handled with manager := updateStatistics handled.manager (result == 0) false false },
        .ran slot entry :: (outputs ++ [.returned result]))

def dispatchStep (layout : Layout) (state : DispatchState) : DispatchInput → DispatchState × List DispatchOutput
  | .effect effect => applyEffect state effect
  | .message slot messageType data effects result =>
      messageHandlerProcess layout state slot messageType data effects result

def dispatchMachine (layout : Layout) : Machine DispatchState DispatchInput DispatchOutput where
  step := dispatchStep layout

end SecureChat.Dispatch
