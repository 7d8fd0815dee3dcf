/-
This file handles the requests that change the data of users and transfers.
-/

import SecureChat.Library.Records
import SecureChat.Construction.Server.MessageHandler

namespace SecureChat.Dispatch
open Library

structure UserRecord where
  userId : UInt64
  role : Nat
  status : UInt8
  statusMessage : List UInt8
  nickname : List UInt8
  email : List UInt8
  avatar : List UInt8
  deriving DecidableEq, Repr

structure TransferRecord where
  transferId : UInt64
  senderId : UInt64
  receiverId : UInt64
  progress : UInt32
  status : UInt8
  deriving DecidableEq, Repr

/-- A row of the table `file_transfers`. -/
structure TransferRow where
  transferId : UInt64
  senderId : UInt64
  receiverId : UInt64
  status : UInt8
  progress : UInt32
  endTime : UInt64
  deriving DecidableEq, Repr

/-- What the user manager, the file transfer manager and the database keep. -/
structure Records where
  users : List UserRecord
  transfers : List TransferRecord
  fileTransfers : List TransferRow
  deriving DecidableEq, Repr

structure UserStatusUpdate where
  userId : UInt64
  status : UInt8
  statusMessage : List UInt8
  deriving DecidableEq, Repr

structure UserProfileUpdate where
  userId : UInt64
  nickname : List UInt8
  email : List UInt8
  avatar : List UInt8
  deriving DecidableEq, Repr

structure FileTransferStatus where
  transferId : UInt64
  progress : UInt32
  status : UInt8
  deriving DecidableEq, Repr

def transferCompleted : UInt8 := 2
def transferCancelled : UInt8 := 4

/-- The bodies are cast to structures, and the roles are numbers. The source uses both and declares neither. -/
structure Declarations where
  layout : Layout
  userStatusUpdate : List UInt8 → UserStatusUpdate
  userProfileUpdate : List UInt8 → UserProfileUpdate
  fileTransferCancel : List UInt8 → UInt64
  fileTransferStatus : List UInt8 → FileTransferStatus
  userRoleModerator : Nat
  userRoleAdmin : Nat

/-- What the managers, the database, the clock and the socket answer to one request. -/
structure RequestAnswers where
  updateOk : Bool
  failure : Int
  prepareOk : Bool
  stepOk : Bool
  now : UInt64
  sent : Int
  deriving DecidableEq, Repr

/-- A manager changes the record with the identifier. It fails without one. -/
def changeRecord {Record : Type} (key : Record → UInt64) (wanted : UInt64) (change : Record → Record)
    (records : List Record) (updateOk : Bool) : Bool × List Record :=
  if updateOk && records.any fun record => key record == wanted then
    (true, updateKey key wanted change records)
  else (false, records)

def UserStatusUpdate.apply (update : UserStatusUpdate) (user : UserRecord) : UserRecord :=
  { user with status := update.status, statusMessage := update.statusMessage }

def UserProfileUpdate.apply (update : UserProfileUpdate) (user : UserRecord) : UserRecord :=
  { user with nickname := update.nickname, email := update.email, avatar := update.avatar }

def FileTransferStatus.apply (status : FileTransferStatus) (transfer : TransferRecord) : TransferRecord :=
  { transfer with progress := status.progress, status := status.status }

def FileTransferStatus.store (status : FileTransferStatus) (now : UInt64) (row : TransferRow) : TransferRow :=
  { row with status := status.status, progress := status.progress, endTime := now }

def TransferRecord.cancel (transfer : TransferRecord) : TransferRecord :=
  { transfer with status := transferCancelled }

def userManagerUpdateStatus (records : Records) (update : UserStatusUpdate) (updateOk : Bool) : Bool × Records :=
  let (found, users) := changeRecord UserRecord.userId update.userId update.apply records.users updateOk
  (found, { records with users := users })

def userManagerUpdateProfile (records : Records) (update : UserProfileUpdate) (updateOk : Bool) : Bool × Records :=
  let (found, users) := changeRecord UserRecord.userId update.userId update.apply records.users updateOk
  (found, { records with users := users })

def fileTransferCancel (records : Records) (transferId : UInt64) (updateOk : Bool) : Bool × Records :=
  let (found, transfers) :=
    changeRecord TransferRecord.transferId transferId TransferRecord.cancel records.transfers updateOk
  (found, { records with transfers := transfers })

def fileTransferUpdateStatus (records : Records) (status : FileTransferStatus) (updateOk : Bool) : Bool × Records :=
  let (found, transfers) :=
    changeRecord TransferRecord.transferId status.transferId status.apply records.transfers updateOk
  (found, { records with transfers := transfers })

/-- Every user that the manager knows may update a status and a profile. -/
def messageCheckPermission (declarations : Declarations) (records : Records) (userId : UInt64)
    (permission : String) : Bool :=
  match records.users.find? fun user => user.userId == userId with
  | none => false
  | some user =>
      if user.role = declarations.userRoleAdmin then true
      else if permission = "user.status.update" then true
      else if permission = "user.profile.update" then true
      else if permission = "group.create" then declarations.userRoleModerator ≤ user.role
      else if permission = "file.download" then true
      else if permission = "system.shutdown" then user.role = declarations.userRoleAdmin
      else false

/-- The owner of a record and everybody with the permission may change it. -/
def handleUpdate (declarations : Declarations) (records : Records) (conn : ClientConnection)
    (data : List UInt8) (size : Nat) (permission : String) (target : UInt64)
    (update : Bool × Records) (answers : RequestAnswers) : Int × Records :=
  if data.length < size then (-1, records)
  else if target ≠ conn.userId ∧ !messageCheckPermission declarations records conn.userId permission then
    (-2, records)
  else (answers.sent, update.2)

def handleUserStatusUpdate (declarations : Declarations) (records : Records) (conn : ClientConnection)
    (data : List UInt8) (answers : RequestAnswers) : Int × Records :=
  let update := declarations.userStatusUpdate data
  handleUpdate declarations records conn data declarations.layout.userStatusUpdate "user.status.update"
    update.userId (userManagerUpdateStatus records update answers.updateOk) answers

def handleUserProfileUpdate (declarations : Declarations) (records : Records) (conn : ClientConnection)
    (data : List UInt8) (answers : RequestAnswers) : Int × Records :=
  let update := declarations.userProfileUpdate data
  handleUpdate declarations records conn data declarations.layout.userProfileUpdate "user.profile.update"
    update.userId (userManagerUpdateProfile records update answers.updateOk) answers

def handleFileTransferCancel (declarations : Declarations) (records : Records) (data : List UInt8)
    (answers : RequestAnswers) : Int × Records :=
  if data.length < declarations.layout.fileTransferCancel then (-1, records)
  else (answers.sent, (fileTransferCancel records (declarations.fileTransferCancel data) answers.updateOk).2)

/-- A transfer that is complete is written to the database as well. Other types of message ask for a status. -/
def handleFileTransferStatus (declarations : Declarations) (records : Records) (messageType : UInt32)
    (data : List UInt8) (answers : RequestAnswers) : Int × Records :=
  if messageType = msgFileProgressUpdate then
    if data.length < declarations.layout.fileTransferStatus then (-1, records)
    else
      let status := declarations.fileTransferStatus data
      match fileTransferUpdateStatus records status answers.updateOk with
      | (false, records) => (answers.failure, records)
      | (true, records) =>
          if status.status = transferCompleted ∧ answers.prepareOk ∧ answers.stepOk then
            (0, { records with
              fileTransfers := updateKey TransferRow.transferId status.transferId (status.store answers.now)
                records.fileTransfers })
          else (0, records)
  else if data.length < 8 then (-1, records)
  else (answers.sent, records)

/-- The requests that change the data of users and transfers. -/
inductive Request where
  | userStatusUpdate
  | userProfileUpdate
  | fileTransferCancel
  | fileProgressUpdate
  deriving DecidableEq, Repr

def Request.messageType : Request → UInt32
  | .userStatusUpdate => msgUserStatusUpdate
  | .userProfileUpdate => msgUserProfileUpdate
  | .fileTransferCancel => msgFileTransferCancel
  | .fileProgressUpdate => msgFileProgressUpdate

/-- The handlers of this file. Nothing is said about others. -/
def callHandler (declarations : Declarations) (records : Records) (conn : ClientConnection) (messageType : UInt32)
    (data : List UInt8) (answers : RequestAnswers) : Handler → Option (Int × Records)
  | .userStatusUpdate => some (handleUserStatusUpdate declarations records conn data answers)
  | .userProfileUpdate => some (handleUserProfileUpdate declarations records conn data answers)
  | .fileTransferCancel => some (handleFileTransferCancel declarations records data answers)
  | .fileTransferStatus => some (handleFileTransferStatus declarations records messageType data answers)
  | _ => none

/-- `message_handler_process` for a request. -/
def processRequest (declarations : Declarations) (manager : HandlerManager) (records : Records)
    (conn : ClientConnection) (request : Request) (data : Option (List UInt8)) (answers : RequestAnswers) :
    Option (Int × Records) :=
  match checkMessage declarations.layout manager (some conn) request.messageType data with
  | .rejected code _ => some (code, records)
  | .admitted entry data => callHandler declarations records conn request.messageType data answers entry.handler

end SecureChat.Dispatch
