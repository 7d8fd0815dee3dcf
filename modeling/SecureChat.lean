import SecureChat.Library.Machine
import SecureChat.Library.StreamDecoder
import SecureChat.Library.Memory
import SecureChat.Library.ByteOrder
import SecureChat.Construction.WebSocket.Frame
import SecureChat.Proof.WebSocket.Frames
import SecureChat.Construction.WebSocket.Session
import SecureChat.Proof.WebSocket.MessageBuffer
import SecureChat.Proof.WebSocket.Reassembly
import SecureChat.Proof.WebSocket.Segmentation
import SecureChat.Construction.ThreadPool
import SecureChat.Library.SharedTail
import SecureChat.Proof.ThreadPool.Queues
import SecureChat.Proof.ThreadPool.Accounting
import SecureChat.Construction.Protocol
import SecureChat.Construction.Server.Connection
import SecureChat.Proof.Server.Framing
import SecureChat.Proof.Server.RoundTrip
import SecureChat.Construction.Server.Events
import SecureChat.Proof.Server.Events
import SecureChat.Construction.Client.Core
import SecureChat.Construction.HeartbeatProtocol
import SecureChat.Proof.HeartbeatBound
import SecureChat.Proof.Client.Wire
import SecureChat.Library.RateLimits
import SecureChat.Proof.Server.RateBound
import SecureChat.Construction.Client.Receive
import SecureChat.Proof.Client.Framing
import SecureChat.Construction.WorkerThreads
import SecureChat.Library.Slots
import SecureChat.Proof.Client.Reconnect
import SecureChat.Proof.ThreadPool.ActiveThreads
import SecureChat.Proof.ThreadPool.Barrier
import SecureChat.Construction.Utils.HashTable
import SecureChat.Library.Buckets
import SecureChat.Library.ChainTable
import SecureChat.Proof.Utils.HashTable
import SecureChat.Construction.Utils.RingBuffer
import SecureChat.Library.Ring
import SecureChat.Proof.Utils.RingBuffer
import SecureChat.Construction.Utils.LinkedList
import SecureChat.Proof.Utils.LinkedList
import SecureChat.Construction.Server.MessageQueue
import SecureChat.Proof.Server.MessageQueue
import SecureChat.Construction.Database.Pool
import SecureChat.Proof.Database.Pool
import SecureChat.Construction.Database1.Pool
import SecureChat.Proof.Database1.Pool
import SecureChat.Construction.Database.Transactions
import SecureChat.Proof.Database.Transactions
import SecureChat.Construction.Database1.Migration
import SecureChat.Proof.Database1.Migration
import SecureChat.Construction.Database.Statements
import SecureChat.Proof.Database.Statements
import SecureChat.Construction.Server.EdgeEvents
import SecureChat.Proof.Server.EdgeEvents
import SecureChat.Construction.FileTransfer.Registry
import SecureChat.Proof.FileTransfer.Registry
import SecureChat.Proof.FileTransfer.Refinement
import SecureChat.Construction.FileTransfer.Upload
import SecureChat.Library.Chunks
import SecureChat.Proof.FileTransfer.Upload
import SecureChat.Construction.FileTransfer.Transcode
import SecureChat.Proof.FileTransfer.Rebuild
import SecureChat.Construction.FileTransfer.Manager
import SecureChat.Proof.FileTransfer.Manager
import SecureChat.Construction.WebSocket.FileTransfer
import SecureChat.Proof.WebSocket.TransferSlots
import SecureChat.Proof.WebSocket.UploadAssembly
import SecureChat.Library.Text
import SecureChat.Construction.Auth.Tokens
import SecureChat.Construction.Auth.Login
import SecureChat.Proof.Auth.Tokens
import SecureChat.Proof.Auth.RefreshTokens
import SecureChat.Proof.Auth.Logout
import SecureChat.Proof.Auth.Lockout
import SecureChat.Construction.Server.MessageHandler
import SecureChat.Proof.Server.AccessControl
import SecureChat.Library.Records
import SecureChat.Construction.Server.RequestHandlers
import SecureChat.Proof.Server.ForeignRecords
import SecureChat.Construction.Utils.Checksum
import SecureChat.Construction.Web.Codec
import SecureChat.Construction.Web.WebSocketClient
import SecureChat.Proof.Web.Header
import SecureChat.Proof.Web.PendingMessages
import SecureChat.Proof.Web.UserRecords
import SecureChat.Proof.Web.TextMessages
import SecureChat.Proof.Web.ChatClient
import SecureChat.Construction.Server.Monitoring
import SecureChat.Proof.Server.AlertStore
import SecureChat.Construction.WebSocket.Clients
import SecureChat.Proof.WebSocket.Clients
import SecureChat.Proof.WebSocket.Handshake
import SecureChat.Construction.Server.ConnectionPool
import SecureChat.Proof.Server.ConnectionPool
import SecureChat.Library.Threads
import SecureChat.Construction.Client.Threads
import SecureChat.Proof.Client.Threads
import SecureChat.Construction.Web.Promises
import SecureChat.Proof.Web.Promises
import SecureChat.Proof.Web.Responses
import SecureChat.Proof.Web.LiveSocket
import SecureChat.Construction.Web.MessageQueue
import SecureChat.Proof.Web.OfflineSends
import SecureChat.Library.ObjectStore
import SecureChat.Construction.Web.OfflineSync
import SecureChat.Proof.Web.OfflineOutbox
import SecureChat.Proof.Web.ServerIds
import SecureChat.Construction.Web.OfflineTasks
import SecureChat.Proof.Web.OfflineTasks
import SecureChat.Proof.Web.StatusOrder
import SecureChat.Proof.Web.ReadReceipts
import SecureChat.Construction.Web.GroupPermissionChecker
import SecureChat.Proof.Web.Groups
import SecureChat.Proof.Web.GroupMembers
import SecureChat.Library.StableSort
import SecureChat.Construction.Web.GroupManager
import SecureChat.Construction.Utils.Config
import SecureChat.Proof.Utils.Config
import SecureChat.Construction.Web.FileTransfer
import SecureChat.Proof.Web.FileChunks
import SecureChat.Construction.Web.Transfers
import SecureChat.Proof.Web.TransferQueue
import SecureChat.Library.OrderedMap
import SecureChat.Construction.Web.GroupKeys
import SecureChat.Proof.Web.GroupKeys
import SecureChat.Proof.Web.KeyRotations
import SecureChat.Library.Utf8
import SecureChat.Library.JsText
import SecureChat.Library.Base64
import SecureChat.Construction.Web.Encryption
import SecureChat.Proof.Web.Encryption
import SecureChat.Construction.Web.MessageKeys
import SecureChat.Proof.Web.MessageKeys
import SecureChat.Construction.Web.GroupEncryption
import SecureChat.Proof.Web.GroupEncryption
import SecureChat.Library.MachineInt
import SecureChat.Construction.Server.Maintenance
import SecureChat.Proof.Server.Maintenance
import SecureChat.Construction.Server.Lifecycle
import SecureChat.Proof.Server.Lifecycle
import SecureChat.Library.BoundedLog
import SecureChat.Construction.Database.Backup
import SecureChat.Proof.Database.BackupRotation
import SecureChat.Proof.ThreadPool.Resize
import SecureChat.Proof.WebSocket.Writers
import SecureChat.Construction.WebSocket.ClientsMutex
import SecureChat.Proof.WebSocket.ClientsMutex
import SecureChat.Library.SqlTransaction
import SecureChat.Proof.Database1.Schema
import SecureChat.Library.JsonString
import SecureChat.Construction.Utils.Json
import SecureChat.Proof.Utils.TextCoding
import SecureChat.Construction.Server.ChatText
import SecureChat.Proof.Server.ChatText
import SecureChat.Library.Doubles
import SecureChat.Construction.Server.MetricHistory
import SecureChat.Proof.Server.MetricHistory
import SecureChat.Library.Files
import SecureChat.Proof.WebSocket.FilePaths
import SecureChat.Proof.FileTransfer.ChunkCount
import SecureChat.Construction.FileTransfer.Rounds
import SecureChat.Proof.FileTransfer.Rounds
import SecureChat.Construction.Database1.Messages
import SecureChat.Proof.Database1.Messages
import SecureChat.Construction.Database1.Users
import SecureChat.Proof.Database1.Users
import SecureChat.Construction.Utils.Tracking
import SecureChat.Proof.Utils.Tracking
import SecureChat.Library.Search
import SecureChat.Library.BitStream
import SecureChat.Construction.Utils.Strings
import SecureChat.Construction.Utils.Logger
import SecureChat.Proof.Utils.Strings
import SecureChat.Proof.Utils.LogRotation
import SecureChat.Proof.Web.Base32
import SecureChat.Library.JsValue
import SecureChat.Construction.Web.SyncConflicts
import SecureChat.Proof.Web.MergedValues
import SecureChat.Proof.Web.SyncConflicts
import SecureChat.Construction.Web.GroupRoles
import SecureChat.Proof.Web.GroupRoles
import SecureChat.Proof.Web.MemberRemoval
import SecureChat.Proof.Web.TransferEndings
import SecureChat.Proof.ThreadPool.Destroy
import SecureChat.Proof.ThreadPool.Shutdown
import SecureChat.Proof.Auth.Accounts
import SecureChat.Proof.Auth.Attempts
