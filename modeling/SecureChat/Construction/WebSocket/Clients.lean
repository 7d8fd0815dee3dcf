/-
This file holds the client table of the WebSocket server, from its creation over starts and stops,
with the handshakes and with what the server sends to its clients.
-/

import SecureChat.Construction.WebSocket.Session
import SecureChat.Library.Base64
import SecureChat.Library.Search

namespace SecureChat.WebSocket.Clients
open Library

/-- A client in the table, with the number of the connection that it was made for. -/
structure Client where
  connection : Nat
  clientId : UInt64
  fd : Int
  state : WebsocketConnectionState
  lastActivity : UInt64
  deriving DecidableEq, Repr

/-- A thread that locks `clients_mutex` a second time blocks for ever and keeps it. -/
structure Server where
  maxClients : UInt32
  timeout : UInt32
  clients : List (Option Client)
  clientCount : UInt32
  nextClientId : UInt64
  connectionsTotal : UInt64
  connectionsActive : UInt64
  connectionsClosed : UInt64
  running : Bool
  shutdownRequested : Bool
  blocked : Bool
  deriving DecidableEq, Repr

def websocketServerCreate (maxClients timeout : UInt32) : Server where
  maxClients := maxClients
  timeout := timeout
  clients := List.replicate maxClients.toNat none
  clientCount := 0
  nextClientId := 1
  connectionsTotal := 0
  connectionsActive := 0
  connectionsClosed := 0
  running := false
  shutdownRequested := false
  blocked := false

namespace Server

/-- The threads of the server leave their loops once a shutdown was requested. -/
def serves (server : Server) : Bool := server.running && !server.shutdownRequested && !server.blocked

def websocketServerStart (server : Server) (started : Bool) : Server :=
  if server.running then server else { server with running := started }

/-- All clients are destroyed once the threads have ended. -/
def websocketServerStop (server : Server) : Server :=
  if ¬ server.running then server
  else if server.blocked then { server with shutdownRequested := true }
  else { server with
    shutdownRequested := true
    clients := server.clients.map fun _ => none
    running := false }

/-- The first free slot is taken. The statistics count the client in any case. -/
def handleClientConnection (server : Server) (connection : Nat) (fd : Int) (now : UInt64) : Server :=
  let client : Client := ⟨connection, server.nextClientId, fd, .connecting, now⟩
  let stored := match server.clients.findIdx? (·.isNone) with
    | some index => { server with
        clients := server.clients.set index (some client)
        clientCount := server.clientCount + 1 }
    | none => server
  { stored with
    nextClientId := server.nextClientId + 1
    connectionsTotal := server.connectionsTotal + 1
    connectionsActive := server.connectionsActive + 1 }

/-- The slot of the first client with the identifier. -/
def slotOf (server : Server) (clientId : UInt64) : Option Nat :=
  server.clients.findIdx? fun slot => slot.any (·.clientId = clientId)

/-- The slot is cleared, and the counters go down. -/
def removeClient (server : Server) (clientId : UInt64) : Server :=
  match server.slotOf clientId with
  | none => server
  | some index => { server with
      clients := server.clients.set index none
      clientCount := server.clientCount - 1
      connectionsActive := server.connectionsActive - 1
      connectionsClosed := server.connectionsClosed + 1 }

/-- `remove_client` locks the mutex that its caller holds. -/
def removeUnderLock (server : Server) : Server := { server with blocked := true }

end Server

/-- What the worker reads from a socket: data that may be a handshake or close a connection,
the end of the connection, or an error. -/
inductive Reading where
  | data (handshake closes : Bool)
  | closed
  | failed (again : Bool)
  deriving DecidableEq, Repr

namespace Server

/-- Only open clients are put into the set that `select` waits for. -/
def selected (server : Server) (ready : Int → Bool) (fd : Int) : Bool :=
  ready fd && server.clients.any fun slot => slot.any fun client => client.state = .open && client.fd = fd

/-- One round of the loop in the worker thread. -/
def readClient (isSet : Int → Bool) (readings : Int → Reading) (now : UInt64) (server : Server) (index : Nat) :
    Server :=
  if server.blocked then server else
  match server.clients[index]? with
  | some (some client) =>
      if ¬ isSet client.fd then server else
      match readings client.fd with
      | .data handshake closes =>
          let state := if client.state = .connecting ∧ handshake then .open else client.state
          let active := { server with
            clients := server.clients.set index (some { client with state := state, lastActivity := now }) }
          if client.state = .open ∧ closes then active.removeUnderLock else active
      | .closed => server.removeUnderLock
      | .failed again => if again then server else server.removeUnderLock
  | _ => server

def workerActivity (server : Server) (ready : Int → Bool) (readings : Int → Reading) (now : UInt64) : Server :=
  (List.range server.maxClients.toNat).foldl (readClient (server.selected ready) readings now) server

/-- One round of the loop in `check_client_timeout`. -/
def checkClient (currentTime : UInt64) (server : Server) (index : Nat) : Server :=
  if server.blocked then server else
  match server.clients[index]? with
  | some (some client) =>
      if client.state ≠ .open then server
      else if currentTime - client.lastActivity > (server.timeout * 1000).toUInt64 then server.removeUnderLock
      else server
  | _ => server

def checkClientTimeout (server : Server) (currentTime : UInt64) : Server :=
  (List.range server.maxClients.toNat).foldl (checkClient currentTime) server

end Server

/-- A call on the server, a new connection, or what `select` reports to the worker thread. -/
inductive ServerEvent where
  | start (started : Bool)
  | stop
  | accept (created : Bool) (fd : Int) (now : UInt64)
  | closeClient (clientId : UInt64)
  | activity (ready : Int → Bool) (readings : Int → Reading) (now : UInt64)
  | timeout (currentTime : UInt64)

/-- A server with the number of connections that were accepted,
and with the connections that were answered with success and not removed since. -/
structure Table where
  server : Server
  accepted : Nat
  admitted : List Nat
  deriving DecidableEq, Repr

/-- The connection of the first client with the identifier. -/
def Server.connectionOf (server : Server) (clientId : UInt64) : Option Nat := do
  let index ← server.slotOf clientId
  let client ← server.clients[index]?.join
  some client.connection

/-- The accept thread only takes a connection when the table is not full. -/
def Server.takes (server : Server) : Bool := server.serves && server.clientCount < server.maxClients

def tableMachine : Machine Table ServerEvent Unit where
  step table event :=
    let server := table.server
    match event with
    | .start started => ({ table with server := server.websocketServerStart started }, [])
    | .stop =>
        ({ table with
          server := server.websocketServerStop
          admitted := if server.running ∧ ¬ server.blocked then [] else table.admitted }, [])
    | .accept created fd now =>
        if server.takes ∧ created then
          (⟨server.handleClientConnection table.accepted fd now, table.accepted + 1,
            table.admitted ++ [table.accepted]⟩, [])
        else (table, [])
    | .closeClient clientId =>
        if server.running ∧ ¬ server.blocked then
          ({ table with
            server := server.removeClient clientId
            admitted := table.admitted.filter fun connection => server.connectionOf clientId ≠ some connection },
            [])
        else (table, [])
    | .activity ready readings now =>
        if server.serves then ({ table with server := server.workerActivity ready readings now }, [])
        else (table, [])
    | .timeout currentTime =>
        if server.serves then ({ table with server := server.checkClientTimeout currentTime }, [])
        else (table, [])

def newTable (maxClients timeout : UInt32) : Table := ⟨websocketServerCreate maxClients timeout, 0, []⟩

/-- The result of `SHA1`. -/
abbrev Digest := { bytes : List UInt8 // bytes.length = 20 }

def websocketMagicGuid : List UInt8 := asciiBytes "258EAFA5-E914-47DA-95CA-C5AB0DC85B11"

def base64Bytes (data : List UInt8) : List UInt8 := (Base64.encode data).map fun letter => UInt8.ofNat letter.toNat

/-- The filter of the library ends the text with a line feed, for which the buffer of the caller has no room. -/
def websocketGenerateAcceptKey (sha1 : List UInt8 → Digest) (clientKey : List UInt8) (acceptKeyLen : Nat) :
    Option (List UInt8) :=
  if acceptKeyLen < 29 then none
  else
    let combined := (clientKey ++ websocketMagicGuid).take 511
    let encoded := base64Bytes (sha1 combined).val ++ [0x0A]
    some (encoded.take (min encoded.length (acceptKeyLen - 1)))

def secWebsocketKey : List UInt8 := asciiBytes "Sec-WebSocket-Key:"

def crlf : List UInt8 := [0x0D, 0x0A]

/-- The key in a request. The text ends at the first zero byte. -/
def handshakeKey (memory : List UInt8) : Option (List UInt8) := do
  let request := memory.takeWhile (· ≠ 0)
  let keyStart ← firstOccurrence secWebsocketKey request
  let value := (request.drop (keyStart + secWebsocketKey.length)).dropWhile (· = 0x20)
  let keyLen ← firstOccurrence crlf value
  if 256 ≤ keyLen then none else some (value.take keyLen)

def acceptHeader : List UInt8 :=
  asciiBytes "HTTP/1.1 101 Switching Protocols" ++ crlf ++ asciiBytes "Upgrade: websocket" ++ crlf ++
    asciiBytes "Connection: Upgrade" ++ crlf ++ asciiBytes "Sec-WebSocket-Accept: "

/-- The text fits the buffer of 1024 bytes with any accept key. -/
def handshakeResponse (acceptKey : List UInt8) : List UInt8 :=
  acceptHeader ++ acceptKey ++ crlf ++ asciiBytes "Sec-WebSocket-Protocol: chat" ++ crlf ++ crlf

/-- The answer to a request. -/
def responseTo (sha1 : List UInt8 → Digest) (memory : List UInt8) : Option (List UInt8) := do
  let key ← handshakeKey memory
  let acceptKey ← websocketGenerateAcceptKey sha1 key 29
  some (handshakeResponse acceptKey)

/-- The socket takes the first so many bytes of the answer, or none if it fails. -/
def handleHandshake (sha1 : List UInt8 → Digest) (client : Client) (memory : List UInt8) (sent : Nat) (now : UInt64) :
    Int × Client × List UInt8 :=
  match responseTo sha1 memory with
  | none => (-1, client, [])
  | some response =>
      if response.take sent = [] then (-1, client, [])
      else (0, { client with state := .open, lastActivity := now }, response.take sent)

/-- What the worker reads from a socket, how much of an answer the socket takes,
and whether the frame code answers with a pong or needs the mutex once more. -/
inductive Received where
  | data (memory : List UInt8) (sent : Nat) (pongs closes : Bool)
  | closed
  | failed (again : Bool)

def Received.reading (sha1 : List UInt8 → Digest) : Received → Reading
  | .data memory sent _ closes => .data (responseTo sha1 memory |>.any fun response => response.take sent ≠ []) closes
  | .closed => .closed
  | .failed again => .failed again

/-- What is sent over the socket of a connection, and what the calls return that send. -/
inductive Sent where
  | response (connection : Nat) (bytes : List UInt8)
  | frame (connection : Nat) (opcode : UInt8)
  | returned (result : Int)
  | broadcast (result : Int)
  deriving DecidableEq, Repr

/-- The server with the descriptors that the worker waits for, the last ping of each connection,
and the number of connections that were accepted. -/
structure Exchange where
  server : Server
  polled : Option (List Int)
  lastPingSent : Nat → UInt64
  accepted : Nat

/-- What the worker sends while it reads from the client in a slot. -/
def readSends (sha1 : List UInt8 → Digest) (isSet : Int → Bool) (received : Int → Received) (server : Server)
    (index : Nat) : List Sent :=
  if server.blocked then [] else
  match server.clients[index]? with
  | some (some client) =>
      if ¬ isSet client.fd then [] else
      match received client.fd with
      | .data memory sent pongs closes =>
          if client.state = .connecting then
            match responseTo sha1 memory with
            | some response => if response.take sent = [] then [] else [.response client.connection (response.take sent)]
            | none => []
          else if client.state = .open ∧ ¬ closes ∧ pongs then [.frame client.connection wsOpcodePong]
          else []
      | .closed => []
      | .failed _ => []
  | _ => []

/-- One round of the worker, with what it sends. -/
def readRound (sha1 : List UInt8 → Digest) (isSet : Int → Bool) (received : Int → Received) (now : UInt64)
    (state : Server × List Sent) (index : Nat) : Server × List Sent :=
  (Server.readClient isSet (fun fd => (received fd).reading sha1) now state.1 index,
    state.2 ++ readSends sha1 isSet received state.1 index)

/-- The clients that a loop over the table sends a frame to. -/
def Server.openClients (server : Server) : List Client :=
  server.clients.filterMap id |>.filter fun client => client.state = .open

def pingDue (pingInterval : UInt32) (exchange : Exchange) (now : UInt64) (client : Client) : Bool :=
  now - exchange.lastPingSent client.connection > (pingInterval * 1000).toUInt64

/-- One round of the cleanup thread. The socket of a connection takes the ping or does not. -/
def cleanupRound (pingInterval : UInt32) (exchange : Exchange) (now : UInt64) (takes : Nat → Bool) :
    Exchange × List Sent :=
  let due := exchange.server.openClients.filter fun client =>
    pingDue pingInterval exchange now client && takes client.connection
  ({ exchange with
      lastPingSent := fun connection =>
        if due.any (·.connection = connection) then now else exchange.lastPingSent connection },
    due.map fun client => .frame client.connection wsOpcodePing)

/-- Whether the socket takes something of the header and something of the payload. -/
structure Takes where
  header : Bool
  payload : Bool
  deriving DecidableEq, Repr

/-- A frame whose payload is refused has been sent in part. -/
def sendWebsocketFrame (client : Client) (opcode : UInt8) (payload : List UInt8) (takes : Takes) : Int × List Sent :=
  if ¬ takes.header then (-1, [])
  else (if payload = [] ∨ takes.payload then 0 else -1, [.frame client.connection opcode])

def websocketGetClient (server : Server) (clientId : UInt64) : Option Client :=
  server.clients.filterMap id |>.find? (·.clientId = clientId)

/-- This is the common part of `websocket_send_text` and `websocket_send_binary`. -/
def websocketSend (maxMessageSize : UInt32) (server : Server) (clientId : UInt64) (opcode : UInt8)
    (payload : List UInt8) (takes : Takes) : List Sent :=
  match websocketGetClient server clientId with
  | none => [.returned (-1)]
  | some client =>
      if client.state ≠ .open ∨ maxMessageSize.toNat < payload.length then [.returned (-1)]
      else
        let (result, sent) := sendWebsocketFrame client opcode payload takes
        sent ++ [.returned result]

/-- A thread that waits for the blocked mutex does not return. -/
def websocketSendText (maxMessageSize : UInt32) (server : Server) (clientId : UInt64) (text : List UInt8)
    (takes : Takes) : List Sent :=
  if ¬ server.running then [.returned (-1)]
  else if server.blocked then []
  else websocketSend maxMessageSize server clientId wsOpcodeText text takes

/-- Only a binary message must not be empty. -/
def websocketSendBinary (maxMessageSize : UInt32) (server : Server) (clientId : UInt64) (data : List UInt8)
    (takes : Takes) : List Sent :=
  if ¬ server.running ∨ data = [] then [.returned (-1)]
  else if server.blocked then []
  else websocketSend maxMessageSize server clientId wsOpcodeBinary data takes

/-- This is the common part of the two broadcasts. -/
def websocketBroadcast (maxMessageSize : UInt32) (server : Server) (opcode : UInt8) (payload : List UInt8)
    (takes : Nat → Takes) : List Sent :=
  if maxMessageSize.toNat < payload.length then [.broadcast (-1)]
  else if server.blocked then []
  else
    let sends := server.openClients.map fun client =>
      sendWebsocketFrame client opcode payload (takes client.connection)
    sends.flatMap (·.2) ++ [.broadcast (sends.countP (·.1 = 0))]

def websocketBroadcastText (maxMessageSize : UInt32) (server : Server) (text : List UInt8) (takes : Nat → Takes) :
    List Sent :=
  if ¬ server.running then [.broadcast (-1)]
  else websocketBroadcast maxMessageSize server wsOpcodeText text takes

def websocketBroadcastBinary (maxMessageSize : UInt32) (server : Server) (data : List UInt8) (takes : Nat → Takes) :
    List Sent :=
  if ¬ server.running ∨ data = [] then [.broadcast (-1)]
  else websocketBroadcast maxMessageSize server wsOpcodeBinary data takes

/-- An open client is sent a close frame before it is removed. -/
def Server.closeFrames (server : Server) (clientId : UInt64) : List Sent :=
  match server.slotOf clientId with
  | none => []
  | some index =>
      match server.clients[index]? with
      | some (some client) => if client.state = .open then [.frame client.connection wsOpcodeClose] else []
      | _ => []

/-- An application that finds the client by its identifier answers a handshake for it. -/
def Server.handshakeFor (sha1 : List UInt8 → Digest) (server : Server) (clientId : UInt64) (memory : List UInt8)
    (sent : Nat) (now : UInt64) : Server × List Sent :=
  match server.slotOf clientId with
  | none => (server, [])
  | some index =>
      match server.clients[index]? with
      | some (some client) =>
          let (result, next, response) := handleHandshake sha1 client memory sent now
          ({ server with clients := server.clients.set index (some next) },
            if result = 0 then [.response client.connection response] else [])
      | _ => (server, [])

/-- What the threads of the server and the application do. The worker fills its set, and later `select` returns. -/
inductive ExchangeEvent where
  | start (started : Bool)
  | stop
  | accept (created : Bool) (fd : Int) (now : UInt64)
  | closeClient (clientId : UInt64)
  | handshake (clientId : UInt64) (memory : List UInt8) (sent : Nat) (now : UInt64)
  | select
  | failed
  | timeout (now : UInt64)
  | ready (isReady : Int → Bool) (received : Int → Received) (now : UInt64)
  | cleanup (now : UInt64) (takes : Nat → Bool)
  | sendText (clientId : UInt64) (text : List UInt8) (takes : Takes)
  | sendBinary (clientId : UInt64) (data : List UInt8) (takes : Takes)
  | broadcastText (text : List UInt8) (takes : Nat → Takes)
  | broadcastBinary (data : List UInt8) (takes : Nat → Takes)

/-- A stop waits for the worker, which still reads what `select` reports. -/
def exchangeMachine (sha1 : List UInt8 → Digest) (maxMessageSize pingInterval : UInt32) :
    Machine Exchange ExchangeEvent Sent where
  step exchange event :=
    let server := exchange.server
    match event with
    | .start started => ({ exchange with server := server.websocketServerStart started }, [])
    | .stop =>
        if exchange.polled.isSome then (exchange, [])
        else ({ exchange with server := server.websocketServerStop }, [])
    | .accept created fd now =>
        if server.takes ∧ created then
          ({ exchange with
            server := server.handleClientConnection exchange.accepted fd now
            accepted := exchange.accepted + 1 }, [])
        else (exchange, [])
    | .closeClient clientId =>
        if server.running ∧ ¬ server.blocked then
          ({ exchange with server := server.removeClient clientId }, server.closeFrames clientId)
        else (exchange, [])
    | .handshake clientId memory sent now =>
        if server.blocked then (exchange, [])
        else
          let (next, response) := server.handshakeFor sha1 clientId memory sent now
          ({ exchange with server := next }, response)
    | .select =>
        if server.serves ∧ exchange.polled = none then
          ({ exchange with polled := some (server.openClients.map (·.fd)) }, [])
        else (exchange, [])
    | .failed => ({ exchange with polled := none }, [])
    | .timeout now =>
        if exchange.polled.isSome ∧ ¬ server.blocked then
          ({ exchange with server := server.checkClientTimeout now, polled := none }, [])
        else (exchange, [])
    | .ready isReady received now =>
        match exchange.polled with
        | none => (exchange, [])
        | some fds =>
            let (next, sent) := (List.range server.maxClients.toNat).foldl
              (readRound sha1 (fun fd => isReady fd && fds.contains fd) received now) (server, [])
            ({ exchange with server := next, polled := none }, sent)
    | .cleanup now takes => if server.serves then cleanupRound pingInterval exchange now takes else (exchange, [])
    | .sendText clientId text takes => (exchange, websocketSendText maxMessageSize server clientId text takes)
    | .sendBinary clientId data takes => (exchange, websocketSendBinary maxMessageSize server clientId data takes)
    | .broadcastText text takes => (exchange, websocketBroadcastText maxMessageSize server text takes)
    | .broadcastBinary data takes => (exchange, websocketBroadcastBinary maxMessageSize server data takes)

def newExchange (maxClients timeout : UInt32) : Exchange := ⟨websocketServerCreate maxClients timeout, none, fun _ => 0, 0⟩

end SecureChat.WebSocket.Clients
