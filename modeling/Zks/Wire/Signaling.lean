/-
Zks.Wire.Signaling — the WebSocket signaling client
(`zks_wire/src/signaling.rs`, `SignalingClient`).

The client owns one `WebSocketStream`, seen here as what it will yield and
what it does with what is sent (`WsStream`):

* `incoming` — the results `try_next` will return, in order: frames and
  stream errors, then `Ok(None)` for ever. A `Close` frame or an error is
  the last thing a tokio-tungstenite stream yields (its `ended` flag), so
  reading one leaves nothing more to read. The list is finite, so every
  `try_next` completes: a server that keeps the connection open and sends
  nothing, on which `receive_message` waits for ever, is outside the model,
  and what is proved about a reply holds of servers that answer or close.
* `sink` — the sink's verdict on each `send`, in order (`none` accepts,
  `some e` fails with `e`); every send past the end of the list is
  accepted.
* `sent` — the frames the sink accepted.

Each API call sends its request through `send_message` and, for
`discover_peers` and `get_swarm_entropy`, reads the reply through
`receive_message`, whose loop skips binary, ping, pong and raw frames and
stops at the first text frame, `Close`, end of stream or error.
`uuid::Uuid::new_v4()` and `SystemTime::now()` are arguments of the calls
that use them.
-/
import Zks.Wire.SignalingMessage
import Zks.Format.Text

namespace Zks.Wire

/-- `tungstenite::Message`, without the payloads the client never reads. -/
inductive Message where
  | text (s : String)
  | binary
  | ping
  | pong
  | close
  | frame
  deriving DecidableEq, Repr

/-- One result of `try_next`: a frame, or a stream error. -/
inductive StreamItem where
  | frame (m : Message)
  | error (e : String)
  deriving DecidableEq, Repr

/-- `SignalingError`. -/
inductive SignalingError where
  | connectionFailed (s : String)
  | connectionClosed
  | sendFailed (s : String)
  | receiveFailed (s : String)
  | serializationFailed (s : String)
  | deserializationFailed (s : String)
  | serverError (s : String)
  | unexpectedMessage (s : String)
  | invalidEntropy (s : String)
  deriving DecidableEq, Repr

/-- The `Display` text thiserror derives for `SignalingError`. -/
def SignalingError.toString : SignalingError → String
  | .connectionFailed s => "Connection failed: " ++ s
  | .connectionClosed => "Connection closed"
  | .sendFailed s => "Send failed: " ++ s
  | .receiveFailed s => "Receive failed: " ++ s
  | .serializationFailed s => "Serialization failed: " ++ s
  | .deserializationFailed s => "Deserialization failed: " ++ s
  | .serverError s => "Server error: " ++ s
  | .unexpectedMessage s => "Unexpected message: " ++ s
  | .invalidEntropy s => "Invalid entropy: " ++ s

/-- The `WebSocketStream` of a client. -/
structure WsStream where
  incoming : List StreamItem
  sink : List (Option String)
  sent : List Message
  deriving DecidableEq, Repr

/-- `SignalingClient`. -/
structure SignalingClient where
  wsStream : WsStream
  peerId : String
  isConnected : Bool
  deriving DecidableEq, Repr

/-- `[u8; 32]`. -/
def Entropy : Type := { b : List UInt8 // b.length = 32 }

instance : DecidableEq Entropy := inferInstanceAs (DecidableEq { b : List UInt8 // b.length = 32 })

/-! ## The stream -/

/-- `stream.send(message)`: the sink's next verdict. -/
def WsStream.send (w : WsStream) (m : Message) : WsStream × Except String Unit :=
  match w.sink.headD none with
  | some e => ({ w with sink := w.sink.tail }, .error e)
  | none => ({ w with sink := w.sink.tail, sent := w.sent ++ [m] }, .ok ())

/-- How the loop of `receive_message` ends. -/
inductive Received where
  | text (s : String)
  | closed
  | failed (e : String)
  deriving DecidableEq, Repr

/-- The loop of `receive_message` over what `try_next` yields: the frames it
ignores are skipped; a text frame ends it, a `Close` frame or the end of the
stream close it, an error fails it. -/
def receiveLoop : List StreamItem → Received × List StreamItem
  | [] => (.closed, [])
  | .frame (.text s) :: rest => (.text s, rest)
  | .frame .binary :: rest => receiveLoop rest
  | .frame .ping :: rest => receiveLoop rest
  | .frame .pong :: rest => receiveLoop rest
  | .frame .frame :: rest => receiveLoop rest
  | .frame .close :: _ => (.closed, [])
  | .error e :: _ => (.failed e, [])

/-- What `receive_message` returns for the way its loop ended. -/
def Received.result : Received → Except SignalingError SignalingMessage
  | .text s =>
    match SignalingMessage.fromText s with
    | .ok m => .ok m
    | .error e => .error (.deserializationFailed ("Failed to deserialize message: " ++ e))
  | .closed => .error .connectionClosed
  | .failed e => .error (.receiveFailed ("WebSocket error: " ++ e))

/-! ## The client -/

/-- The URL `connect` dials: `ws://` and `wss://` URLs as they are, a bare
host as `wss://host/signaling`. -/
def signalingUrl (url : String) : String :=
  if Text.startsWith url "ws://" || Text.startsWith url "wss://" then url
  else "wss://" ++ Text.trimEndMatches url '/' ++ "/signaling"

/-- `SignalingClient::connect(url, peer_id)`; `attempt` is what
`connect_async(signalingUrl url)` gave. -/
def SignalingClient.connect (peerId : String) (attempt : Except String WsStream) :
    Except SignalingError SignalingClient :=
  match attempt with
  | .ok w => .ok { wsStream := w, peerId, isConnected := true }
  | .error e => .error (.connectionFailed ("WebSocket connection failed: " ++ e))

namespace SignalingClient

/-- `send_message`: the message's JSON text as one text frame.
`serde_json::to_string` cannot fail on these types, so the
`SerializationFailed` path is never taken. -/
def sendMessage (c : SignalingClient) (m : SignalingMessage) :
    SignalingClient × Except SignalingError Unit :=
  match c.wsStream.send (.text m.toText) with
  | (w, .ok ()) => ({ c with wsStream := w }, .ok ())
  | (w, .error e) => ({ c with wsStream := w }, .error (.sendFailed ("Failed to send message: " ++ e)))

/-- `receive_message`: the loop, then the `Close` and end-of-stream arms
clear the connected flag. -/
def receiveMessage (c : SignalingClient) : SignalingClient × Except SignalingError SignalingMessage :=
  let (r, rest) := receiveLoop c.wsStream.incoming
  ({ c with wsStream := { c.wsStream with incoming := rest },
            isConnected := if r = .closed then false else c.isConnected }, r.result)

/-- `join_room(room_id, capabilities)`; `now` is the `SystemTime` in
seconds. -/
def joinRoom (c : SignalingClient) (roomId : String) (capabilities : PeerCapabilities)
    (now : UInt64) : SignalingClient × Except SignalingError Unit :=
  let peerInfo : PeerInfo :=
    { peerId := c.peerId, publicKey := [], capabilities, lastSeen := now, addresses := [] }
  c.sendMessage (.join roomId peerInfo)

/-- What `discover_peers` makes of its reply. -/
def peersReply : SignalingMessage → Except SignalingError (List PeerInfo)
  | .peers ps => .ok ps
  | .error code message => .error (.serverError (code ++ ": " ++ message))
  | _ => .error (.unexpectedMessage "Expected Peers response")

/-- `discover_peers(room_id)`. -/
def discoverPeers (c : SignalingClient) (roomId : String) :
    SignalingClient × Except SignalingError (List PeerInfo) :=
  match c.sendMessage (.discover roomId) with
  | (c, .error e) => (c, .error e)
  | (c, .ok ()) =>
    match c.receiveMessage with
    | (c, .error e) => (c, .error e)
    | (c, .ok response) => (c, peersReply response)

/-- What `get_swarm_entropy` makes of its reply to request `requestId`. -/
def entropyReply (requestId : String) : SignalingMessage → Except SignalingError Entropy
  | .entropyResponse respId entropy _ =>
    if respId ≠ requestId then .error (.unexpectedMessage "Request ID mismatch")
    else if h : entropy.length = 32 then .ok ⟨entropy, h⟩
    else .error (.invalidEntropy "Entropy must be 32 bytes")
  | .error code message => .error (.serverError (code ++ ": " ++ message))
  | _ => .error (.unexpectedMessage "Expected EntropyResponse")

/-- `get_swarm_entropy(room_id)`; `requestId` is the fresh uuid. -/
def getSwarmEntropy (c : SignalingClient) (roomId requestId : String) :
    SignalingClient × Except SignalingError Entropy :=
  match c.sendMessage (.entropyRequest roomId requestId) with
  | (c, .error e) => (c, .error e)
  | (c, .ok ()) =>
    match c.receiveMessage with
    | (c, .error e) => (c, .error e)
    | (c, .ok response) => (c, entropyReply requestId response)

/-- `leave_room(room_id)`. -/
def leaveRoom (c : SignalingClient) (roomId : String) : SignalingClient × Except SignalingError Unit :=
  c.sendMessage (.leave roomId)

/-- `close()`: a `Close` frame. -/
def close (c : SignalingClient) : SignalingClient × Except SignalingError Unit :=
  match c.wsStream.send .close with
  | (w, .ok ()) => ({ c with wsStream := w }, .ok ())
  | (w, .error e) =>
    ({ c with wsStream := w }, .error (.sendFailed ("Failed to send close message: " ++ e)))

end SignalingClient

/-! ## Sessions -/

/-- A call of a session on one client, with the values it takes from its
environment. -/
inductive Call where
  | joinRoom (roomId : String) (capabilities : PeerCapabilities) (now : UInt64)
  | leaveRoom (roomId : String)
  | discoverPeers (roomId : String)
  | getSwarmEntropy (roomId requestId : String)
  deriving DecidableEq, Repr

/-- What a call returns on success. -/
inductive Reply where
  | unit
  | peers (ps : List PeerInfo)
  | entropy (e : Entropy)
  deriving DecidableEq

namespace SignalingClient

/-- One call of a session. -/
def call (c : SignalingClient) : Call → SignalingClient × Except SignalingError Reply
  | .joinRoom r caps now => let (c, res) := c.joinRoom r caps now; (c, res.map fun _ => .unit)
  | .leaveRoom r => let (c, res) := c.leaveRoom r; (c, res.map fun _ => .unit)
  | .discoverPeers r => let (c, res) := c.discoverPeers r; (c, res.map .peers)
  | .getSwarmEntropy r q => let (c, res) := c.getSwarmEntropy r q; (c, res.map .entropy)

/-- A session of calls, one after another: the client after it and what each
call returned. -/
def session (c : SignalingClient) : List Call → SignalingClient × List (Except SignalingError Reply)
  | [] => (c, [])
  | k :: ks =>
    let (c₁, r) := c.call k
    let (c₂, rs) := c₁.session ks
    (c₂, r :: rs)

end SignalingClient

end Zks.Wire
