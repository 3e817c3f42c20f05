/-
Zks.Uniffi.MeetClient — the `ZksMeetClient` the mobile bindings export
(`zks_uniffi/src/lib.rs`), one call at a time.

The client keeps its peer id, a `ConnectionState` and an optional
`SignalingClient`, the last two behind their own `RwLock`. Each method runs
to completion on the caller's thread (`runtime.block_on`):

* `connect_matchmaking` sets `Matching`, dials, and stores the new
  signaling client; the state stays `Matching` whether the dial succeeds
  or not.
* `find_match` sets `Matching`, dials the default server if no client is
  stored, then joins room `zks-meet-global` with the interests as
  `supported_protocols` and discovers its peers: the first one found
  becomes the `Connected` peer. Any failure leaves `Matching`.
* `skip`, on a `Connected` client, discovers again and moves to the first
  peer found; a failure keeps the old peer.
* `send` and `receive` answer from the state alone; `disconnect` resets
  the state and drops the signaling client without closing it.

`skip` and `find_match` are written as their work under the slot's write
guard (`skipLocked`, `findMatchLocked`) followed by the state write;
`Zks.Uniffi.MeetTasks` takes the same work one await at a time.

Every signaling error surfaces as `ConnectionFailed` carrying its
`Display` text. What `connect_async` gave for the dialled URL, the
`SystemTime` of a join and the uuid of `new_random` are arguments of the
calls that use them.
-/
import Zks.Wire.Signaling

namespace Zks.Uniffi

open Wire

/-- `ZksError`. -/
inductive ZksError where
  | notConnected
  | connectionFailed (message : String)
  | matchFailed (message : String)
  | asyncError (message : String)
  deriving DecidableEq, Repr

/-- The bindings' `PeerInfo` record. -/
structure PeerInfo where
  peerId : String
  publicKey : List UInt8
  endpointHint : Option String
  deriving DecidableEq, Repr

/-- `ConnectionState`. -/
inductive ConnectionState where
  | disconnected
  | matching
  | connected (peer : PeerInfo)
  deriving DecidableEq, Repr

/-- `ZksMeetClient`, without the runtime it blocks on. -/
structure ZksMeetClient where
  peerId : String
  state : ConnectionState
  signalingClient : Option SignalingClient
  deriving DecidableEq, Repr

/-- `wire_peer_to_uniffi_peer`: the first address is the endpoint hint. -/
def wirePeerToUniffiPeer (wirePeer : Wire.PeerInfo) : PeerInfo :=
  { peerId := wirePeer.peerId, publicKey := wirePeer.publicKey,
    endpointHint := wirePeer.addresses.head? }

/-- `signaling_error_to_zks_error`. -/
def signalingErrorToZksError (error : SignalingError) : ZksError :=
  .connectionFailed ("Signaling error: " ++ error.toString)

/-- What `skip` and `find_match` make of a discovery: the first peer
found, `MatchFailed` with `noPeers` for an empty list, or the signaling
error. -/
def firstPeer (noPeers : String) : Except SignalingError (List Wire.PeerInfo) → Except ZksError PeerInfo
  | .error e => .error (signalingErrorToZksError e)
  | .ok [] => .error (.matchFailed noPeers)
  | .ok (newPeer :: _) => .ok (wirePeerToUniffiPeer newPeer)

/-- The state `skip` and `find_match` write once their work under the
slot's guard gave `r`: the peer found becomes the `Connected` peer; on an
error they return before writing it. -/
def ConnectionState.afterMatch (st : ConnectionState) : Except ZksError PeerInfo → ConnectionState
  | .ok p => .connected p
  | .error _ => st

namespace ZksMeetClient

/-- `ZksMeetClient::new(peer_id)`. -/
def new (peerId : String) : ZksMeetClient :=
  { peerId, state := .disconnected, signalingClient := none }

/-- `ZksMeetClient::new_random()`, for the text `Uuid::new_v4()` gave. -/
def newRandom (uuid : String) : ZksMeetClient := new ("peer_" ++ uuid)

/-- `connect_matchmaking(url)`; `attempt` is what `connect_async` gave for
the URL `SignalingClient::connect` dials. -/
def connectMatchmaking (c : ZksMeetClient) (attempt : Except String WsStream) :
    ZksMeetClient × Except ZksError Unit :=
  let c := { c with state := .matching }
  match SignalingClient.connect c.peerId attempt with
  | .error e => (c, .error (signalingErrorToZksError e))
  | .ok client => ({ c with signalingClient := some client }, .ok ())

/-- `send(data)`: accepted in the `Connected` state, and dropped. -/
def send (c : ZksMeetClient) (_data : List UInt8) : Except ZksError Unit :=
  match c.state with
  | .connected _ => .ok ()
  | _ => .error .notConnected

/-- `receive()`: nothing, in the `Connected` state. -/
def receive (c : ZksMeetClient) : Except ZksError (List UInt8) :=
  match c.state with
  | .connected _ => .ok []
  | _ => .error .notConnected

/-- What `skip` does holding the slot's write guard: the slot it leaves,
and the peer found or the error. -/
def skipLocked : Option SignalingClient → Option SignalingClient × Except ZksError PeerInfo
  | some client =>
    let r := client.discoverPeers "zks-meet-global"
    (some r.1, firstPeer "No more peers available" r.2)
  | none => (none, .error .notConnected)

/-- `skip()`. -/
def skip (c : ZksMeetClient) : ZksMeetClient × Except ZksError PeerInfo :=
  match c.state with
  | .connected _ =>
    let r := skipLocked c.signalingClient
    ({ c with signalingClient := r.1, state := c.state.afterMatch r.2 }, r.2)
  | _ => (c, .error .notConnected)

/-- `disconnect()`: the signaling client is dropped, not closed. -/
def disconnect (c : ZksMeetClient) : ZksMeetClient :=
  { c with state := .disconnected, signalingClient := none }

/-- The client `find_match` works with: the stored one, or a new one
dialled to `DEFAULT_SIGNALING_URL` (`attempt`) when none is stored. -/
def createClient (c : ZksMeetClient) (attempt : Except String WsStream) :
    Except ZksError (Option SignalingClient) :=
  match c.signalingClient with
  | none =>
    match SignalingClient.connect c.peerId attempt with
    | .error e => .error (signalingErrorToZksError e)
    | .ok client => .ok (some client)
  | some client => .ok (some client)

/-- What `find_match` does holding the slot's write guard: the slot it
leaves, and the peer found or the error; `now` is the `SystemTime` in
seconds of the join. -/
def findMatchLocked (c : ZksMeetClient) (interests : List String) (attempt : Except String WsStream)
    (now : UInt64) : Option SignalingClient × Except ZksError PeerInfo :=
  match c.createClient attempt with
  | .error e => (c.signalingClient, .error e)
  | .ok none => (c.signalingClient, .error (.connectionFailed "Failed to create signaling client"))
  | .ok (some client) =>
    let capabilities := { PeerCapabilities.default with supportedProtocols := interests }
    match client.joinRoom "zks-meet-global" capabilities now with
    | (client, .error e) => (some client, .error (signalingErrorToZksError e))
    | (client, .ok ()) =>
      let r := client.discoverPeers "zks-meet-global"
      (some r.1, firstPeer "No matching peers found" r.2)

/-- `find_match(interests)`: `Matching`, the work under the guard, then
the peer found. -/
def findMatch (c : ZksMeetClient) (interests : List String) (attempt : Except String WsStream)
    (now : UInt64) : ZksMeetClient × Except ZksError PeerInfo :=
  let c := { c with state := .matching }
  let r := c.findMatchLocked interests attempt now
  ({ c with signalingClient := r.1, state := c.state.afterMatch r.2 }, r.2)

/-! ## Runs -/

/-- A call on the client, with what its environment decides. -/
inductive Action where
  | connectMatchmaking (attempt : Except String WsStream)
  | send (data : List UInt8)
  | receive
  | skip
  | disconnect
  | findMatch (interests : List String) (attempt : Except String WsStream) (now : UInt64)
  deriving DecidableEq, Repr

/-- What a call returns on success. -/
inductive Reply where
  | unit
  | bytes (data : List UInt8)
  | peer (p : PeerInfo)
  deriving DecidableEq, Repr

/-- One call. -/
def step (c : ZksMeetClient) : Action → ZksMeetClient × Except ZksError Reply
  | .connectMatchmaking a => let (c, r) := c.connectMatchmaking a; (c, r.map fun _ => .unit)
  | .send d => (c, (c.send d).map fun _ => .unit)
  | .receive => (c, c.receive.map .bytes)
  | .skip => let (c, r) := c.skip; (c, r.map .peer)
  | .disconnect => (c.disconnect, .ok .unit)
  | .findMatch i a now => let (c, r) := c.findMatch i a now; (c, r.map .peer)

/-- The client after calls made one after another. -/
def run (c : ZksMeetClient) : List Action → ZksMeetClient
  | [] => c
  | a :: as => run (c.step a).1 as

/-- What calls made one after another return. -/
def replies (c : ZksMeetClient) : List Action → List (Except ZksError Reply)
  | [] => []
  | a :: as => (c.step a).2 :: replies (c.step a).1 as

end ZksMeetClient

end Zks.Uniffi
