/-
Zks.Wire.SwarmController — the platform-independent `SwarmController`
(`zks_wire/src/swarm_controller.rs`), one call at a time.

The controller keeps three shared cells, each behind its own `RwLock`: the
signaling client slot, the `is_connected` flag and the local peer id. Run
alone, its methods are:

* `connect` writes the peer id, dials the signaling server (`attempt` is
  what `SignalingClient::connect` gave), and on success stores the client
  and sets the flag; a failed dial leaves the new peer id behind.
* `join_room`, `discover_peers`, `get_swarm_entropy` (`delegate`) take the
  slot's write guard, fail with `NotConnected` on an empty slot, and
  otherwise run the client's method and wrap its error.
* `disconnect` empties the slot and clears the flag.
* `build_onion_circuit` checks the hop bounds of the platform, discovers
  the peers of room `"default"`, checks there are enough, and plans the
  path: `max_hops - 1` shuffled peers, then the target (`planCircuit`).

The random choices are arguments: the shuffle is the permutation of the
peers' indices `SliceRandom::shuffle` chose, the circuit id's uuid the text
`Uuid::new_v4()` gave. Integer arithmetic wraps, as in a release build:
`max_hops as usize - 1` at `usize`'s width on the platform's targets, and
`max_hops - 1` in `u8`.
-/
import Zks.Wire.Signaling

namespace Zks.Wire

/-- `Platform`. -/
inductive Platform where
  | native
  | webAssembly
  deriving DecidableEq, Repr

/-- `TransportCapabilities`. -/
structure TransportCapabilities where
  supportsDirectP2p : Bool
  supportsNatTraversal : Bool
  supportsRelay : Bool
  maxHops : UInt8
  minHops : UInt8
  deriving DecidableEq, Repr

/-- `transport_capabilities()` on each platform. -/
def Platform.transportCapabilities : Platform → TransportCapabilities
  | .native => { supportsDirectP2p := true, supportsNatTraversal := true, supportsRelay := true,
                 maxHops := 8, minHops := 2 }
  | .webAssembly => { supportsDirectP2p := false, supportsNatTraversal := false,
                      supportsRelay := true, maxHops := 6, minHops := 3 }

/-- The width of `usize` on the platform's targets. -/
def Platform.usizeBits : Platform → Nat
  | .native => 64
  | .webAssembly => 32

/-- The `SwarmControllerError` variants the modelled methods produce. -/
inductive SwarmControllerError where
  | notConnected
  | signalingError (s : String)
  | invalidCircuitConfig (s : String)
  | notEnoughPeers (s : String)
  deriving DecidableEq, Repr

/-- `SwarmController`'s state. -/
structure SwarmController where
  platform : Platform
  signalingClient : Option SignalingClient
  isConnected : Bool
  localPeerId : Option String
  deriving DecidableEq, Repr

namespace SwarmController

/-- `SwarmController::new()` on a target of `platform`. -/
def new (platform : Platform) : SwarmController :=
  { platform, signalingClient := none, isConnected := false, localPeerId := none }

/-- `connect(signaling_url, local_peer_id)`. -/
def connect (ctl : SwarmController) (localPeerId : String) (attempt : Except String WsStream) :
    SwarmController × Except SwarmControllerError Unit :=
  let ctl := { ctl with localPeerId := some localPeerId }
  match SignalingClient.connect localPeerId attempt with
  | .error e =>
    (ctl, .error (.signalingError ("Failed to connect to signaling server: " ++ e.toString)))
  | .ok client => ({ ctl with signalingClient := some client, isConnected := true }, .ok ())

/-- The body `join_room`, `discover_peers` and `get_swarm_entropy` share:
under the slot's write guard, `NotConnected` on an empty slot, otherwise
the client's method `op` with its error wrapped in `context`. -/
def delegate {α : Type} (ctl : SwarmController) (context : String)
    (op : SignalingClient → SignalingClient × Except SignalingError α) :
    SwarmController × Except SwarmControllerError α :=
  match ctl.signalingClient with
  | none => (ctl, .error .notConnected)
  | some c =>
    let (c, res) := op c
    ({ ctl with signalingClient := some c },
     match res with
     | .ok a => .ok a
     | .error e => .error (.signalingError (context ++ ": " ++ e.toString)))

/-- `join_room(room_id, capabilities)`. -/
def joinRoom (ctl : SwarmController) (roomId : String) (capabilities : PeerCapabilities)
    (now : UInt64) : SwarmController × Except SwarmControllerError Unit :=
  ctl.delegate "Failed to join room" fun c => c.joinRoom roomId capabilities now

/-- `discover_peers(room_id)`. -/
def discoverPeers (ctl : SwarmController) (roomId : String) :
    SwarmController × Except SwarmControllerError (List PeerInfo) :=
  ctl.delegate "Failed to discover peers" fun c => c.discoverPeers roomId

/-- `get_swarm_entropy(room_id)`. -/
def getSwarmEntropy (ctl : SwarmController) (roomId requestId : String) :
    SwarmController × Except SwarmControllerError Entropy :=
  ctl.delegate "Failed to get swarm entropy" fun c => c.getSwarmEntropy roomId requestId

/-- `disconnect()`: the client is taken out of the slot and dropped. -/
def disconnect (ctl : SwarmController) : SwarmController × Except SwarmControllerError Unit :=
  ({ ctl with signalingClient := none, isConnected := false }, .ok ())

/-- The hop-bound check of `build_onion_circuit`. -/
def checkHops (platform : Platform) (minHops maxHops : UInt8) : Except SwarmControllerError Unit :=
  let cap := platform.transportCapabilities
  if minHops < cap.minHops || maxHops > cap.maxHops then
    .error (.invalidCircuitConfig
      ("Hops must be between " ++ toString cap.minHops ++ " and " ++ toString cap.maxHops))
  else .ok ()

/-- The rest of `build_onion_circuit` once the peers are discovered: the
peer count check, then the planned path (`circuit_peers`) and the circuit
id. -/
def planCircuit (platform : Platform) (targetPeer : String) (maxHops : UInt8)
    (peers : List PeerInfo) (shuffle : List Nat) (uuid : String) :
    Except SwarmControllerError (List PeerInfo × String) :=
  let needed := (maxHops.toNat + 2 ^ platform.usizeBits - 1) % 2 ^ platform.usizeBits
  if peers.length < needed then
    .error (.notEnoughPeers ("Need at least " ++ toString (maxHops - 1) ++ " peers for " ++
      toString maxHops ++ "-hop circuit, found " ++ toString peers.length))
  else
    let selectedPeers := shuffle.filterMap fun i => peers[i]?
    let targetPeerInfo : PeerInfo :=
      { peerId := targetPeer, publicKey := [], capabilities := .default, lastSeen := 0,
        addresses := [] }
    .ok (selectedPeers.take (maxHops - 1).toNat ++ [targetPeerInfo], "circuit_" ++ uuid)

/-- `build_onion_circuit(target_peer, min_hops, max_hops)`. -/
def buildOnionCircuit (ctl : SwarmController) (targetPeer : String) (minHops maxHops : UInt8)
    (shuffle : List Nat) (uuid : String) : SwarmController × Except SwarmControllerError String :=
  match checkHops ctl.platform minHops maxHops with
  | .error e => (ctl, .error e)
  | .ok () =>
    match ctl.discoverPeers "default" with
    | (ctl, .error e) => (ctl, .error e)
    | (ctl, .ok peers) => (ctl, (planCircuit ctl.platform targetPeer maxHops peers shuffle uuid).map (·.2))

end SwarmController

/-! ## Calls -/

/-- A controller call, with what its environment decides. -/
inductive ControllerCall where
  | connect (localPeerId : String) (attempt : Except String WsStream)
  | disconnect
  | joinRoom (roomId : String) (capabilities : PeerCapabilities) (now : UInt64)
  | discoverPeers (roomId : String)
  | getSwarmEntropy (roomId requestId : String)
  | buildOnionCircuit (targetPeer : String) (minHops maxHops : UInt8) (shuffle : List Nat)
      (uuid : String)
  deriving DecidableEq, Repr

/-- What a controller call returns on success. -/
inductive CallResult where
  | unit
  | peers (ps : List PeerInfo)
  | entropy (e : Entropy)
  | circuitId (id : String)
  deriving DecidableEq

namespace SwarmController

/-- One call, run alone. -/
def call (ctl : SwarmController) : ControllerCall → SwarmController × Except SwarmControllerError CallResult
  | .connect p a => let (ctl, r) := ctl.connect p a; (ctl, r.map fun _ => .unit)
  | .disconnect => let (ctl, r) := ctl.disconnect; (ctl, r.map fun _ => .unit)
  | .joinRoom r caps now => let (ctl, res) := ctl.joinRoom r caps now; (ctl, res.map fun _ => .unit)
  | .discoverPeers r => let (ctl, res) := ctl.discoverPeers r; (ctl, res.map .peers)
  | .getSwarmEntropy r q => let (ctl, res) := ctl.getSwarmEntropy r q; (ctl, res.map .entropy)
  | .buildOnionCircuit t lo hi sh u =>
    let (ctl, res) := ctl.buildOnionCircuit t lo hi sh u; (ctl, res.map .circuitId)

/-- Calls one after another, none overlapping the next. -/
def calls (ctl : SwarmController) : List ControllerCall →
    SwarmController × List (Except SwarmControllerError CallResult)
  | [] => (ctl, [])
  | k :: ks =>
    let (ctl₁, r) := ctl.call k
    let (ctl₂, rs) := ctl₁.calls ks
    (ctl₂, r :: rs)

end SwarmController

end Zks.Wire
