/-
Zks.Wasm.OnionTransport — the browser `BrowserOnionTransport`
(`zks_wasm/src/onion_transport.rs`).

The transport holds its current socket, the circuit map
`circuit_id → OnionCircuit`, an inbound payload queue and the connection
state, the last three shared with the callbacks `setup_event_handlers`
installs on each socket. As for `WebSocketTransport`, a run is a sequence of
API calls and socket events, each run to completion; the callbacks never
look at which socket raised an event, and the sockets' `readyState`s move as
`Zks.Wasm.Transport` says.

* `buildCircuit` parses every hop descriptor (`relay_url,peer_id,key` with
  the key in standard padded base64) before anything else, then stores the
  circuit, then sends `BuildCircuit` on the current socket; the circuit stays
  stored when that send fails, for want of a socket or on one still
  `CONNECTING`.
* `sendOnionMessage` hands the message's text to the current socket, as its
  `readyState` lets it go: `CONNECTING` throws, `CLOSING` and `CLOSED` drop
  it and return `Ok`.
* `sendThroughCircuit` checks the local map only; `receiveFromCircuit` pops
  the oldest queued payload whatever circuit it names; `teardownCircuit`
  removes the entry and sends `TearDownCircuit`.
* `onMessage` decodes a text frame: `DataReceived` queues its data,
  `CircuitTornDown` and `TearDownCircuit` remove their circuit, the rest is
  logged. The `error` and `close` callbacks set the state only.

The map is a function from circuit ids; `uuid::Uuid::new_v4()` is the
`circuitId` a `buildCircuit` action carries.
-/
import Zks.Wasm.Transport
import Zks.Wasm.OnionMessage
import Zks.Format.Base64

namespace Zks.Wasm

/-- `BrowserTransportConfig`. -/
structure BrowserTransportConfig where
  relayUrl : String
  maxCircuitHops : UInt8
  circuitTimeoutMs : UInt32
  maxReconnectAttempts : UInt32
  reconnectDelayMs : UInt32
  deriving DecidableEq, Repr

/-- `convert_relay_url`: `ws://` and `wss://` URLs as they are, `http://`
and `https://` rewritten wherever they occur, and a bare host becomes
`wss://host/onion`. -/
def convertRelayUrl (url : String) : String :=
  if Text.startsWith url "ws://" || Text.startsWith url "wss://" then url
  else if Text.startsWith url "http://" then Text.replaceAll url "http://" "ws://"
  else if Text.startsWith url "https://" then Text.replaceAll url "https://" "wss://"
  else "wss://" ++ Text.trimEndMatches url '/' ++ "/onion"

/-- A hop argument: the `JsValue` is a string, or something else. -/
inductive HopArg where
  | str (s : String)
  | other
  deriving DecidableEq, Repr

/-- One turn of the hop-parsing loop of `build_circuit`. -/
def parseHop : HopArg → Except String OnionHop
  | .other => .error "Invalid hop format"
  | .str s =>
    match Text.splitChar ',' s.toList with
    | [url, peer, key] =>
      match Base64.decode key with
      | .ok k => .ok { relayUrl := String.mk url, peerId := String.mk peer, publicKey := k }
      | .error e => .error ("Invalid public key: " ++ e.toString)
    | _ => .error "Each hop must be in format: relay_url,peer_id,public_key"

/-- The hop-parsing loop: the first failure ends it. -/
def parseHops (hops : List HopArg) : Except String (List OnionHop) := hops.mapM parseHop

/-- `BrowserOnionTransport`: `websocket` is the current socket, `sockets`
the `readyState`s of those created so far. -/
structure BrowserOnionTransport where
  websocket : Option Nat
  sockets : List ReadyState
  circuits : String → Option OnionCircuit
  messageQueue : List (List UInt8)
  state : TransportState
  config : BrowserTransportConfig

namespace BrowserOnionTransport

/-- `BrowserOnionTransport::new(relay_url, max_reconnect_attempts)`. -/
def new (relayUrl : String) (maxReconnectAttempts : UInt32) : BrowserOnionTransport where
  websocket := none
  sockets := []
  circuits := fun _ => none
  messageQueue := []
  state := .disconnected
  config := { relayUrl, maxCircuitHops := 3, circuitTimeoutMs := 30000, maxReconnectAttempts,
              reconnectDelayMs := 1000 }

/-- A run's steps: an API call, or an event raised by a socket. -/
inductive Action where
  | connect (created : Bool)
  | buildCircuit (hops : List HopArg) (circuitId : String)
  | sendThroughCircuit (circuitId : String) (data : List UInt8)
  | receiveFromCircuit (circuitId : String)
  | teardownCircuit (circuitId : String)
  | disconnect
  | event (sock : Nat) (e : SocketEvent)
  deriving DecidableEq, Repr

/-- What an API call returns. -/
inductive Reply where
  | unit
  | circuitId (id : String)
  | payload (p : Option (List UInt8))
  deriving DecidableEq, Repr

/-- What a step does outside the transport. -/
inductive Effect where
  /-- `WebSocket::new(url)` created socket `sock`. -/
  | created (sock : Nat) (url : String)
  /-- The JSON text of a message handed to socket `sock`. -/
  | sent (sock : Nat) (msg : OnionMessage)
  /-- `websocket.close()` on socket `sock`. -/
  | closeRequested (sock : Nat)
  /-- An API call returned. -/
  | returned (r : Except String Reply)
  deriving DecidableEq, Repr

/-- The map with `id` bound to `c`. -/
def insertCircuit (m : String → Option OnionCircuit) (id : String) (c : OnionCircuit) :
    String → Option OnionCircuit :=
  fun k => if k = id then some c else m k

/-- The map without `id`. -/
def removeCircuit (m : String → Option OnionCircuit) (id : String) :
    String → Option OnionCircuit :=
  fun k => if k = id then none else m k

/-- `send_onion_message`: the message's text on the current socket, as its
`readyState` lets it go. -/
def sendOnionMessage (t : BrowserOnionTransport) (m : OnionMessage) :
    List Effect × Except String Unit :=
  match t.websocket with
  | some s =>
    match (readyState t.sockets s).send with
    | .ok true => ([.sent s m], .ok ())
    | .ok false => ([], .ok ())
    | .error e => ([], .error e)
  | none => ([], .error "Not connected to relay")

/-- The reply of a call that ends in `send_onion_message`. -/
def afterSend (t : BrowserOnionTransport) (m : OnionMessage) (r : Reply) : List Effect :=
  match sendOnionMessage t m with
  | (es, .ok ()) => es ++ [.returned (.ok r)]
  | (es, .error e) => es ++ [.returned (.error e)]

/-- `connect`: a new socket with the callbacks installed becomes the current
one and the state `Connecting`; the socket it replaces is left open. -/
def connect (t : BrowserOnionTransport) (created : Bool) : BrowserOnionTransport × List Effect :=
  if created then
    ({ t with state := .connecting, websocket := some t.sockets.length,
               sockets := t.sockets ++ [.connecting] },
     [.created t.sockets.length (convertRelayUrl t.config.relayUrl), .returned (.ok .unit)])
  else (t, [.returned (.error "SyntaxError")])

/-- `build_circuit`: parse every descriptor, store the circuit, send
`BuildCircuit`. -/
def buildCircuit (t : BrowserOnionTransport) (hops : List HopArg) (circuitId : String) :
    BrowserOnionTransport × List Effect :=
  match parseHops hops with
  | .error e => (t, [.returned (.error e)])
  | .ok onionHops =>
    let circuit : OnionCircuit := { circuitId, hops := onionHops, encryptionKeys := [] }
    let t' := { t with circuits := insertCircuit t.circuits circuitId circuit }
    (t', afterSend t' (.buildCircuit circuitId onionHops) (.circuitId circuitId))

/-- `send_through_circuit`: the circuit must be in the local map. -/
def sendThroughCircuit (t : BrowserOnionTransport) (circuitId : String) (data : List UInt8) :
    BrowserOnionTransport × List Effect :=
  if (t.circuits circuitId).isSome then (t, afterSend t (.forwardData circuitId data) .unit)
  else (t, [.returned (.error "Circuit not found")])

/-- `receive_from_circuit`: the oldest queued payload, whatever circuit is
named. -/
def receiveFromCircuit (t : BrowserOnionTransport) (_circuitId : String) :
    BrowserOnionTransport × List Effect :=
  match t.messageQueue with
  | d :: rest => ({ t with messageQueue := rest }, [.returned (.ok (.payload (some d)))])
  | [] => (t, [.returned (.ok (.payload none))])

/-- `teardown_circuit`: remove the entry, then send `TearDownCircuit`. -/
def teardownCircuit (t : BrowserOnionTransport) (circuitId : String) :
    BrowserOnionTransport × List Effect :=
  let t' := { t with circuits := removeCircuit t.circuits circuitId }
  (t', afterSend t' (.tearDownCircuit circuitId) .unit)

/-- `disconnect`: close the current socket, then reset the state, the
socket, the circuit map and the queue. -/
def disconnect (t : BrowserOnionTransport) : BrowserOnionTransport × List Effect :=
  ({ t with state := .disconnected, websocket := none, sockets := closeCurrent t.websocket t.sockets,
            circuits := fun _ => none, messageQueue := [] },
   (match t.websocket with | some s => [.closeRequested s] | none => []) ++ [.returned (.ok .unit)])

/-- The `onmessage` callback: text frames only. -/
def onMessage (t : BrowserOnionTransport) : MessageData → BrowserOnionTransport
  | .binary _ => t
  | .text s =>
    match OnionMessage.fromText s with
    | .ok (.dataReceived _ data) => { t with messageQueue := t.messageQueue ++ [data] }
    | .ok (.circuitTornDown c) => { t with circuits := removeCircuit t.circuits c }
    | .ok (.tearDownCircuit c) => { t with circuits := removeCircuit t.circuits c }
    | _ => t

/-- The callbacks `setup_event_handlers` installs. -/
def onEvent (t : BrowserOnionTransport) : SocketEvent → BrowserOnionTransport
  | .opened => { t with state := .connected }
  | .message d => onMessage t d
  | .errored => { t with state := .error }
  | .closed => { t with state := .disconnected }

/-- One step of a run: an event first moves its socket's `readyState`,
then runs the callback. -/
def step (t : BrowserOnionTransport) : Action → BrowserOnionTransport × List Effect
  | .connect created => connect t created
  | .buildCircuit hops id => buildCircuit t hops id
  | .sendThroughCircuit id data => sendThroughCircuit t id data
  | .receiveFromCircuit id => receiveFromCircuit t id
  | .teardownCircuit id => teardownCircuit t id
  | .disconnect => disconnect t
  | .event s e => (onEvent { t with sockets := raise t.sockets s e } e, [])

/-- The transport after a run. -/
def run (t : BrowserOnionTransport) : List Action → BrowserOnionTransport
  | [] => t
  | a :: as => run (step t a).1 as

/-- Everything a run did outside the transport, in order. -/
def trace (t : BrowserOnionTransport) : List Action → List Effect
  | [] => []
  | a :: as => (step t a).2 ++ trace (step t a).1 as

end BrowserOnionTransport

end Zks.Wasm
