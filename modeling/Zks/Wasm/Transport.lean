/-
Zks.Wasm.Transport — the browser `WebSocketTransport`
(`zks_wasm/src/transport.rs`), and the browser `WebSocket` both transports
drive.

The transport holds its current socket, an inbound queue, the connection
state and a reconnect counter, the last three behind `Arc<Mutex<_>>` and
shared with the four callbacks `setup_event_handlers` installs on every
socket `connect` creates. A browser runs callbacks and the synchronous API
calls to completion one at a time, so a run is a sequence of `Action`s: API
calls, and events raised by sockets. Sockets are named by the order of their
creation; the callbacks close over the shared state and never look at which
socket raised the event, so `onEvent` does not either. Events of a socket
that was never created are admitted too: the theorems then cover every real
run a fortiori.

The browser keeps each socket's `readyState` (`ReadyState`), and the
transport's `sockets` lists them by socket number. `WebSocket::new` starts
a socket `CONNECTING`; the browser makes it `OPEN` before it fires `open`,
and `CLOSED` before it fires `error` or `close`; `close()` makes a socket
still connecting or open `CLOSING`. `send_with_u8_array` and `send_with_str`
act by the current socket's `readyState` (`ReadyState.send`): `CONNECTING`
throws `InvalidStateError`, which `?` returns as the call's error; `OPEN`
transmits the frame; `CLOSING` and `CLOSED` drop it without an error. A
`DOMException` stands here for its name.

`step` returns the next transport and what the call or callback did
outside it: the sockets it created, the frames it sent, the sockets it
closed, the reconnection attempts it scheduled, and the value the API call
returned.
-/
import Zks.Format.Text

namespace Zks.Wasm

/-- `TransportState`: the lifecycle of the underlying socket. -/
inductive TransportState where
  | disconnected
  | connecting
  | connected
  | error
  deriving DecidableEq, Repr

/-- The payload of a `message` event: an `ArrayBuffer` or a text. -/
inductive MessageData where
  | binary (bytes : List UInt8)
  | text (s : String)
  deriving DecidableEq, Repr

/-- The events a socket raises, each delivered to the callback
`setup_event_handlers` installed for it. -/
inductive SocketEvent where
  | opened
  | message (data : MessageData)
  | errored
  | closed
  deriving DecidableEq, Repr

/-- A browser `WebSocket`'s `readyState`. -/
inductive ReadyState where
  /-- `CONNECTING` -/
  | connecting
  /-- `OPEN` -/
  | opened
  /-- `CLOSING` -/
  | closing
  /-- `CLOSED` -/
  | closed
  deriving DecidableEq, Repr

namespace ReadyState

/-- The `readyState` a socket is in when one of its events fires: `OPEN`
for `open`, `CLOSED` for `error` and `close`; a message leaves it. -/
def onEvent : SocketEvent → ReadyState → ReadyState
  | .opened, _ => .opened
  | .message _, r => r
  | .errored, _ => .closed
  | .closed, _ => .closed

/-- `WebSocket.close()`: a socket still connecting or open starts closing;
one already closing or closed is left as it is. -/
def close : ReadyState → ReadyState
  | .connecting => .closing
  | .opened => .closing
  | r => r

/-- `WebSocket.send()`: whether the frame is transmitted, or the
exception it throws. -/
def send : ReadyState → Except String Bool
  | .connecting => .error "InvalidStateError"
  | .opened => .ok true
  | .closing => .ok false
  | .closed => .ok false

end ReadyState

/-- The `readyState` of socket `s` of those created; a number never created
reads as `CLOSED`. -/
def readyState (sockets : List ReadyState) (s : Nat) : ReadyState :=
  sockets[s]?.getD .closed

/-- The `readyState`s after socket `s` raised event `e`. -/
def raise (sockets : List ReadyState) (s : Nat) (e : SocketEvent) : List ReadyState :=
  sockets.modify (ReadyState.onEvent e) s

/-- The `readyState`s after `close()` on the current socket, if any. -/
def closeCurrent (websocket : Option Nat) (sockets : List ReadyState) : List ReadyState :=
  match websocket with
  | some s => sockets.modify ReadyState.close s
  | none => sockets

/-- `TransportConfig`. -/
structure TransportConfig where
  url : String
  maxReconnectAttempts : UInt32
  reconnectDelayMs : UInt32
  deriving DecidableEq, Repr

/-- `convert_zk_url`: `zk://` becomes `ws://` and `zks://` becomes `wss://`,
wherever they occur. -/
def convertZkUrl (url : String) : String :=
  Text.replaceAll (Text.replaceAll url "zk://" "ws://") "zks://" "wss://"

/-- `WebSocketTransport`: `websocket` is the current socket, `sockets` the
`readyState`s of those created so far. -/
structure WebSocketTransport where
  websocket : Option Nat
  sockets : List ReadyState
  messageQueue : List (List UInt8)
  state : TransportState
  config : TransportConfig
  reconnectAttempts : UInt32
  deriving DecidableEq, Repr

namespace WebSocketTransport

/-- `WebSocketTransport::new(url, max_reconnect_attempts)`. -/
def new (url : String) (maxReconnectAttempts : UInt32) : WebSocketTransport where
  websocket := none
  sockets := []
  messageQueue := []
  state := .disconnected
  config := { url, maxReconnectAttempts, reconnectDelayMs := 1000 }
  reconnectAttempts := 0

/-- A run's steps: an API call, or an event raised by a socket. `connect`
carries whether `WebSocket::new` accepted the URL. -/
inductive Action where
  | connect (created : Bool)
  | disconnect
  | send (data : List UInt8)
  | receive
  | event (sock : Nat) (e : SocketEvent)
  deriving DecidableEq, Repr

/-- What a step does outside the transport. -/
inductive Effect where
  /-- `WebSocket::new(url)` created socket `sock`. -/
  | created (sock : Nat) (url : String)
  /-- A binary frame handed to socket `sock`. -/
  | sent (sock : Nat) (data : List UInt8)
  /-- `websocket.close()` on socket `sock`. -/
  | closeRequested (sock : Nat)
  /-- `spawn_local` of the delayed reconnection attempt. -/
  | reconnectScheduled (delayMs : UInt32)
  /-- An API call returned. -/
  | returned (r : Except String (Option (List UInt8)))
  deriving DecidableEq, Repr

/-- `connect`: a new socket with the callbacks installed becomes the current
one and the state `Connecting`. The socket it replaces is neither closed nor
detached. -/
def connect (t : WebSocketTransport) (created : Bool) : WebSocketTransport × List Effect :=
  if created then
    ({ t with state := .connecting, websocket := some t.sockets.length,
               sockets := t.sockets ++ [.connecting] },
     [.created t.sockets.length (convertZkUrl t.config.url), .returned (.ok none)])
  else (t, [.returned (.error "SyntaxError")])

/-- `disconnect`: close the current socket, then reset the state, the
socket, the queue and the reconnect counter. -/
def disconnect (t : WebSocketTransport) : WebSocketTransport × List Effect :=
  ({ t with state := .disconnected, websocket := none, sockets := closeCurrent t.websocket t.sockets,
            messageQueue := [], reconnectAttempts := 0 },
   (match t.websocket with | some s => [.closeRequested s] | none => []) ++ [.returned (.ok none)])

/-- `send`: a binary frame on the current socket, as its `readyState`
lets it go. -/
def send (t : WebSocketTransport) (data : List UInt8) : WebSocketTransport × List Effect :=
  match t.websocket with
  | some s =>
    match (readyState t.sockets s).send with
    | .ok true => (t, [.sent s data, .returned (.ok none)])
    | .ok false => (t, [.returned (.ok none)])
    | .error e => (t, [.returned (.error e)])
  | none => (t, [.returned (.error "Not connected")])

/-- `receive`: the oldest queued payload. -/
def receive (t : WebSocketTransport) : WebSocketTransport × List Effect :=
  match t.messageQueue with
  | d :: rest => ({ t with messageQueue := rest }, [.returned (.ok (some d))])
  | [] => (t, [.returned (.ok none)])

/-- The `onclose` callback: state `Disconnected`, and one more reconnection
attempt scheduled while the counter is below the maximum. -/
def onClose (t : WebSocketTransport) : WebSocketTransport × List Effect :=
  if t.reconnectAttempts < t.config.maxReconnectAttempts then
    ({ t with state := .disconnected, reconnectAttempts := t.reconnectAttempts + 1 },
     [.reconnectScheduled t.config.reconnectDelayMs])
  else ({ t with state := .disconnected }, [])

/-- The callbacks `setup_event_handlers` installs: `onopen`, `onmessage`
(binary payloads only), `onerror`, `onclose`. -/
def onEvent (t : WebSocketTransport) : SocketEvent → WebSocketTransport × List Effect
  | .opened => ({ t with state := .connected, reconnectAttempts := 0 }, [])
  | .message (.binary d) => ({ t with messageQueue := t.messageQueue ++ [d] }, [])
  | .message (.text _) => (t, [])
  | .errored => ({ t with state := .error }, [])
  | .closed => onClose t

/-- One step of a run: an event first moves its socket's `readyState`,
then runs the callback. -/
def step (t : WebSocketTransport) : Action → WebSocketTransport × List Effect
  | .connect created => connect t created
  | .disconnect => disconnect t
  | .send data => send t data
  | .receive => receive t
  | .event s e => onEvent { t with sockets := raise t.sockets s e } e

/-- The transport after a run. -/
def run (t : WebSocketTransport) : List Action → WebSocketTransport
  | [] => t
  | a :: as => run (step t a).1 as

/-- Everything a run did outside the transport, in order. -/
def trace (t : WebSocketTransport) : List Action → List Effect
  | [] => []
  | a :: as => (step t a).2 ++ trace (step t a).1 as

end WebSocketTransport

end Zks.Wasm
