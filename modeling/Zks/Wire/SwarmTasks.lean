/-
Zks.Wire.SwarmTasks — `SwarmController` calls running concurrently on one
controller, their steps interleaved at their await points.

Each task runs one call. Its program counter (`TaskPc`) is the await point
it is suspended at, holding what the rest of the call needs, as the future
the `async fn` compiles to does. A step runs a task from one await point to
the next; `Swarm.run` runs a schedule of task indices, and a task that
cannot move (blocked on the slot's write guard, or finished) stays where it
is.

The three cells are separate locks, but only the slot's write guard is
held across an await: `join_room`, `discover_peers` and `get_swarm_entropy`
keep it (a temporary of the `if let` scrutinee) from before the request is
sent until the reply has been read, `holder` names the task holding it.
Every other access takes a guard and drops it within one step:

* `connect`: write the peer id and dial (`start`), store the client under
  the guard (`store`), write the flag (`writeFlag`);
* `disconnect`: take the client under the guard (`start`), write the flag;
* a delegating call: take the guard, or return `NotConnected` on an empty
  slot (`start`), send the request (`send`), read the reply (`receive`),
  drop the guard (`release`); `build_onion_circuit` checks its hop bounds
  first and runs the rest of its body after the guard is dropped.

`log` records each operation on the slot, with the task that made it.
-/
import Zks.Wire.SwarmController

namespace Zks.Wire

/-- How a delegating call uses the client under the guard: the request it
sends (from the client, whose peer id `join_room` puts in it), the context
of its errors, and, unless it reads no reply, what it returns for the reply
`receive_message` gave. -/
structure Protocol where
  request : SignalingClient → SignalingMessage
  context : String
  onReply : Option (Except SignalingError SignalingMessage → Except SwarmControllerError CallResult)

/-- The wrapping of a client error by the controller. -/
def wrapError {α : Type} (context : String) : Except SignalingError α → Except SwarmControllerError α
  | .ok a => .ok a
  | .error e => .error (.signalingError (context ++ ": " ++ e.toString))

/-- Where a task stands in its call. -/
inductive TaskPc where
  /-- Not started. -/
  | start
  /-- `connect`: dialled; the client is to be stored. -/
  | store (client : SignalingClient)
  /-- `connect` or `disconnect`: the flag is to be written. -/
  | writeFlag (value : Bool)
  /-- Holding the guard; the request is to be sent. -/
  | send (p : Protocol)
  /-- Holding the guard; the reply is to be read. -/
  | receive (onReply : Except SignalingError SignalingMessage → Except SwarmControllerError CallResult)
  /-- Holding the guard; done with the client. -/
  | release (r : Except SwarmControllerError CallResult)
  /-- Returned. -/
  | done (r : Except SwarmControllerError CallResult)

/-- An operation on the signaling client slot, by a task. -/
inductive Traffic where
  | sent (task : Nat)
  | received (task : Nat)
  | stored (task : Nat)
  | taken (task : Nat)
  deriving DecidableEq, Repr

/-- The task that made an operation. -/
def Traffic.task : Traffic → Nat
  | .sent i => i
  | .received i => i
  | .stored i => i
  | .taken i => i

/-- The controller with its tasks. -/
structure Swarm where
  ctl : SwarmController
  holder : Option Nat
  tasks : List (ControllerCall × TaskPc)
  log : List Traffic

/-! ## The calls' protocols -/

/-- `join_room(room_id, capabilities)` under the guard. -/
def ControllerCall.joinProtocol (roomId : String) (capabilities : PeerCapabilities) (now : UInt64) :
    Protocol where
  request c := .join roomId
    { peerId := c.peerId, publicKey := [], capabilities, lastSeen := now, addresses := [] }
  context := "Failed to join room"
  onReply := none

/-- `discover_peers(room_id)` under the guard; `finish` is what the caller
makes of the peers. -/
def ControllerCall.discoverProtocol (roomId : String)
    (finish : List PeerInfo → Except SwarmControllerError CallResult) : Protocol where
  request _ := .discover roomId
  context := "Failed to discover peers"
  onReply := some fun res =>
    (wrapError "Failed to discover peers" (res.bind SignalingClient.peersReply)).bind finish

/-- `get_swarm_entropy(room_id)` under the guard. -/
def ControllerCall.entropyProtocol (roomId requestId : String) : Protocol where
  request _ := .entropyRequest roomId requestId
  context := "Failed to get swarm entropy"
  onReply := some fun res =>
    (wrapError "Failed to get swarm entropy" (res.bind (SignalingClient.entropyReply requestId))).map
      .entropy

/-- `build_onion_circuit` once its hop bounds pass: `discover_peers` of
room `"default"`, then the path. -/
def ControllerCall.buildProtocol (platform : Platform) (targetPeer : String) (maxHops : UInt8)
    (shuffle : List Nat) (uuid : String) : Protocol :=
  ControllerCall.discoverProtocol "default" fun ps =>
    (SwarmController.planCircuit platform targetPeer maxHops ps shuffle uuid).map fun plan =>
      .circuitId plan.2

/-! ## Steps -/

namespace Swarm

/-- Take the guard for protocol `p`, or return `NotConnected` on an empty
slot; blocked while another task holds the guard. -/
def acquire (ctl : SwarmController) (holder : Option Nat) (i : Nat) (p : Protocol) :
    Option (SwarmController × Option Nat × TaskPc × List Traffic) :=
  match holder with
  | some _ => none
  | none =>
    match ctl.signalingClient with
    | none => some (ctl, none, .done (.error .notConnected), [])
    | some _ => some (ctl, some i, .send p, [])

/-- Where `connect` goes once `SignalingClient::connect` returned. -/
def dial (localPeerId : String) (attempt : Except String WsStream) : TaskPc :=
  match SignalingClient.connect localPeerId attempt with
  | .error e =>
    .done (.error (.signalingError ("Failed to connect to signaling server: " ++ e.toString)))
  | .ok client => .store client

/-- Where a delegating call goes once its request was sent, or not. -/
def afterSend (p : Protocol) : Except SignalingError Unit → TaskPc
  | .error e => .release (wrapError p.context (.error e))
  | .ok () =>
    match p.onReply with
    | none => .release (.ok .unit)
    | some f => .receive f

/-- One step of task `i` running call `k` from `pc`: the new controller,
guard holder, program counter and slot operations, or `none` when the task
cannot move. -/
def advance (ctl : SwarmController) (holder : Option Nat) (i : Nat) (k : ControllerCall) :
    TaskPc → Option (SwarmController × Option Nat × TaskPc × List Traffic)
  | .start =>
    match k with
    | .connect p a => some ({ ctl with localPeerId := some p }, holder, dial p a, [])
    | .disconnect =>
      match holder with
      | some _ => none
      | none => some ({ ctl with signalingClient := none }, none, .writeFlag false, [.taken i])
    | .joinRoom r caps now => acquire ctl holder i (ControllerCall.joinProtocol r caps now)
    | .discoverPeers r => acquire ctl holder i (ControllerCall.discoverProtocol r fun ps => .ok (.peers ps))
    | .getSwarmEntropy r q => acquire ctl holder i (ControllerCall.entropyProtocol r q)
    | .buildOnionCircuit t lo hi sh u =>
      match SwarmController.checkHops ctl.platform lo hi with
      | .error e => some (ctl, holder, .done (.error e), [])
      | .ok () => acquire ctl holder i (ControllerCall.buildProtocol ctl.platform t hi sh u)
  | .store client =>
    match holder with
    | some _ => none
    | none => some ({ ctl with signalingClient := some client }, none, .writeFlag true, [.stored i])
  | .writeFlag b => some ({ ctl with isConnected := b }, holder, .done (.ok .unit), [])
  | .send p =>
    match ctl.signalingClient with
    | none => none
    | some c =>
      some ({ ctl with signalingClient := some (c.sendMessage (p.request c)).1 }, holder,
        afterSend p (c.sendMessage (p.request c)).2, [.sent i])
  | .receive f =>
    match ctl.signalingClient with
    | none => none
    | some c =>
      some ({ ctl with signalingClient := some c.receiveMessage.1 }, holder,
        .release (f c.receiveMessage.2), [.received i])
  | .release r => some (ctl, none, .done r, [])
  | .done _ => none

/-- Task `i` takes one step, if it can. -/
def step (s : Swarm) (i : Nat) : Swarm :=
  match s.tasks[i]? with
  | none => s
  | some (k, pc) =>
    match advance s.ctl s.holder i k pc with
    | none => s
    | some (ctl, holder, pc, out) =>
      { ctl, holder, tasks := s.tasks.set i (k, pc), log := s.log ++ out }

/-- A schedule of steps. -/
def run (s : Swarm) : List Nat → Swarm
  | [] => s
  | i :: is => run (s.step i) is

/-- The calls `calls` started on `ctl`, none of them begun. -/
def init (ctl : SwarmController) (calls : List ControllerCall) : Swarm :=
  { ctl, holder := none, tasks := calls.map fun k => (k, .start), log := [] }

/-- What task `i` returned, once it has. -/
def result? (s : Swarm) (i : Nat) : Option (Except SwarmControllerError CallResult) :=
  match s.tasks[i]? with
  | some (_, .done r) => some r
  | _ => none

end Swarm

end Zks.Wire
