/-
Zks.Uniffi.MeetTasks — `ZksMeetClient` calls made from several threads at
once, their steps interleaved at their await points.

The bindings hand the client out as an `Arc`, and each method blocks its
own thread on the client's runtime, so calls made from different threads
interleave wherever one of them awaits. A task runs one call; its program
counter (`TaskPc`) is the await point it is suspended at. A step runs a
task from one await point to the next; `run` runs a schedule of task
indices, and a task that cannot move (waiting for the slot's write guard,
or returned) stays where it is.

The state and the signaling client slot are separate `RwLock`s. A guard on
the state is never held across an await, so each access to the state is
one step. The slot's write guard is: `find_match` and `skip` take it and
keep it across their signaling calls until they return; `holder` names the
task holding it. The steps, one per await:

* `connect_matchmaking`: write `Matching` (`start`), dial (`dial`), take
  the guard and store the client (`store`);
* `disconnect`: write `Disconnected` (`start`), take the guard and empty
  the slot (`clear`);
* `send`, `receive`: read the state (`start`);
* `skip`: read the state (`start`), take the guard, with `NotConnected`
  on an empty slot (`lock`), discover (`discover`), write the peer found
  (`adopt`);
* `find_match`: write `Matching` (`start`), take the guard (`lock`), dial
  and store the client if the slot was empty (`dial`), join (`join`),
  discover (`discover`), write the peer found (`adopt`).

A failure returns at once, and a task that held the guard drops it.
-/
import Zks.Uniffi.MeetClient

namespace Zks.Uniffi

open Wire

/-- Where a task stands in its call. -/
inductive TaskPc where
  /-- Not started. -/
  | start
  /-- `connect_matchmaking` or `find_match`: the dial is to be made. -/
  | dial
  /-- `connect_matchmaking`: dialled; the client is to be stored. -/
  | store (client : SignalingClient)
  /-- `disconnect`: the slot is to be emptied. -/
  | clear
  /-- `skip` or `find_match`: the guard is to be taken. -/
  | lock
  /-- `find_match`, holding the guard: the room is to be joined. -/
  | join
  /-- `skip` or `find_match`, holding the guard: peers are to be
  discovered. -/
  | discover
  /-- Holding the guard; the peer found is to be written to the state. -/
  | adopt (peer : PeerInfo)
  /-- Returned. -/
  | done (r : Except ZksError ZksMeetClient.Reply)
  deriving DecidableEq, Repr

/-- The meet client with the tasks calling it. -/
structure MeetTasks where
  client : ZksMeetClient
  holder : Option Nat
  tasks : List (ZksMeetClient.Action × TaskPc)
  deriving DecidableEq, Repr

namespace MeetTasks

/-- The text `skip` and `find_match` fail with when no peer is found. -/
def noPeers : ZksMeetClient.Action → String
  | .skip => "No more peers available"
  | _ => "No matching peers found"

/-- A failure of a task holding the guard: it returns the error and drops
the guard. -/
def fail (c : ZksMeetClient) (e : ZksError) : Option (ZksMeetClient × Option Nat × TaskPc) :=
  some (c, none, .done (.error e))

/-- One step of task `i` running call `k` from `pc`: the new client, guard
holder and program counter, or `none` when the task cannot move. -/
def advance (c : ZksMeetClient) (holder : Option Nat) (i : Nat) :
    ZksMeetClient.Action → TaskPc → Option (ZksMeetClient × Option Nat × TaskPc)
  | .connectMatchmaking _, .start => some ({ c with state := .matching }, holder, .dial)
  | .connectMatchmaking a, .dial =>
    match SignalingClient.connect c.peerId a with
    | .error e => some (c, holder, .done (.error (signalingErrorToZksError e)))
    | .ok client => some (c, holder, .store client)
  | .connectMatchmaking _, .store client =>
    match holder with
    | some _ => none
    | none => some ({ c with signalingClient := some client }, none, .done (.ok .unit))
  | .send d, .start => some (c, holder, .done ((c.send d).map fun _ => .unit))
  | .receive, .start => some (c, holder, .done (c.receive.map .bytes))
  | .skip, .start =>
    match c.state with
    | .connected _ => some (c, holder, .lock)
    | _ => some (c, holder, .done (.error .notConnected))
  | .skip, .lock =>
    match holder, c.signalingClient with
    | some _, _ => none
    | none, some _ => some (c, some i, .discover)
    | none, none => some (c, none, .done (.error .notConnected))
  | .disconnect, .start => some ({ c with state := .disconnected }, holder, .clear)
  | .disconnect, .clear =>
    match holder with
    | some _ => none
    | none => some ({ c with signalingClient := none }, none, .done (.ok .unit))
  | .findMatch _ _ _, .start => some ({ c with state := .matching }, holder, .lock)
  | .findMatch _ _ _, .lock =>
    match holder, c.signalingClient with
    | some _, _ => none
    | none, none => some (c, some i, .dial)
    | none, some _ => some (c, some i, .join)
  | .findMatch _ a _, .dial =>
    match SignalingClient.connect c.peerId a with
    | .error e => fail c (signalingErrorToZksError e)
    | .ok client => some ({ c with signalingClient := some client }, some i, .join)
  | .findMatch interests _ now, .join =>
    match c.signalingClient with
    | none => fail c (.connectionFailed "Failed to create signaling client")
    | some client =>
      let capabilities := { PeerCapabilities.default with supportedProtocols := interests }
      match client.joinRoom "zks-meet-global" capabilities now with
      | (client, .error e) => fail { c with signalingClient := some client } (signalingErrorToZksError e)
      | (client, .ok ()) => some ({ c with signalingClient := some client }, some i, .discover)
  | k, .discover =>
    match c.signalingClient with
    | none => fail c .notConnected
    | some client =>
      let (client, r) := client.discoverPeers "zks-meet-global"
      match firstPeer (noPeers k) r with
      | .error e => fail { c with signalingClient := some client } e
      | .ok p => some ({ c with signalingClient := some client }, some i, .adopt p)
  | _, .adopt p => some ({ c with state := .connected p }, none, .done (.ok (.peer p)))
  | _, _ => none

/-- Task `i` takes one step, if it can. -/
def step (m : MeetTasks) (i : Nat) : MeetTasks :=
  match m.tasks[i]? with
  | none => m
  | some (k, pc) =>
    match advance m.client m.holder i k pc with
    | none => m
    | some (c, holder, pc) => { client := c, holder, tasks := m.tasks.set i (k, pc) }

/-- A schedule of steps. -/
def run (m : MeetTasks) : List Nat → MeetTasks
  | [] => m
  | i :: is => (m.step i).run is

/-- The calls `calls` made at once on client `c`, none started. -/
def init (c : ZksMeetClient) (calls : List ZksMeetClient.Action) : MeetTasks :=
  { client := c, holder := none, tasks := calls.map fun k => (k, .start) }

/-- What task `i` returned, once it has. -/
def result? (m : MeetTasks) (i : Nat) : Option (Except ZksError ZksMeetClient.Reply) :=
  match m.tasks[i]? with
  | some (_, .done r) => some r
  | _ => none

end MeetTasks

end Zks.Uniffi
