/-
Zks.Wasm.OnionTransportTheorems — the circuit map, the inbound queue and the
connection state of `BrowserOnionTransport` over every run.

## How the proofs go

Each of the three pieces of shared state has one lemma saying what a single
call or event does to it: `step_circuits` (a `build_circuit` whose
descriptors parse registers its circuit, `disconnect()`, `teardown_circuit`
and a received `CircuitTornDown`/`TearDownCircuit` remove it, nothing else
touches it), `step_queue` (a received `DataReceived` appends, a
`receive_from_circuit` pops and returns, `disconnect()` empties) and
`step_state`. Induction over the run lifts each to a characterisation of
the state after any run, stated against the run's history:

* `Live h c` — some call in `h` registered `c` and nothing after it removed
  `c`. `circuits_run` says the map holds exactly the live circuits.
* `arrivals h` and `returnedPayloads` — what `DataReceived` frames brought
  and what `receive_from_circuit` handed out. `queue_run` relates them to
  the queue.

None of the three mentions a socket: the callbacks of a socket that a later
`connect()` replaced, or that `disconnect()` released, act on the shared
state exactly as the current socket's do.
-/
import Mathlib
import Zks.Wasm.OnionTransport
import Zks.Wasm.TransportTheorems

namespace Zks.Wasm.BrowserOnionTransport

/-! ## The history predicates -/

/-- A call that registers circuit `c`: a `build_circuit` for `c` whose
descriptors all parse, whether or not its `BuildCircuit` then goes out. -/
def Action.registers (c : String) : Action → Bool
  | .buildCircuit hops id => c == id && (parseHops hops).isOk
  | _ => false

/-- A received text that removes circuit `c` from the map. -/
def removesOnReceipt (c : String) (s : String) : Bool :=
  match OnionMessage.fromText s with
  | .ok (.circuitTornDown c') => c == c'
  | .ok (.tearDownCircuit c') => c == c'
  | _ => false

/-- A call or event that removes circuit `c`: `disconnect()`,
`teardown_circuit(c)`, and a received `CircuitTornDown{c}` or
`TearDownCircuit{c}` on any socket. -/
def Action.unregisters (c : String) : Action → Bool
  | .disconnect => true
  | .teardownCircuit id => c == id
  | .event _ (.message (.text s)) => removesOnReceipt c s
  | _ => false

/-- Circuit `c` is live after history `h`: a call of `h` registered it and
no later call or event removed it. -/
def Live (h : List Action) (c : String) : Prop :=
  ∃ pre a post, h = pre ++ a :: post ∧ a.registers c = true ∧
    ∀ b ∈ post, b.unregisters c = false

/-- The payload a received frame queues: the data of a `DataReceived`. -/
def queuedPayload : MessageData → Option (List UInt8)
  | .text s =>
    match OnionMessage.fromText s with
    | .ok (.dataReceived _ d) => some d
    | _ => none
  | .binary _ => none

/-- The payload an action brings in, if any. -/
def Action.arrival : Action → Option (List UInt8)
  | .event _ (.message m) => queuedPayload m
  | _ => none

/-- The payloads the `DataReceived` frames of a history brought, in
arrival order, whatever their circuit. -/
def arrivals (h : List Action) : List (List UInt8) := h.filterMap Action.arrival

/-- The payloads `receive_from_circuit` calls returned, in order. -/
def returnedPayloads : List Effect → List (List UInt8)
  | [] => []
  | .returned (.ok (.payload (some d))) :: es => d :: returnedPayloads es
  | _ :: es => returnedPayloads es

/-- The state a call or event sets, if it sets one. -/
def Action.setsState : Action → Option TransportState
  | .connect true => some .connecting
  | .disconnect => some .disconnected
  | .event _ .opened => some .connected
  | .event _ .errored => some .error
  | .event _ .closed => some .disconnected
  | _ => none

/-! ## Runs -/

@[simp] theorem run_nil (t : BrowserOnionTransport) : run t [] = t := rfl

@[simp] theorem run_cons (t : BrowserOnionTransport) (a : Action) (as : List Action) :
    run t (a :: as) = run (step t a).1 as := rfl

@[simp] theorem trace_nil (t : BrowserOnionTransport) : trace t [] = [] := rfl

@[simp] theorem trace_cons (t : BrowserOnionTransport) (a : Action) (as : List Action) :
    trace t (a :: as) = (step t a).2 ++ trace (step t a).1 as := rfl

theorem run_append (t : BrowserOnionTransport) (h₁ h₂ : List Action) :
    run t (h₁ ++ h₂) = run (run t h₁) h₂ := by
  induction h₁ generalizing t <;> simp [*]

/-- What `send_onion_message` can do: hand its message to the current
socket, drop it, or fail. -/
theorem sendOnionMessage_cases (t : BrowserOnionTransport) (m : OnionMessage) :
    (∃ s, t.websocket = some s ∧ sendOnionMessage t m = ([.sent s m], .ok ())) ∨
      sendOnionMessage t m = ([], .ok ()) ∨ ∃ e, sendOnionMessage t m = ([], .error e) := by
  unfold sendOnionMessage
  cases t.websocket with
  | none => exact .inr (.inr ⟨_, rfl⟩)
  | some s => cases h : readyState t.sockets s <;> simp [h, ReadyState.send]

/-- An effect of a run comes from one of its steps. -/
theorem mem_trace {t : BrowserOnionTransport} {e : Effect} {h : List Action}
    (he : e ∈ trace t h) : ∃ pre a post, h = pre ++ a :: post ∧ e ∈ (step (run t pre) a).2 := by
  induction h generalizing t with
  | nil => simp at he
  | cons a as ih =>
    rcases List.mem_append.1 he with he | he
    · exact ⟨[], a, as, rfl, he⟩
    · obtain ⟨pre, b, post, rfl, hb⟩ := ih he
      exact ⟨a :: pre, b, post, rfl, hb⟩

/-! ## The circuit map -/

@[simp] theorem insertCircuit_apply (m : String → Option OnionCircuit) (id k : String)
    (c : OnionCircuit) : insertCircuit m id c k = if k = id then some c else m k := rfl

@[simp] theorem removeCircuit_apply (m : String → Option OnionCircuit) (id k : String) :
    removeCircuit m id k = if k = id then none else m k := rfl

/-- What one call or event does to the map at `c`. -/
theorem step_circuits (t : BrowserOnionTransport) (a : Action) (c : String) :
    ((step t a).1.circuits c).isSome =
      (a.registers c || (!a.unregisters c && (t.circuits c).isSome)) := by
  cases a with
  | connect cr => cases cr <;> simp [step, connect, Action.registers, Action.unregisters]
  | buildCircuit hops id =>
    simp only [step, buildCircuit, Action.registers, Action.unregisters]
    cases parseHops hops <;> by_cases hc : c = id <;> simp [hc, Except.isOk, Except.toBool]
  | sendThroughCircuit id d =>
    simp only [step, sendThroughCircuit]; split <;> simp [Action.registers, Action.unregisters]
  | receiveFromCircuit id =>
    simp only [step, receiveFromCircuit]; split <;> simp [Action.registers, Action.unregisters]
  | teardownCircuit id =>
    by_cases hc : c = id <;>
      simp [step, teardownCircuit, hc, Action.registers, Action.unregisters]
  | disconnect => simp [step, disconnect, Action.registers, Action.unregisters]
  | event s e =>
    cases e with
    | message m =>
      cases m with
      | binary d => simp [step, onEvent, onMessage, Action.registers, Action.unregisters]
      | text txt =>
        simp only [step, onEvent, onMessage, Action.registers, Action.unregisters,
          removesOnReceipt]
        split <;> simp_all <;> split_ifs with hc <;> simp [hc]
    | _ => simp [step, onEvent, Action.registers, Action.unregisters]

/-- Liveness after one more call at the front of the history. -/
theorem live_cons (a : Action) (as : List Action) (c : String) :
    Live (a :: as) c ↔ Live as c ∨ (a.registers c = true ∧ ∀ b ∈ as, b.unregisters c = false) := by
  constructor
  · rintro ⟨pre, x, post, heq, hx, hpost⟩
    cases pre with
    | nil =>
      obtain ⟨rfl, rfl⟩ := List.cons.inj heq
      exact .inr ⟨hx, hpost⟩
    | cons y pre =>
      obtain ⟨rfl, rfl⟩ := List.cons.inj heq
      exact .inl ⟨pre, x, post, rfl, hx, hpost⟩
  · rintro (⟨pre, x, post, rfl, hx, hpost⟩ | ⟨ha, has⟩)
    · exact ⟨a :: pre, x, post, rfl, hx, hpost⟩
    · exact ⟨[], a, as, rfl, ha, has⟩

/-- The map after a run from any transport: the circuits the run made live,
and those already there that nothing in the run removed. -/
theorem circuits_run_from (t : BrowserOnionTransport) (h : List Action) (c : String) :
    ((run t h).circuits c).isSome = true ↔
      Live h c ∨ ((t.circuits c).isSome = true ∧ ∀ b ∈ h, b.unregisters c = false) := by
  induction h generalizing t with
  | nil => simp [Live]
  | cons a as ih =>
    rw [run_cons, ih, step_circuits, live_cons, List.forall_mem_cons]
    simp only [Bool.or_eq_true, Bool.and_eq_true, Bool.not_eq_true']
    tauto

/-- **The circuit map holds exactly the live circuits**, after every run
from `new`. -/
theorem circuits_run (url : String) (m : UInt32) (h : List Action) (c : String) :
    ((run (new url m) h).circuits c).isSome = true ↔ Live h c := by
  simp [circuits_run_from, new]

/-! ## The inbound queue -/

@[simp] theorem returnedPayloads_nil : returnedPayloads [] = [] := rfl

@[simp] theorem returnedPayloads_append (e₁ e₂ : List Effect) :
    returnedPayloads (e₁ ++ e₂) = returnedPayloads e₁ ++ returnedPayloads e₂ := by
  induction e₁ with
  | nil => rfl
  | cons e es ih =>
    rcases e with _ | _ | _ | (_ | (_ | _ | (_ | _))) <;> simp [returnedPayloads, ih]

/-- A call that ends in `send_onion_message` returns no payload. -/
@[simp] theorem returnedPayloads_afterSend_unit (t : BrowserOnionTransport) (m : OnionMessage) :
    returnedPayloads (afterSend t m .unit) = [] := by
  rcases sendOnionMessage_cases t m with ⟨s, -, h⟩ | h | ⟨e, h⟩ <;> simp [afterSend, h, returnedPayloads]

@[simp] theorem returnedPayloads_afterSend_circuitId (t : BrowserOnionTransport)
    (m : OnionMessage) (id : String) :
    returnedPayloads (afterSend t m (.circuitId id)) = [] := by
  rcases sendOnionMessage_cases t m with ⟨s, -, h⟩ | h | ⟨e, h⟩ <;> simp [afterSend, h, returnedPayloads]

/-- What one call or event does to the queue: `disconnect()` empties it;
otherwise what the step returns, followed by the queue after it, is the
queue before it followed by what the step brought in. -/
theorem step_queue (t : BrowserOnionTransport) (a : Action) :
    (a = .disconnect ∧ (step t a).1.messageQueue = [] ∧ returnedPayloads (step t a).2 = []) ∨
    (a ≠ .disconnect ∧ returnedPayloads (step t a).2 ++ (step t a).1.messageQueue =
      t.messageQueue ++ a.arrival.toList) := by
  cases a with
  | disconnect =>
    left; cases hw : t.websocket <;> simp [step, disconnect, returnedPayloads, hw]
  | connect cr => right; cases cr <;> simp [step, connect, returnedPayloads, Action.arrival]
  | buildCircuit hops id =>
    right; simp only [step, buildCircuit]
    split <;> simp [returnedPayloads, Action.arrival]
  | sendThroughCircuit id d =>
    right; simp only [step, sendThroughCircuit]
    split <;> simp [returnedPayloads, Action.arrival]
  | receiveFromCircuit id =>
    right; simp only [step, receiveFromCircuit]
    split <;> simp_all [returnedPayloads, Action.arrival]
  | teardownCircuit id =>
    right; simp [step, teardownCircuit, Action.arrival]
  | event s e =>
    right
    cases e with
    | message m =>
      cases m with
      | binary d => simp [step, onEvent, onMessage, returnedPayloads, Action.arrival, queuedPayload]
      | text txt =>
        simp only [step, onEvent, onMessage, Action.arrival, queuedPayload]
        split <;> simp_all [returnedPayloads]
    | _ => simp [step, onEvent, returnedPayloads, Action.arrival]

theorem arrivals_cons (a : Action) (as : List Action) :
    arrivals (a :: as) = a.arrival.toList ++ arrivals as := by
  cases h : a.arrival <;> simp [arrivals, List.filterMap_cons, h]

/-- Over a stretch without `disconnect()`, what the calls returned followed
by the queue is the queue before followed by the arrivals: no payload is
lost, reordered or handed out twice. -/
theorem queue_run (t : BrowserOnionTransport) (h : List Action) (hd : ∀ a ∈ h, a ≠ .disconnect) :
    returnedPayloads (trace t h) ++ (run t h).messageQueue = t.messageQueue ++ arrivals h := by
  induction h generalizing t with
  | nil => simp [arrivals]
  | cons a as ih =>
    rcases step_queue t a with ⟨ha, -⟩ | ⟨-, hq⟩
    · exact absurd ha (hd a (by simp))
    · rw [trace_cons, run_cons, returnedPayloads_append, List.append_assoc,
        ih _ (fun b hb => hd b (by simp [hb])), ← List.append_assoc, hq, arrivals_cons,
        List.append_assoc]

/-- Over any stretch, what the calls returned followed by the queue is a
sublist of the queue before followed by the arrivals: `disconnect()` may
drop queued payloads, nothing else changes or repeats them. -/
theorem queue_run_sublist (t : BrowserOnionTransport) (h : List Action) :
    List.Sublist (returnedPayloads (trace t h) ++ (run t h).messageQueue)
      (t.messageQueue ++ arrivals h) := by
  induction h generalizing t with
  | nil => simp [arrivals]
  | cons a as ih =>
    rw [trace_cons, run_cons, returnedPayloads_append, List.append_assoc, arrivals_cons]
    rcases step_queue t a with ⟨rfl, hq, hr⟩ | ⟨-, hq⟩
    · have := ih (step t .disconnect).1
      rw [hq, List.nil_append] at this
      rw [hr, List.nil_append]
      exact this.trans (List.sublist_append_right _ _)
    · rw [← List.append_assoc t.messageQueue, ← hq, List.append_assoc]
      exact (ih _).append_left _

/-! ## The connection state -/

/-- Each step sets the state its call or event sets, and leaves it
otherwise. -/
theorem step_state (t : BrowserOnionTransport) (a : Action) :
    (step t a).1.state = a.setsState.getD t.state := by
  cases a with
  | connect c => cases c <;> rfl
  | buildCircuit hops id => simp only [step, buildCircuit]; split <;> rfl
  | sendThroughCircuit id d => simp only [step, sendThroughCircuit]; split <;> rfl
  | receiveFromCircuit id => simp only [step, receiveFromCircuit]; split <;> rfl
  | teardownCircuit id => rfl
  | disconnect => rfl
  | event _ e =>
    cases e with
    | message d =>
      cases d with
      | binary b => rfl
      | text s => simp only [step, onEvent, onMessage]; split <;> rfl
    | _ => rfl

/-- The state after a run is the one the last state-setting call or event
set, whichever socket raised it. -/
theorem state_run (t : BrowserOnionTransport) (h : List Action) :
    (run t h).state = (h.reverse.findSome? Action.setsState).getD t.state := by
  induction h generalizing t with
  | nil => rfl
  | cons a as ih =>
    rw [run_cons, ih, step_state, List.reverse_cons, List.findSome?_append]
    cases as.reverse.findSome? Action.setsState <;> cases hf : a.setsState <;>
      simp [List.findSome?, hf]

/-! ## Socket identity -/

/-- The same run with the sockets of its events renamed by `f`. -/
def Action.relabel (f : Nat → Nat) : Action → Action
  | .event s e => .event (f s) e
  | a => a

/-- The callbacks never read the `readyState`s. -/
theorem onEvent_sockets (t : BrowserOnionTransport) (rs : List ReadyState) (e : SocketEvent) :
    onEvent { t with sockets := rs } e = { onEvent t e with sockets := rs } := by
  cases e with
  | message d =>
    cases d with
    | binary _ => rfl
    | text txt => simp only [onEvent, onMessage]; split <;> rfl
  | _ => rfl

/-- A step with its event's socket renamed, from other `readyState`s of as
many sockets, leaves the transport as the step itself does but for the
`readyState`s. -/
theorem step_relabel (t : BrowserOnionTransport) (f : Nat → Nat) (a : Action) (rs : List ReadyState)
    (hrs : rs.length = t.sockets.length) :
    ∃ rs', rs'.length = (step t a).1.sockets.length ∧
      (step { t with sockets := rs } (a.relabel f)).1 = { (step t a).1 with sockets := rs' } := by
  cases a with
  | connect c =>
    cases c
    · exact ⟨rs, hrs, rfl⟩
    · exact ⟨rs ++ [.connecting], by simp [step, connect, hrs], by simp [step, connect, hrs, Action.relabel]⟩
  | buildCircuit hops id =>
    cases hp : parseHops hops <;>
      exact ⟨rs, by simp [step, buildCircuit, hp, hrs], by simp [step, buildCircuit, hp, Action.relabel]⟩
  | sendThroughCircuit id d =>
    exact ⟨rs, by simp [step, sendThroughCircuit, apply_ite, hrs],
      by simp [step, sendThroughCircuit, apply_ite, Action.relabel]⟩
  | receiveFromCircuit id =>
    cases hq : t.messageQueue <;>
      exact ⟨rs, by simp [step, receiveFromCircuit, hq, hrs], by simp [step, receiveFromCircuit, hq, Action.relabel]⟩
  | teardownCircuit id => exact ⟨rs, by simp [step, teardownCircuit, hrs], rfl⟩
  | disconnect => exact ⟨closeCurrent t.websocket rs, by simp [step, disconnect, hrs], rfl⟩
  | event s e =>
    refine ⟨raise rs (f s) e, ?_, ?_⟩
    · show _ = (onEvent { t with sockets := raise t.sockets s e } e).sockets.length
      rw [onEvent_sockets t (raise t.sockets s e)]
      simp [hrs]
    · show onEvent { t with sockets := raise rs (f s) e } e =
        { onEvent { t with sockets := raise t.sockets s e } e with sockets := raise rs (f s) e }
      rw [onEvent_sockets t (raise rs (f s) e), onEvent_sockets t (raise t.sockets s e)]

/-- Renaming the sockets that raised a run's events changes the transport
after it only in the `readyState`s. -/
theorem run_relabel (t : BrowserOnionTransport) (f : Nat → Nat) (h : List Action) (rs : List ReadyState)
    (hrs : rs.length = t.sockets.length) :
    ∃ rs', run { t with sockets := rs } (h.map (Action.relabel f)) = { run t h with sockets := rs' } := by
  induction h generalizing t rs with
  | nil => exact ⟨rs, rfl⟩
  | cons a as ih =>
    obtain ⟨rs', hl, hstep⟩ := step_relabel t f a rs hrs
    obtain ⟨rs'', hrun⟩ := ih (step t a).1 rs' hl
    exact ⟨rs'', by rw [List.map_cons, run_cons, run_cons, hstep, hrun]⟩

/-! ## Frames sent -/

/-- The only frame a call ending in `send_onion_message` sends is its
message, on the current socket. -/
theorem sent_of_mem_afterSend {t : BrowserOnionTransport} {m m' : OnionMessage} {r : Reply}
    {sock : Nat} (h : Effect.sent sock m' ∈ afterSend t m r) : m' = m ∧ t.websocket = some sock := by
  rcases sendOnionMessage_cases t m with ⟨s, hw, hs⟩ | hs | ⟨e, hs⟩ <;> simp_all [afterSend]

/-- A `ForwardData` frame comes only from `send_through_circuit` for its
circuit, and only while the circuit is in the map. -/
theorem step_sends_forwardData {t : BrowserOnionTransport} {a : Action} {sock : Nat}
    {c : String} {d : List UInt8} (he : Effect.sent sock (.forwardData c d) ∈ (step t a).2) :
    a = .sendThroughCircuit c d ∧ (t.circuits c).isSome = true := by
  cases a with
  | connect cr => cases cr <;> simp [step, connect] at he
  | buildCircuit hops id =>
    simp only [step, buildCircuit] at he
    split at he
    · simp at he
    · cases (sent_of_mem_afterSend he).1
  | sendThroughCircuit id d' =>
    simp only [step, sendThroughCircuit] at he
    split at he
    · cases (sent_of_mem_afterSend he).1
      exact ⟨rfl, by assumption⟩
    · simp at he
  | receiveFromCircuit id => simp only [step, receiveFromCircuit] at he; split at he <;> simp at he
  | teardownCircuit id => cases (sent_of_mem_afterSend he).1
  | disconnect => cases hw : t.websocket <;> simp [step, disconnect, hw] at he
  | event _ e => simp [step] at he

/-! ## Forwarding, stale sockets, and what the state does not govern -/

/-- Three well-formed hop descriptors, with one-, two- and three-byte keys. -/
def threeHops : List HopArg :=
  [.str "wss://r1,p1,QQ==", .str "wss://r2,p2,QUI=", .str "wss://r3,p3,QUJD"]

/-- A `ForwardData` on a socket that never carried the circuit's
`BuildCircuit`: the circuit is registered before any socket exists (its
`BuildCircuit` fails), then `connect()` and `send_through_circuit` forward
on socket 0. -/
theorem forward_without_build_on_socket :
    trace (new "relay" 3)
        [.buildCircuit threeHops "c", .connect true, .event 0 .opened, .sendThroughCircuit "c" [1]] =
      [.returned (.error "Not connected to relay"), .created 0 "wss://relay/onion",
        .returned (.ok .unit), .sent 0 (.forwardData "c" [1]), .returned (.ok .unit)] := by
  decide

/-- **`ForwardData` only on a live circuit.** Every `ForwardData{c}` a run
from `new` sends, on whichever socket, comes from a `send_through_circuit(c)`
call made while `c` was live: registered by a `build_circuit` since the last
`disconnect()` and not removed since. -/
theorem forward_data_on_live_circuit (url : String) (m : UInt32) (h : List Action)
    (sock : Nat) (c : String) (d : List UInt8)
    (hs : Effect.sent sock (.forwardData c d) ∈ trace (new url m) h) :
    ∃ pre post, h = pre ++ .sendThroughCircuit c d :: post ∧ Live pre c := by
  obtain ⟨pre, a, post, rfl, ha⟩ := mem_trace hs
  obtain ⟨rfl, hlive⟩ := step_sends_forwardData ha
  exact ⟨pre, post, rfl, (circuits_run url m pre c).1 hlive⟩

theorem forward_data_on_live_circuit_example :
    Effect.sent 0 (.forwardData "c" [1]) ∈ trace (new "relay" 3)
        [.connect true, .event 0 .opened, .buildCircuit threeHops "c", .sendThroughCircuit "c" [1]] ∧
      ∃ pre post, [.connect true, .event 0 .opened, .buildCircuit threeHops "c", .sendThroughCircuit "c" [1]] =
        pre ++ .sendThroughCircuit "c" [1] :: post ∧ Live pre "c" :=
  ⟨by decide, forward_data_on_live_circuit "relay" 3 _ 0 "c" [1] (by decide)⟩

/-- Events of sockets that are no longer current act on the shared state:
after `disconnect()` released socket 0 its `close` event still counts a
reconnection and schedules one; after a second `connect()` replaced socket 0
its `open` event still makes either transport `Connected`, though the
current socket 1 never opened, and a `send()` then throws on socket 1,
still `CONNECTING`. With socket 1's `open` in its place the same calls
send the frame. -/
theorem stale_socket_events_act :
    (WebSocketTransport.run (.new "zk://relay" 3) [.connect true, .disconnect]).websocket = none ∧
    WebSocketTransport.step (WebSocketTransport.run (.new "zk://relay" 3) [.connect true, .disconnect])
        (.event 0 .closed) =
      ({ WebSocketTransport.run (.new "zk://relay" 3) [.connect true, .disconnect] with
          sockets := [.closed], reconnectAttempts := 1 }, [.reconnectScheduled 1000]) ∧
    (run (new "relay" 3) [.connect true, .connect true, .event 0 .opened]).websocket = some 1 ∧
    (run (new "relay" 3) [.connect true, .connect true, .event 0 .opened]).state = .connected ∧
    (WebSocketTransport.run (.new "zk://relay" 3) [.connect true, .connect true, .event 0 .opened]).state =
      .connected ∧
    WebSocketTransport.trace (.new "zk://relay" 3) [.connect true, .connect true, .event 0 .opened, .send [1]] =
      [.created 0 "ws://relay", .returned (.ok none), .created 1 "ws://relay", .returned (.ok none),
        .returned (.error "InvalidStateError")] ∧
    WebSocketTransport.trace (.new "zk://relay" 3) [.connect true, .connect true, .event 1 .opened, .send [1]] =
      [.created 0 "ws://relay", .returned (.ok none), .created 1 "ws://relay", .returned (.ok none),
        .sent 1 [1], .returned (.ok none)] := by
  decide

/-- **Every socket's events act on the shared state.** For both
transports, `get_state()` after a run from `new` is the state set by the
run's last `connect()` that created a socket, `disconnect()`, or `open`,
`error` or `close` event of any socket (`Disconnected` if there is none).
Renaming the sockets that raised a run's events changes the transport
after the run only in the sockets' `readyState`s: the state, the queue,
the circuit map and the reconnect counter come out the same, and
`WebSocketTransport` schedules as many reconnections. -/
theorem state_set_by_last_event (url : String) (m : UInt32)
    (h₁ : List WebSocketTransport.Action) (h₂ : List Action) (f : Nat → Nat) :
    (WebSocketTransport.run (.new url m) h₁).state =
      (h₁.reverse.findSome? WebSocketTransport.Action.setsState).getD .disconnected ∧
    (∃ rs, WebSocketTransport.run (.new url m) (h₁.map (WebSocketTransport.Action.relabel f)) =
      { WebSocketTransport.run (.new url m) h₁ with sockets := rs }) ∧
    WebSocketTransport.schedules
        (WebSocketTransport.trace (.new url m) (h₁.map (WebSocketTransport.Action.relabel f))) =
      WebSocketTransport.schedules (WebSocketTransport.trace (.new url m) h₁) ∧
    (run (new url m) h₂).state = (h₂.reverse.findSome? Action.setsState).getD .disconnected ∧
    ∃ rs, run (new url m) (h₂.map (Action.relabel f)) = { run (new url m) h₂ with sockets := rs } := by
  obtain ⟨rs₁, hr₁, hs₁⟩ := WebSocketTransport.run_relabel (.new url m) f h₁ [] rfl
  obtain ⟨rs₂, hr₂⟩ := run_relabel (new url m) f h₂ [] rfl
  exact ⟨WebSocketTransport.state_run _ h₁, ⟨rs₁, hr₁⟩, hs₁, state_run _ h₂, rs₂, hr₂⟩

/-- The circuit map and the queue are not emptied with the state: a
`build_circuit` before any `connect()` leaves its circuit while
`Disconnected`, and a `close` event leaves a queued payload. -/
theorem circuit_and_payload_kept_while_disconnected :
    (run (new "relay" 3) [.buildCircuit threeHops "c"]).state = .disconnected ∧
    ((run (new "relay" 3) [.buildCircuit threeHops "c"]).circuits "c").isSome = true ∧
    (run (new "relay" 3) [.connect true, .event 0 .opened,
        .event 0 (.message (.text (OnionMessage.dataReceived "c" [7]).toText)),
        .event 0 .closed]).state = .disconnected ∧
    (run (new "relay" 3) [.connect true, .event 0 .opened,
        .event 0 (.message (.text (OnionMessage.dataReceived "c" [7]).toText)),
        .event 0 .closed]).messageQueue = [[7]] := by
  decide

/-- **The map and the queue ignore the connection state.** After any run
from `new` the map holds exactly the live circuits; over any further stretch
`post` without `disconnect()`, what `receive_from_circuit` returned followed
by the queue is the queue before followed by the `DataReceived` payloads
received; and `disconnect()` leaves `Disconnected` with an empty map and an
empty queue. -/
theorem circuits_and_queue_ignore_state (url : String) (m : UInt32) (pre post : List Action)
    (hpost : ∀ a ∈ post, a ≠ .disconnect) :
    (∀ c, ((run (new url m) (pre ++ post)).circuits c).isSome = true ↔ Live (pre ++ post) c) ∧
    returnedPayloads (trace (run (new url m) pre) post) ++
        (run (new url m) (pre ++ post)).messageQueue =
      (run (new url m) pre).messageQueue ++ arrivals post ∧
    (run (new url m) (pre ++ [.disconnect])).state = .disconnected ∧
    (∀ c, (run (new url m) (pre ++ [.disconnect])).circuits c = none) ∧
    (run (new url m) (pre ++ [.disconnect])).messageQueue = [] := by
  refine ⟨circuits_run url m _, by rw [run_append]; exact queue_run _ post hpost, ?_⟩
  rw [run_append]
  exact ⟨rfl, fun _ => rfl, rfl⟩

theorem circuits_and_queue_ignore_state_example :
    (∀ a ∈ [Action.connect true, .buildCircuit threeHops "c"], a ≠ .disconnect) ∧
    (∀ c, ((run (new "relay" 3) ([.disconnect] ++ [.connect true, .buildCircuit threeHops "c"])).circuits
        c).isSome = true ↔ Live ([.disconnect] ++ [.connect true, .buildCircuit threeHops "c"]) c) ∧
    returnedPayloads (trace (run (new "relay" 3) [.disconnect])
        [.connect true, .buildCircuit threeHops "c"]) ++
        (run (new "relay" 3) ([.disconnect] ++ [.connect true, .buildCircuit threeHops "c"])).messageQueue =
      (run (new "relay" 3) [.disconnect]).messageQueue ++
        arrivals [.connect true, .buildCircuit threeHops "c"] ∧
    (run (new "relay" 3) ([.disconnect] ++ [.disconnect])).state = .disconnected ∧
    (∀ c, (run (new "relay" 3) ([.disconnect] ++ [.disconnect])).circuits c = none) ∧
    (run (new "relay" 3) ([.disconnect] ++ [.disconnect])).messageQueue = [] :=
  ⟨by decide, circuits_and_queue_ignore_state "relay" 3 [.disconnect]
    [.connect true, .buildCircuit threeHops "c"] (by decide)⟩

/-- A payload that arrived for circuit `A` is handed to a reader of `B`. -/
theorem payload_crosses_circuits :
    trace (new "relay" 3) [.connect true,
        .event 0 (.message (.text (OnionMessage.dataReceived "A" [7]).toText)),
        .receiveFromCircuit "B"] =
      [.created 0 "wss://relay/onion", .returned (.ok .unit),
        .returned (.ok (.payload (some [7])))] := by
  decide

/-- **One FIFO queue for all circuits.** Over every run from `new`, the
payloads that successive `receive_from_circuit` calls return, whatever
circuit each names, followed by those still queued, form a sublist of the
`DataReceived` payloads of all circuits in arrival order: none is returned
twice or out of order. Without `disconnect()`, which drops what is queued,
none is lost. -/
theorem receive_is_fifo_across_circuits (url : String) (m : UInt32) (h : List Action) :
    List.Sublist (returnedPayloads (trace (new url m) h) ++ (run (new url m) h).messageQueue)
      (arrivals h) ∧
    ((∀ a ∈ h, a ≠ .disconnect) →
      returnedPayloads (trace (new url m) h) ++ (run (new url m) h).messageQueue = arrivals h) :=
  ⟨queue_run_sublist (new url m) h, queue_run (new url m) h⟩

end Zks.Wasm.BrowserOnionTransport
