/-
Zks.Wasm.TransportRuns — what the browser transports keep, over every
run, beyond which circuits are live.

* `circuit_map_contents` — the circuit `BrowserOnionTransport` stores
  under an id is the one the last `build_circuit` for that id whose
  descriptors parsed made: that id, exactly the parsed hops, and no
  encryption keys. Nothing ever fills `encryption_keys`, and a second
  `build_circuit` with the same id replaces the first.
* `websocket_queue_since_disconnect` — the inbound queue of
  `WebSocketTransport`: what `receive()` returned since the last
  `disconnect()`, followed by what is still queued, is the binary
  payloads received since then, from any socket, in arrival order.
* `frames_go_to_current_socket` — neither transport ever sends a frame on
  a socket that a later `connect()` replaced or that `disconnect()` asked
  to close: every frame goes to the socket the run has left current, the
  last one created with no close requested since.

## How the proofs go

As in `OnionTransportTheorems`, one lemma says what a single call or
event does (`step_circuits_some`, `step_queue`), and induction over the
run lifts it, stated against the run's history (`StoredBy`, `arrivals`).
For the sockets, `step_websocket` says a step leaves current the socket
its own effects leave current (`currentAfter`), so the current socket is
always the one the trace so far names, and a frame is only ever handed to
the current socket (`step_sent`).
-/
import Mathlib
import Zks.Wasm.OnionTransportTheorems

namespace Zks.Wasm

/-- The socket a sequence of effects leaves current, from `cur`: `change e`
is the socket effect `e` makes current (`some (some s)` for a socket
created, `some none` for a close requested), `none` when it changes
nothing. -/
def currentAfter {ε : Type} (change : ε → Option (Option Nat)) (cur : Option Nat) (es : List ε) :
    Option Nat :=
  es.foldl (fun cur e => (change e).getD cur) cur

namespace BrowserOnionTransport

/-! ## The stored circuits -/

/-- Circuit `oc` is what the last `build_circuit(c)` of history `h` whose
descriptors parsed stored, and nothing after it removed `c`. -/
def StoredBy (h : List Action) (c : String) (oc : OnionCircuit) : Prop :=
  ∃ pre hops post, h = pre ++ .buildCircuit hops c :: post ∧ parseHops hops = .ok oc.hops ∧
    oc.circuitId = c ∧ oc.encryptionKeys = [] ∧
    ∀ b ∈ post, b.registers c = false ∧ b.unregisters c = false

/-- The history predicate after one more call at the front. -/
theorem storedBy_cons (a : Action) (as : List Action) (c : String) (oc : OnionCircuit) :
    StoredBy (a :: as) c oc ↔ StoredBy as c oc ∨
      ((∃ hops, a = .buildCircuit hops c ∧ parseHops hops = .ok oc.hops) ∧ oc.circuitId = c ∧
        oc.encryptionKeys = [] ∧ ∀ b ∈ as, b.registers c = false ∧ b.unregisters c = false) := by
  constructor
  · rintro ⟨pre, hops, post, heq, hp, hid, hk, hpost⟩
    cases pre with
    | nil =>
      obtain ⟨rfl, rfl⟩ := List.cons.inj heq
      exact .inr ⟨⟨hops, rfl, hp⟩, hid, hk, hpost⟩
    | cons y pre =>
      obtain ⟨rfl, rfl⟩ := List.cons.inj heq
      exact .inl ⟨pre, hops, post, rfl, hp, hid, hk, hpost⟩
  · rintro (⟨pre, hops, post, rfl, hp, hid, hk, hpost⟩ | ⟨⟨hops, rfl, hp⟩, hid, hk, has⟩)
    · exact ⟨a :: pre, hops, post, rfl, hp, hid, hk, hpost⟩
    · exact ⟨[], hops, as, rfl, hp, hid, hk, has⟩

/-- What one call or event stores under `c`: a `build_circuit(c)` whose
descriptors parse stores its circuit; a call or event that neither
registers nor removes `c` keeps what was there. -/
theorem step_circuits_some (t : BrowserOnionTransport) (a : Action) (c : String) (oc : OnionCircuit) :
    (step t a).1.circuits c = some oc ↔
      ((∃ hops, a = .buildCircuit hops c ∧ parseHops hops = .ok oc.hops) ∧ oc.circuitId = c ∧
        oc.encryptionKeys = []) ∨
      (a.registers c = false ∧ a.unregisters c = false ∧ t.circuits c = some oc) := by
  cases a with
  | buildCircuit hops id =>
    simp only [step, buildCircuit, Action.registers, Action.unregisters]
    by_cases hc : c = id
    · subst hc
      cases hp : parseHops hops with
      | error e => simp [hp, Except.isOk, Except.toBool]
      | ok hs =>
        simp only [insertCircuit_apply, if_true, Option.some.injEq]
        constructor
        · rintro rfl; exact .inl ⟨⟨hops, rfl, hp⟩, rfl, rfl⟩
        · rintro (⟨⟨hops', heq, hp'⟩, hid, hk⟩ | ⟨h, -⟩)
          · cases heq
            obtain rfl : hs = oc.hops := Except.ok.inj (hp.symm.trans hp')
            cases oc
            simp only at hid hk
            rw [hid, hk]
          · simp [Except.isOk, Except.toBool] at h
    · cases parseHops hops <;> simp [hc, Ne.symm hc]
  | teardownCircuit id =>
    by_cases hc : c = id <;>
      simp [step, teardownCircuit, hc, Action.registers, Action.unregisters]
  | disconnect => simp [step, disconnect, Action.registers, Action.unregisters]
  | event s e =>
    cases e with
    | message m =>
      cases m with
      | binary d => simp [step, onEvent, onMessage, Action.registers, Action.unregisters]
      | text txt =>
        simp only [step, onEvent, onMessage, Action.registers, Action.unregisters, removesOnReceipt]
        split <;> simp_all
    | _ => simp [step, onEvent, Action.registers, Action.unregisters]
  | connect cr => cases cr <;> simp [step, connect, Action.registers, Action.unregisters]
  | sendThroughCircuit id d =>
    simp only [step, sendThroughCircuit]; split <;> simp [Action.registers, Action.unregisters]
  | receiveFromCircuit id =>
    simp only [step, receiveFromCircuit]; split <;> simp [Action.registers, Action.unregisters]

/-- The circuit stored under `c` after a run from any transport: the one
the run's last registration of `c` stored, or the one already there if
the run neither registered nor removed `c`. -/
theorem circuits_run_some (t : BrowserOnionTransport) (h : List Action) (c : String) (oc : OnionCircuit) :
    (run t h).circuits c = some oc ↔
      StoredBy h c oc ∨ (t.circuits c = some oc ∧ ∀ b ∈ h, b.registers c = false ∧ b.unregisters c = false) := by
  induction h generalizing t with
  | nil => simp [StoredBy]
  | cons a as ih =>
    rw [run_cons, ih, step_circuits_some, storedBy_cons, List.forall_mem_cons]
    generalize (∃ hops, a = .buildCircuit hops c ∧ parseHops hops = .ok oc.hops) = n
    tauto

/-- **The stored circuit is the last one built under its id.** After
every run from `new`, the circuit stored under `c` is exactly what the
last `build_circuit` for `c` whose descriptors parsed made, provided no
later call or event removed `c`: its id is `c`, its hops are the parsed
descriptors, and its encryption keys are empty. -/
theorem circuit_map_contents (url : String) (m : UInt32) (h : List Action) (c : String)
    (oc : OnionCircuit) :
    (run (new url m) h).circuits c = some oc ↔
      ∃ pre hops post, h = pre ++ .buildCircuit hops c :: post ∧ parseHops hops = .ok oc.hops ∧
        oc.circuitId = c ∧ oc.encryptionKeys = [] ∧
        ∀ b ∈ post, b.registers c = false ∧ b.unregisters c = false := by
  rw [circuits_run_some]
  simp [new, StoredBy]

end BrowserOnionTransport

namespace WebSocketTransport

/-! ## The inbound queue of `WebSocketTransport` -/

/-- The payload an action queues: the data of a binary frame, whichever
socket raised it. -/
def Action.arrival : Action → Option (List UInt8)
  | .event _ (.message (.binary d)) => some d
  | _ => none

/-- The binary payloads a history brought, in arrival order. -/
def arrivals (h : List Action) : List (List UInt8) := h.filterMap Action.arrival

/-- The payloads `receive()` calls returned, in order. -/
def returnedPayloads : List Effect → List (List UInt8)
  | [] => []
  | .returned (.ok (some d)) :: es => d :: returnedPayloads es
  | _ :: es => returnedPayloads es

@[simp] theorem returnedPayloads_append (e₁ e₂ : List Effect) :
    returnedPayloads (e₁ ++ e₂) = returnedPayloads e₁ ++ returnedPayloads e₂ := by
  induction e₁ with
  | nil => rfl
  | cons e es ih => rcases e with _ | _ | _ | _ | (_ | (_ | _)) <;> simp [returnedPayloads, ih]

/-- What `send` can hand over: its frame, on the current socket, at most. -/
theorem send_cases (t : WebSocketTransport) (data : List UInt8) :
    (∃ s, t.websocket = some s ∧ (send t data).2 = [.sent s data, .returned (.ok none)]) ∨
      ∃ r : Except String Unit, (send t data).2 = [.returned (r.map fun _ => none)] := by
  unfold send
  cases t.websocket with
  | none => exact .inr ⟨.error "Not connected", rfl⟩
  | some s =>
    cases h : readyState t.sockets s
    · exact .inr ⟨.error "InvalidStateError", by simp [h, ReadyState.send, Except.map]⟩
    · exact .inl ⟨s, rfl, by simp [h, ReadyState.send]⟩
    all_goals exact .inr ⟨.ok (), by simp [h, ReadyState.send, Except.map]⟩

theorem returnedPayloads_send (t : WebSocketTransport) (data : List UInt8) :
    returnedPayloads (send t data).2 = [] := by
  rcases send_cases t data with ⟨s, -, h⟩ | ⟨r, h⟩ <;> rw [h]
  · rfl
  · cases r <;> rfl

theorem arrivals_cons (a : Action) (as : List Action) :
    arrivals (a :: as) = a.arrival.toList ++ arrivals as := by
  cases h : a.arrival <;> simp [arrivals, List.filterMap_cons, h]

/-- What one call or event does to the queue: `disconnect()` empties it;
otherwise what the step returns, followed by the queue after it, is the
queue before it followed by what the step brought in. -/
theorem step_queue (t : WebSocketTransport) (a : Action) :
    (a = .disconnect ∧ (step t a).1.messageQueue = [] ∧ returnedPayloads (step t a).2 = []) ∨
    (a ≠ .disconnect ∧ returnedPayloads (step t a).2 ++ (step t a).1.messageQueue =
      t.messageQueue ++ a.arrival.toList) := by
  cases a with
  | disconnect => left; cases hw : t.websocket <;> simp [step, disconnect, returnedPayloads, hw]
  | connect cr => right; cases cr <;> simp [step, connect, returnedPayloads, Action.arrival]
  | send d => right; simp [step, returnedPayloads_send, Action.arrival]
  | receive =>
    right; simp only [step, receive]
    split <;> simp_all [returnedPayloads, Action.arrival]
  | event s e =>
    right
    cases e with
    | message m => cases m <;> simp [step, onEvent, returnedPayloads, Action.arrival]
    | closed => simp only [step, onEvent, onClose]; split <;> simp [returnedPayloads, Action.arrival]
    | _ => simp [step, onEvent, returnedPayloads, Action.arrival]

/-- Over a stretch without `disconnect()`, what `receive()` returned
followed by the queue is the queue before followed by the arrivals. -/
theorem queue_run (t : WebSocketTransport) (h : List Action) (hd : ∀ a ∈ h, a ≠ .disconnect) :
    returnedPayloads (trace t h) ++ (run t h).messageQueue = t.messageQueue ++ arrivals h := by
  induction h generalizing t with
  | nil => simp [arrivals, returnedPayloads]
  | cons a as ih =>
    rcases step_queue t a with ⟨ha, -⟩ | ⟨-, hq⟩
    · exact absurd ha (hd a (by simp))
    · rw [trace_cons, run_cons, returnedPayloads_append, List.append_assoc,
        ih _ (fun b hb => hd b (by simp [hb])), ← List.append_assoc, hq, arrivals_cons,
        List.append_assoc]

/-- After `disconnect()` the queue is empty. -/
theorem queue_disconnect (t : WebSocketTransport) (h : List Action) :
    (run t (h ++ [.disconnect])).messageQueue = [] := by
  rw [run_append]
  rcases step_queue (run t h) .disconnect with ⟨-, hq, -⟩ | ⟨hne, -⟩
  · exact hq
  · exact absurd rfl hne

/-- **No payload lost, repeated or reordered since the last disconnect.**
Split any run from `new` after its last `disconnect()` (or at its start):
what `receive()` returned after the split, followed by what is still
queued, is exactly the binary payloads that arrived after it, from any
socket, current or not, in arrival order. -/
theorem websocket_queue_since_disconnect (url : String) (m : UInt32) (pre post : List Action)
    (hpre : pre = [] ∨ pre.getLast? = some .disconnect) (hpost : ∀ a ∈ post, a ≠ .disconnect) :
    returnedPayloads (trace (run (new url m) pre) post) ++ (run (new url m) (pre ++ post)).messageQueue =
      arrivals post := by
  have hq : (run (new url m) pre).messageQueue = [] := by
    rcases hpre with rfl | hl
    · rfl
    · rw [← List.dropLast_append_getLast? _ hl]
      exact queue_disconnect _ _
  rw [run_append, queue_run _ post hpost, hq, List.nil_append]

/-- Payloads raised by socket 0 after `disconnect()` released it, and by
the current socket 1, are queued alike and come back in arrival order. -/
theorem websocket_queue_since_disconnect_stale_socket :
    let pre : List Action := [.connect true, .event 0 (.message (.binary [9])), .disconnect]
    let post : List Action := [.connect true, .event 0 (.message (.binary [1])),
      .event 1 (.message (.binary [2])), .receive]
    (pre = [] ∨ pre.getLast? = some .disconnect) ∧ (∀ a ∈ post, a ≠ .disconnect) ∧
      returnedPayloads (trace (run (new "zk://relay" 3) pre) post) ++
          (run (new "zk://relay" 3) (pre ++ post)).messageQueue = arrivals post :=
  ⟨.inr rfl, by decide, websocket_queue_since_disconnect _ _ _ _ (.inr rfl) (by decide)⟩

/-! ## The socket frames go to -/

/-- What an effect does to the current socket. -/
def Effect.socketChange : Effect → Option (Option Nat)
  | .created s _ => some (some s)
  | .closeRequested _ => some none
  | _ => none

/-- An effect of a run comes from one of its steps. -/
theorem mem_trace {t : WebSocketTransport} {e : Effect} {h : List Action}
    (he : e ∈ trace t h) : ∃ pre a post, h = pre ++ a :: post ∧ e ∈ (step (run t pre) a).2 := by
  induction h generalizing t with
  | nil => simp at he
  | cons a as ih =>
    rcases List.mem_append.1 he with he | he
    · exact ⟨[], a, as, rfl, he⟩
    · obtain ⟨pre, b, post, rfl, hb⟩ := ih he
      exact ⟨a :: pre, b, post, rfl, hb⟩

/-- A step leaves current the socket its effects leave current. -/
theorem step_websocket (t : WebSocketTransport) (a : Action) :
    (step t a).1.websocket = currentAfter Effect.socketChange t.websocket (step t a).2 := by
  cases a with
  | connect cr => cases cr <;> rfl
  | disconnect => cases hw : t.websocket <;> simp [step, disconnect, currentAfter, Effect.socketChange, hw]
  | send d =>
    rcases send_cases t d with ⟨s, -, h⟩ | ⟨r, h⟩ <;> simp only [step, h, send_fst]
    · rfl
    · cases r <;> rfl
  | receive => simp only [step, receive]; split <;> rfl
  | event _ e =>
    cases e with
    | message d => cases d <;> rfl
    | closed => simp only [step, onEvent, onClose]; split <;> rfl
    | _ => rfl

theorem run_websocket (t : WebSocketTransport) (h : List Action) :
    (run t h).websocket = currentAfter Effect.socketChange t.websocket (trace t h) := by
  induction h generalizing t with
  | nil => rfl
  | cons a as ih => simp only [run_cons, ih, trace_cons, step_websocket, currentAfter, List.foldl_append]

/-- A frame goes to the current socket. -/
theorem step_sent {t : WebSocketTransport} {a : Action} {s : Nat} {d : List UInt8}
    (he : Effect.sent s d ∈ (step t a).2) : t.websocket = some s := by
  cases a with
  | connect cr => cases cr <;> simp [step, connect] at he
  | disconnect => cases hw : t.websocket <;> simp [step, disconnect, hw] at he
  | send d' =>
    rcases send_cases t d' with ⟨s', hw, h⟩ | ⟨r, h⟩ <;> simp only [step, h] at he
    · simp_all
    · cases r <;> simp at he
  | receive => simp only [step, receive] at he; split at he <;> simp at he
  | event _ e =>
    cases e with
    | message m => cases m <;> simp [step, onEvent] at he
    | closed => simp only [step, onEvent, onClose] at he; split at he <;> simp at he
    | _ => simp [step, onEvent] at he

end WebSocketTransport

namespace BrowserOnionTransport

/-- What an effect does to the current socket. -/
def Effect.socketChange : Effect → Option (Option Nat)
  | .created s _ => some (some s)
  | .closeRequested _ => some none
  | _ => none

theorem afterSend_websocket (t : BrowserOnionTransport) (m : OnionMessage) (r : Reply) :
    currentAfter Effect.socketChange t.websocket (afterSend t m r) = t.websocket := by
  rcases sendOnionMessage_cases t m with ⟨s, -, h⟩ | h | ⟨e, h⟩ <;> simp only [afterSend, h] <;> rfl

/-- A step leaves current the socket its effects leave current. -/
theorem step_websocket (t : BrowserOnionTransport) (a : Action) :
    (step t a).1.websocket = currentAfter Effect.socketChange t.websocket (step t a).2 := by
  cases a with
  | connect cr => cases cr <;> rfl
  | disconnect => cases hw : t.websocket <;> simp [step, disconnect, currentAfter, Effect.socketChange, hw]
  | buildCircuit hops id =>
    simp only [step, buildCircuit]
    split
    · rfl
    · exact (afterSend_websocket _ _ _).symm
  | sendThroughCircuit id d =>
    simp only [step, sendThroughCircuit]
    split
    · exact (afterSend_websocket _ _ _).symm
    · rfl
  | receiveFromCircuit id => simp only [step, receiveFromCircuit]; split <;> rfl
  | teardownCircuit id => exact (afterSend_websocket _ _ _).symm
  | event _ e =>
    cases e with
    | message d => cases d with
      | binary _ => rfl
      | text _ => simp only [step, onEvent, onMessage]; split <;> rfl
    | _ => rfl

theorem run_websocket (t : BrowserOnionTransport) (h : List Action) :
    (run t h).websocket = currentAfter Effect.socketChange t.websocket (trace t h) := by
  induction h generalizing t with
  | nil => rfl
  | cons a as ih => simp only [run_cons, ih, trace_cons, step_websocket, currentAfter, List.foldl_append]

/-- A frame goes to the current socket. -/
theorem step_sent {t : BrowserOnionTransport} {a : Action} {s : Nat} {m : OnionMessage}
    (he : Effect.sent s m ∈ (step t a).2) : t.websocket = some s := by
  have hafter : ∀ {t : BrowserOnionTransport} {m' : OnionMessage} {r : Reply},
      Effect.sent s m ∈ afterSend t m' r → t.websocket = some s := fun h =>
    (sent_of_mem_afterSend h).2
  cases a with
  | connect cr => cases cr <;> simp [step, connect] at he
  | disconnect => cases hw : t.websocket <;> simp [step, disconnect, hw] at he
  | buildCircuit hops id =>
    simp only [step, buildCircuit] at he
    split at he
    · simp at he
    · exact hafter he
  | sendThroughCircuit id d =>
    simp only [step, sendThroughCircuit] at he
    split at he
    · exact hafter he
    · simp at he
  | receiveFromCircuit id => simp only [step, receiveFromCircuit] at he; split at he <;> simp at he
  | teardownCircuit id => exact hafter he
  | event _ e => simp [step] at he

end BrowserOnionTransport

/-- **Frames go only to the current socket.** In every run of either
transport from `new`, each frame a call sends goes to the socket the run
so far has left current: the last one `connect()` created, with no
`close()` requested by `disconnect()` since. No frame is sent on a socket
that a later `connect()` replaced or that `disconnect()` released. -/
theorem frames_go_to_current_socket (url : String) (m : UInt32) (h₁ : List WebSocketTransport.Action)
    (h₂ : List BrowserOnionTransport.Action) :
    (∀ s d, WebSocketTransport.Effect.sent s d ∈ WebSocketTransport.trace (.new url m) h₁ →
      ∃ pre a post, h₁ = pre ++ a :: post ∧
        WebSocketTransport.Effect.sent s d ∈ (WebSocketTransport.step (WebSocketTransport.run (.new url m) pre) a).2 ∧
        currentAfter WebSocketTransport.Effect.socketChange none (WebSocketTransport.trace (.new url m) pre) = some s) ∧
    (∀ s msg, BrowserOnionTransport.Effect.sent s msg ∈ BrowserOnionTransport.trace (.new url m) h₂ →
      ∃ pre a post, h₂ = pre ++ a :: post ∧
        BrowserOnionTransport.Effect.sent s msg ∈
          (BrowserOnionTransport.step (BrowserOnionTransport.run (.new url m) pre) a).2 ∧
        currentAfter BrowserOnionTransport.Effect.socketChange none (BrowserOnionTransport.trace (.new url m) pre) =
          some s) := by
  refine ⟨fun s d he => ?_, fun s msg he => ?_⟩
  · obtain ⟨pre, a, post, rfl, ha⟩ := WebSocketTransport.mem_trace he
    exact ⟨pre, a, post, rfl, ha,
      (WebSocketTransport.run_websocket _ pre).symm.trans (WebSocketTransport.step_sent ha)⟩
  · obtain ⟨pre, a, post, rfl, ha⟩ := BrowserOnionTransport.mem_trace he
    exact ⟨pre, a, post, rfl, ha,
      (BrowserOnionTransport.run_websocket _ pre).symm.trans (BrowserOnionTransport.step_sent ha)⟩

end Zks.Wasm
