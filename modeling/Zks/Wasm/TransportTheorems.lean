/-
Zks.Wasm.TransportTheorems — the reconnect counter of `WebSocketTransport`
over every run.

`onclose` reads the shared counter and, while it is below
`max_reconnect_attempts`, adds one and schedules an attempt; `onopen` and
`disconnect()` set it to zero. `step_attempts` says this once for every
action; everything below is derived from it.

* `reconnect_attempts_bounded`: from `new(url, max)`, along any run of calls
  and events of any sockets, the counter stays within `max`; over any stretch
  without a reset it grows by exactly one per scheduled attempt, in `ℕ`, so
  the `u32` addition never wraps and a stretch schedules at most `max`
  attempts; right after an `open` event it is zero.
* `state_run`: the connection state after a run is the one set by the last
  call or event that sets one, whichever socket raised it.
* `run_relabel`: renaming the sockets that raised a run's events changes
  the transport after it only in the sockets' `readyState`s, and schedules
  the same attempts; what `send` does may change.
-/
import Mathlib
import Zks.Wasm.Transport

namespace Zks.Wasm

@[simp] theorem length_raise (rs : List ReadyState) (s : Nat) (e : SocketEvent) :
    (raise rs s e).length = rs.length :=
  List.length_modify ..

@[simp] theorem length_closeCurrent (w : Option Nat) (rs : List ReadyState) :
    (closeCurrent w rs).length = rs.length := by
  cases w <;> simp [closeCurrent]

namespace WebSocketTransport

/-- The calls and events after which the reconnect counter is zero: an
`open` event and `disconnect()`. -/
def Action.resets : Action → Bool
  | .disconnect => true
  | .event _ .opened => true
  | _ => false

/-- The number of reconnection attempts a trace scheduled. -/
def schedules (es : List Effect) : Nat :=
  es.countP fun
    | .reconnectScheduled _ => true
    | _ => false

/-- The state a call or event sets, if it sets one: `connect()` when it
creates a socket, `disconnect()`, and the `open`, `error` and `close` events
of any socket. -/
def Action.setsState : Action → Option TransportState
  | .connect true => some .connecting
  | .disconnect => some .disconnected
  | .event _ .opened => some .connected
  | .event _ .errored => some .error
  | .event _ .closed => some .disconnected
  | _ => none

/-- The counter is within the configured maximum. -/
def AttemptsWithin (t : WebSocketTransport) : Prop :=
  t.reconnectAttempts.toNat ≤ t.config.maxReconnectAttempts.toNat

/-! ## Runs -/

@[simp] theorem run_nil (t : WebSocketTransport) : run t [] = t := rfl

@[simp] theorem run_cons (t : WebSocketTransport) (a : Action) (as : List Action) :
    run t (a :: as) = run (step t a).1 as := rfl

@[simp] theorem trace_nil (t : WebSocketTransport) : trace t [] = [] := rfl

@[simp] theorem trace_cons (t : WebSocketTransport) (a : Action) (as : List Action) :
    trace t (a :: as) = (step t a).2 ++ trace (step t a).1 as := rfl

theorem run_append (t : WebSocketTransport) (h₁ h₂ : List Action) :
    run t (h₁ ++ h₂) = run (run t h₁) h₂ := by
  induction h₁ generalizing t <;> simp [*]

@[simp] theorem schedules_append (e₁ e₂ : List Effect) :
    schedules (e₁ ++ e₂) = schedules e₁ + schedules e₂ := List.countP_append ..

/-! ## One step -/

/-- `send` leaves the transport as it is. -/
@[simp] theorem send_fst (t : WebSocketTransport) (data : List UInt8) : (send t data).1 = t := by
  unfold send
  split
  · split <;> rfl
  · rfl

@[simp] theorem schedules_send (t : WebSocketTransport) (data : List UInt8) :
    schedules (send t data).2 = 0 := by
  unfold send
  split
  · split <;> rfl
  · rfl

/-- The callbacks leave the `readyState`s to the browser. -/
@[simp] theorem onEvent_sockets (t : WebSocketTransport) (e : SocketEvent) :
    (onEvent t e).1.sockets = t.sockets := by
  cases e with
  | message d => cases d <;> rfl
  | closed => simp only [onEvent, onClose]; split <;> rfl
  | _ => rfl

/-- No step changes the configuration. -/
@[simp] theorem step_config (t : WebSocketTransport) (a : Action) :
    (step t a).1.config = t.config := by
  cases a with
  | connect c => cases c <;> rfl
  | event _ e =>
    cases e with
    | message d => cases d <;> rfl
    | closed => simp only [step, onEvent, onClose]; split <;> rfl
    | _ => rfl
  | disconnect => rfl
  | send d => simp [step]
  | receive => simp only [step, receive]; split <;> rfl

@[simp] theorem run_config (t : WebSocketTransport) (as : List Action) :
    (run t as).config = t.config := by
  induction as generalizing t <;> simp [*]

/-- What one step does to the reconnect counter: a reset clears it, a
`close` event below the maximum adds one and schedules one attempt, and
every other call or event leaves the counter alone and schedules nothing. -/
theorem step_attempts (t : WebSocketTransport) (a : Action) :
    (a.resets = true ∧ (step t a).1.reconnectAttempts = 0 ∧ schedules (step t a).2 = 0) ∨
    (a.resets = false ∧ t.reconnectAttempts < t.config.maxReconnectAttempts ∧
      (step t a).1.reconnectAttempts = t.reconnectAttempts + 1 ∧ schedules (step t a).2 = 1) ∨
    (a.resets = false ∧ (step t a).1.reconnectAttempts = t.reconnectAttempts ∧
      schedules (step t a).2 = 0) := by
  cases a with
  | connect c => cases c <;> simp [step, connect, schedules, Action.resets]
  | disconnect => cases hw : t.websocket <;> simp [step, disconnect, schedules, Action.resets, hw]
  | send d => simp [step, Action.resets]
  | receive => simp only [step, receive]; split <;> simp [schedules, Action.resets]
  | event _ e =>
    cases e with
    | opened => simp [step, onEvent, schedules, Action.resets]
    | message d => cases d <;> simp [step, onEvent, schedules, Action.resets]
    | errored => simp [step, onEvent, schedules, Action.resets]
    | closed =>
      simp only [step, onEvent, onClose]
      split <;> simp_all [schedules, Action.resets]

theorem toNat_add_one {n : UInt32} (h : n.toNat < 2 ^ 32 - 1) : (n + 1).toNat = n.toNat + 1 := by
  show (n.toNat + 1) % 2 ^ 32 = _
  exact Nat.mod_eq_of_lt (by omega)

/-- Off a reset, the counter grows in `ℕ` by the attempts the step
schedules, and stays within the maximum. -/
theorem step_counts {t : WebSocketTransport} {a : Action} (ha : a.resets = false)
    (hi : AttemptsWithin t) :
    (step t a).1.reconnectAttempts.toNat = t.reconnectAttempts.toNat + schedules (step t a).2 ∧
      AttemptsWithin (step t a).1 := by
  unfold AttemptsWithin at *
  have hmax : t.config.maxReconnectAttempts.toNat < 2 ^ 32 := t.config.maxReconnectAttempts.toBitVec.isLt
  rcases step_attempts t a with ⟨hr, -⟩ | ⟨-, hlt, hc, hs⟩ | ⟨-, hc, hs⟩
  · simp [ha] at hr
  · have hlt' : t.reconnectAttempts.toNat < t.config.maxReconnectAttempts.toNat := hlt
    rw [hc, hs, step_config, toNat_add_one (by omega)]
    omega
  · rw [hc, hs, step_config]
    omega

/-- Every step keeps the counter within the maximum. -/
theorem step_within {t : WebSocketTransport} (a : Action) (hi : AttemptsWithin t) :
    AttemptsWithin (step t a).1 := by
  cases ha : a.resets
  · exact (step_counts ha hi).2
  · rcases step_attempts t a with ⟨-, hc, -⟩ | ⟨h, -⟩ | ⟨h, -⟩
    · simp [AttemptsWithin, hc]
    all_goals simp [ha] at h

/-- Each step sets the state its call or event sets, and leaves it
otherwise. -/
theorem step_state (t : WebSocketTransport) (a : Action) :
    (step t a).1.state = a.setsState.getD t.state := by
  cases a with
  | connect c => cases c <;> rfl
  | disconnect => rfl
  | send d => simp [step, Action.setsState]
  | receive => simp only [step, receive]; split <;> rfl
  | event _ e =>
    cases e with
    | message d => cases d <;> rfl
    | closed => simp only [step, onEvent, onClose]; split <;> rfl
    | _ => rfl

/-! ## Runs -/

/-- The state after a run is the one the last state-setting call or event
set, whichever socket raised it. -/
theorem state_run (t : WebSocketTransport) (h : List Action) :
    (run t h).state = (h.reverse.findSome? Action.setsState).getD t.state := by
  induction h generalizing t with
  | nil => rfl
  | cons a as ih =>
    rw [run_cons, ih, step_state, List.reverse_cons, List.findSome?_append]
    cases as.reverse.findSome? Action.setsState <;> cases hf : a.setsState <;> simp [List.findSome?, hf]

/-- The same run with the sockets of its events renamed by `f`. -/
def Action.relabel (f : Nat → Nat) : Action → Action
  | .event s e => .event (f s) e
  | a => a

/-- A step with its event's socket renamed, from other `readyState`s of as
many sockets, leaves the transport as the step itself does but for the
`readyState`s, and schedules the same attempts: the callbacks never read
which socket raised the event, nor any `readyState`. -/
theorem step_relabel (t : WebSocketTransport) (f : Nat → Nat) (a : Action) (rs : List ReadyState)
    (hrs : rs.length = t.sockets.length) :
    ∃ rs', rs'.length = (step t a).1.sockets.length ∧
      (step { t with sockets := rs } (a.relabel f)).1 = { (step t a).1 with sockets := rs' } ∧
      schedules (step { t with sockets := rs } (a.relabel f)).2 = schedules (step t a).2 := by
  cases a with
  | connect c =>
    cases c
    · exact ⟨rs, hrs, rfl, rfl⟩
    · exact ⟨rs ++ [.connecting], by simp [step, connect, hrs],
        by simp [step, connect, hrs, Action.relabel], rfl⟩
  | disconnect =>
    exact ⟨closeCurrent t.websocket rs, by simp [step, disconnect, hrs], rfl,
      by cases hw : t.websocket <;> simp [step, disconnect, hw, Action.relabel]⟩
  | send d => exact ⟨rs, by simp [step, hrs], by simp [step, Action.relabel], by simp [step, Action.relabel]⟩
  | receive =>
    cases hq : t.messageQueue <;>
      exact ⟨rs, by simp [step, receive, hq, hrs], by simp [step, receive, hq, Action.relabel],
        by simp [step, receive, hq, Action.relabel]⟩
  | event s e =>
    refine ⟨raise rs (f s) e, by simp [step, hrs], ?_⟩
    cases e with
    | message d => cases d <;> exact ⟨rfl, rfl⟩
    | closed => simp only [step, onEvent, onClose, Action.relabel]; split_ifs <;> exact ⟨rfl, rfl⟩
    | _ => exact ⟨rfl, rfl⟩

/-- Renaming the sockets that raised a run's events changes the transport
after it only in the `readyState`s, and schedules the same attempts. -/
theorem run_relabel (t : WebSocketTransport) (f : Nat → Nat) (h : List Action) (rs : List ReadyState)
    (hrs : rs.length = t.sockets.length) :
    ∃ rs', run { t with sockets := rs } (h.map (Action.relabel f)) = { run t h with sockets := rs' } ∧
      schedules (trace { t with sockets := rs } (h.map (Action.relabel f))) = schedules (trace t h) := by
  induction h generalizing t rs with
  | nil => exact ⟨rs, rfl, rfl⟩
  | cons a as ih =>
    obtain ⟨rs', hl, hstep, hsch⟩ := step_relabel t f a rs hrs
    obtain ⟨rs'', hrun, hsch'⟩ := ih (step t a).1 rs' hl
    refine ⟨rs'', ?_, ?_⟩
    · rw [List.map_cons, run_cons, run_cons, hstep, hrun]
    · rw [List.map_cons, trace_cons, trace_cons, schedules_append, schedules_append, hsch, hstep, hsch']

theorem run_within {t : WebSocketTransport} (as : List Action) (hi : AttemptsWithin t) :
    AttemptsWithin (run t as) := by
  induction as generalizing t with
  | nil => exact hi
  | cons a as ih => exact ih (step_within a hi)

/-- Over a stretch without a reset, the counter grows by exactly the
attempts scheduled. -/
theorem run_counts {t : WebSocketTransport} {seg : List Action}
    (hseg : ∀ a ∈ seg, a.resets = false) (hi : AttemptsWithin t) :
    (run t seg).reconnectAttempts.toNat = t.reconnectAttempts.toNat + schedules (trace t seg) := by
  induction seg generalizing t with
  | nil => simp [schedules]
  | cons a as ih =>
    have ha := hseg a (by simp)
    obtain ⟨hc, hi'⟩ := step_counts ha hi
    rw [run_cons, trace_cons, ih (fun b hb => hseg b (by simp [hb])) hi', hc, schedules_append]
    omega

theorem within_new (url : String) (max : UInt32) : AttemptsWithin (new url max) := by
  simp [AttemptsWithin, new]

/-- **The reconnect counter is bounded** (spec §8). Along every run from
`new(url, max)`: the counter never exceeds `max`; over any further stretch
`seg` with no `open` event and no `disconnect()`, it grows in `ℕ` by exactly
the number of attempts scheduled, so the `u32` addition never wraps and the
stretch schedules at most `max` attempts; and an `open` event of any socket
leaves it at zero. -/
theorem reconnect_attempts_bounded (url : String) (max : UInt32) (pre seg : List Action)
    (hseg : ∀ a ∈ seg, a.resets = false) :
    (run (new url max) pre).reconnectAttempts.toNat ≤ max.toNat ∧
    (run (new url max) (pre ++ seg)).reconnectAttempts.toNat =
      (run (new url max) pre).reconnectAttempts.toNat +
        schedules (trace (run (new url max) pre) seg) ∧
    schedules (trace (run (new url max) pre) seg) ≤ max.toNat ∧
    ∀ sock, (run (new url max) (pre ++ [.event sock .opened])).reconnectAttempts = 0 := by
  have hi := run_within pre (within_new url max)
  have hmax : (run (new url max) pre).config.maxReconnectAttempts = max := by simp [new]
  have hc := run_counts hseg hi
  have hseg' := run_within seg hi
  unfold AttemptsWithin at hi hseg'
  rw [hmax] at hi
  rw [run_config, hmax, hc] at hseg'
  refine ⟨hi, by rw [run_append, hc], by omega, fun sock => ?_⟩
  rw [run_append]
  rfl

/-- Four `close` events of a socket after its `open`, with the maximum at 3
(the spec's scenario 5): the counter grows by the attempts scheduled, and
exactly three are scheduled; the fourth `close` finds the counter at the
maximum. -/
theorem reconnect_attempts_bounded_scenario :
    (∀ a ∈ [Action.event 0 .closed, .event 0 .closed, .event 0 .closed, .event 0 .closed],
      a.resets = false) ∧
    ((run (new "zk://relay" 3) [.connect true, .event 0 .opened]).reconnectAttempts.toNat ≤
        (3 : UInt32).toNat ∧
      (run (new "zk://relay" 3) ([.connect true, .event 0 .opened] ++
          [.event 0 .closed, .event 0 .closed, .event 0 .closed, .event 0 .closed])).reconnectAttempts.toNat =
        (run (new "zk://relay" 3) [.connect true, .event 0 .opened]).reconnectAttempts.toNat +
          schedules (trace (run (new "zk://relay" 3) [.connect true, .event 0 .opened])
            [.event 0 .closed, .event 0 .closed, .event 0 .closed, .event 0 .closed]) ∧
      schedules (trace (run (new "zk://relay" 3) [.connect true, .event 0 .opened])
          [.event 0 .closed, .event 0 .closed, .event 0 .closed, .event 0 .closed]) ≤
        (3 : UInt32).toNat ∧
      ∀ sock, (run (new "zk://relay" 3)
          ([.connect true, .event 0 .opened] ++ [.event sock .opened])).reconnectAttempts = 0) ∧
    schedules (trace (run (new "zk://relay" 3) [.connect true, .event 0 .opened])
        [.event 0 .closed, .event 0 .closed, .event 0 .closed, .event 0 .closed]) = 3 :=
  ⟨by decide, reconnect_attempts_bounded "zk://relay" 3 [.connect true, .event 0 .opened]
    [.event 0 .closed, .event 0 .closed, .event 0 .closed, .event 0 .closed] (by decide), by decide⟩

end WebSocketTransport

end Zks.Wasm
