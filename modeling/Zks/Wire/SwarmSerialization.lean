/-
Zks.Wire.SwarmSerialization — controller calls run concurrently on one
controller behave as the same calls run one after another.

The slot's write guard is what serialises them: a delegating call keeps it
from before its request is sent until its reply has been read, and the
only other operations on the slot (`connect` storing its client,
`disconnect` taking it) need the guard free. So every interleaving gives
each call the result, and leaves the slot (the client, with what is left of
its stream) as, some sequential order of the same calls, and its slot
traffic is one block per call in that order.

## How the proofs go

* A task run alone from `start` is its method (`run_alone`): the delegating
  calls run their `Protocol` (`Protocol.runOn`, `call_of_protocol`),
  `connect` and `disconnect` are computed directly. So the serial schedule
  of an order of tasks is `SwarmController.calls` of their calls in that
  order (`run_serial`).
* A concurrent run is compared with a serial one by `Related`: the same
  slot, guard holder and log, and each task at a related program counter
  (`PcRel`). `SerialWitness` adds the order the serial run uses and how far
  the guard's holder has got in it. Each step keeps a witness
  (`step_serialWitness`), one case per `Moves`: a step that does not touch
  the slot leaves the serial run as it is, a step that holds the guard is
  matched by the same step of the serial run (`related_lockstep`), and
  `disconnect`, `connect`'s store, a `NotConnected` return and the guard's
  release append their task to the order.
* When every task has returned, the tasks that returned without touching
  the slot (a failed `connect`, an out-of-bounds `build_onion_circuit`) go
  last, and the serial run is `SwarmController.calls`.
-/
import Mathlib
import Zks.Wire.SignalingTheorems
import Zks.Wire.SwarmTasksTheorems

namespace Zks.Wire

/-- A protocol run alone on client `c`: the client after it and what the
call returns. -/
def Protocol.runOn (p : Protocol) (c : SignalingClient) :
    SignalingClient × Except SwarmControllerError CallResult :=
  match c.sendMessage (p.request c) with
  | (c', .error e) => (c', wrapError p.context (.error e))
  | (c', .ok ()) =>
    match p.onReply with
    | none => (c', .ok .unit)
    | some f => (c'.receiveMessage.1, f c'.receiveMessage.2)

namespace SwarmController

/-! ## The delegating calls run their protocol -/

theorem delegate_some {α : Type} (ctl : SwarmController) (context : String) {c : SignalingClient}
    (op : SignalingClient → SignalingClient × Except SignalingError α) (hc : ctl.signalingClient = some c) :
    ctl.delegate context op = ({ ctl with signalingClient := some (op c).1 }, wrapError context (op c).2) := by
  simp only [delegate, hc]
  rcases op c with ⟨_, _ | _⟩ <;> rfl

theorem joinProtocol_runOn (r : String) (caps : PeerCapabilities) (now : UInt64) (c : SignalingClient) :
    (ControllerCall.joinProtocol r caps now).runOn c =
      ((c.joinRoom r caps now).1, (wrapError "Failed to join room" (c.joinRoom r caps now).2).map fun _ => .unit) := by
  simp only [Protocol.runOn, ControllerCall.joinProtocol, SignalingClient.joinRoom]
  rcases c.sendMessage _ with ⟨_, _ | _⟩ <;> rfl

theorem discoverProtocol_runOn (r : String) (finish : List PeerInfo → Except SwarmControllerError CallResult)
    (c : SignalingClient) :
    (ControllerCall.discoverProtocol r finish).runOn c =
      ((c.discoverPeers r).1, (wrapError "Failed to discover peers" (c.discoverPeers r).2).bind finish) := by
  simp only [Protocol.runOn, ControllerCall.discoverProtocol]
  rcases hs : c.sendMessage (.discover r) with ⟨c', _ | u⟩
  · simp only [SignalingClient.discoverPeers, hs]; rfl
  · cases u
    rw [SignalingClient.discoverPeers_of_sent hs]

theorem entropyProtocol_runOn (r q : String) (c : SignalingClient) :
    (ControllerCall.entropyProtocol r q).runOn c =
      ((c.getSwarmEntropy r q).1,
        (wrapError "Failed to get swarm entropy" (c.getSwarmEntropy r q).2).map .entropy) := by
  simp only [Protocol.runOn, ControllerCall.entropyProtocol]
  rcases hs : c.sendMessage (.entropyRequest r q) with ⟨c', _ | u⟩
  · simp only [SignalingClient.getSwarmEntropy, hs]; rfl
  · cases u
    rw [SignalingClient.getSwarmEntropy_of_sent hs]

/-- A call that takes the guard is its protocol run on the client in the
slot, or `NotConnected` on an empty slot. -/
theorem call_of_protocol {ctl : SwarmController} {k : ControllerCall} {p : Protocol}
    (hk : k.protocol? ctl.platform = some p) :
    ctl.call k = match ctl.signalingClient with
      | none => (ctl, .error .notConnected)
      | some c => ({ ctl with signalingClient := some (p.runOn c).1 }, (p.runOn c).2) := by
  cases k with
  | connect | disconnect => cases hk
  | joinRoom r caps now =>
    cases hk
    rcases hc : ctl.signalingClient with _ | c
    · simp only [call, joinRoom, delegate, hc]; rfl
    · simp only [call, joinRoom, delegate_some _ _ _ hc, joinProtocol_runOn]
  | discoverPeers r =>
    cases hk
    rcases hc : ctl.signalingClient with _ | c
    · simp only [call, discoverPeers, delegate, hc]; rfl
    · simp only [call, discoverPeers, delegate_some _ _ _ hc, discoverProtocol_runOn]
      rcases wrapError _ (c.discoverPeers r).2 with _ | _ <;> rfl
  | getSwarmEntropy r q =>
    cases hk
    rcases hc : ctl.signalingClient with _ | c
    · simp only [call, getSwarmEntropy, delegate, hc]; rfl
    · simp only [call, getSwarmEntropy, delegate_some _ _ _ hc, entropyProtocol_runOn]
  | buildOnionCircuit t lo hi sh u =>
    simp only [ControllerCall.protocol?] at hk
    rcases hh : checkHops ctl.platform lo hi with _ | u
    · simp only [hh, reduceCtorEq] at hk
    cases u
    simp only [hh, Option.some.injEq] at hk
    subst hk
    rcases hc : ctl.signalingClient with _ | c
    · simp only [call, buildOnionCircuit, hh, discoverPeers, delegate, hc]; rfl
    · simp only [call, buildOnionCircuit, hh, discoverPeers, delegate_some _ _ _ hc, ControllerCall.buildProtocol,
        discoverProtocol_runOn]
      rcases wrapError _ (c.discoverPeers "default").2 with _ | ps
      · rfl
      · dsimp only [Except.bind]
        rcases planCircuit ctl.platform t hi ps sh u with _ | _ <;> rfl

end SwarmController

/-- What a call returns without touching the slot, if it does: a
`connect` whose dial failed, and `build_onion_circuit` out of its hop
bounds. -/
def ControllerCall.immediate? (platform : Platform) : ControllerCall → Option (Except SwarmControllerError CallResult)
  | .connect p a =>
    match Swarm.dial p a with
    | .done r => some r
    | _ => none
  | .buildOnionCircuit _ lo hi _ _ =>
    match SwarmController.checkHops platform lo hi with
    | .error e => some (.error e)
    | .ok () => none
  | _ => none

namespace Swarm

/-! ## A task run alone -/

theorem advance_start_of_protocol {ctl : SwarmController} {holder : Option Nat} {i : Nat} {k : ControllerCall}
    {p : Protocol} (hk : k.protocol? ctl.platform = some p) :
    advance ctl holder i k .start = acquire ctl holder i p := by
  cases k with
  | connect | disconnect => cases hk
  | buildOnionCircuit t lo hi sh u =>
    simp only [ControllerCall.protocol?] at hk
    simp only [advance]
    rcases hh : SwarmController.checkHops ctl.platform lo hi with _ | ⟨⟩ <;>
      simp only [hh, reduceCtorEq, Option.some.injEq] at hk ⊢
    rw [hk]
  | _ => cases hk; rfl

section
variable {z : Swarm} {j : Nat} {k : ControllerCall}

/-- A call that takes the guard, run alone on a client: its protocol, with
the slot traffic of task `j` only. -/
theorem run_protocol {p : Protocol} {c : SignalingClient} (hz : z.holder = none)
    (ht : z.tasks[j]? = some (k, .start)) (hk : k.protocol? z.ctl.platform = some p)
    (hc : z.ctl.signalingClient = some c) :
    ∃ out, (∀ t ∈ out, t.task = j) ∧ z.run [j, j, j, j] =
      { ctl := { z.ctl with signalingClient := some (p.runOn c).1 }, holder := none,
        tasks := z.tasks.set j (k, .done (p.runOn c).2), log := z.log ++ out } := by
  have hlt := (List.getElem?_eq_some_iff.1 ht).1
  have ha : advance z.ctl z.holder j k .start = some (z.ctl, some j, .send p, []) := by
    rw [advance_start_of_protocol hk, hz]; simp [acquire, hc]
  simp only [run_cons, step_of_advance ht ha]
  rcases hs : c.sendMessage (p.request c) with ⟨c', e | u⟩
  · refine ⟨[.sent j], by simp [Traffic.task], ?_⟩
    simp [step, List.getElem?_set_self hlt, advance, hc, hs, afterSend, Protocol.runOn]
  · cases u
    rcases ho : p.onReply with _ | f
    · refine ⟨[.sent j], by simp [Traffic.task], ?_⟩
      simp [step, List.getElem?_set_self hlt, advance, hc, hs, afterSend, Protocol.runOn, ho]
    · refine ⟨[.sent j, .received j], by simp [Traffic.task], ?_⟩
      simp [step, List.getElem?_set_self hlt, advance, hc, hs, afterSend, Protocol.runOn, ho]

theorem run_disconnect (hz : z.holder = none) (ht : z.tasks[j]? = some (.disconnect, .start)) :
    z.run [j, j, j, j] =
      { ctl := { z.ctl with signalingClient := none, isConnected := false }, holder := none,
        tasks := z.tasks.set j (.disconnect, .done (.ok .unit)), log := z.log ++ [.taken j] } := by
  have hlt := (List.getElem?_eq_some_iff.1 ht).1
  simp [run_cons, step, ht, advance, hz, List.getElem?_set_self hlt]

theorem run_connect_stored {p : String} {a : Except String WsStream} {c : SignalingClient}
    (hz : z.holder = none) (ht : z.tasks[j]? = some (.connect p a, .start)) (hd : dial p a = .store c) :
    z.run [j, j, j, j] =
      { ctl := { z.ctl with localPeerId := some p, signalingClient := some c, isConnected := true },
        holder := none, tasks := z.tasks.set j (.connect p a, .done (.ok .unit)),
        log := z.log ++ [.stored j] } := by
  have hlt := (List.getElem?_eq_some_iff.1 ht).1
  simp [run_cons, step, ht, advance, hz, List.getElem?_set_self hlt, hd]

/-- A call that returns without touching the slot, run alone: one step,
whoever holds the guard. -/
theorem run_immediate {r : Except SwarmControllerError CallResult} (ht : z.tasks[j]? = some (k, .start))
    (hk : k.immediate? z.ctl.platform = some r) :
    z.run [j, j, j, j] = { z with ctl := (z.ctl.call k).1, tasks := z.tasks.set j (k, .done r) } ∧
      (z.ctl.call k).2 = r ∧ (z.ctl.call k).1.signalingClient = z.ctl.signalingClient := by
  have hlt := (List.getElem?_eq_some_iff.1 ht).1
  cases k with
  | connect p a =>
    simp only [ControllerCall.immediate?, dial] at hk
    rcases hc : SignalingClient.connect p a with e | c <;> simp only [hc, Option.some.injEq, reduceCtorEq] at hk
    subst hk
    simp [run_cons, step, ht, advance, dial, hc, List.getElem?_set_self hlt, SwarmController.call,
      SwarmController.connect, Except.map]
  | buildOnionCircuit t lo hi sh u =>
    simp only [ControllerCall.immediate?] at hk
    rcases hh : SwarmController.checkHops z.ctl.platform lo hi with e | _ <;>
      simp only [hh, Option.some.injEq, reduceCtorEq] at hk
    subst hk
    simp [run_cons, step, ht, advance, hh, List.getElem?_set_self hlt, SwarmController.call,
      SwarmController.buildOnionCircuit, Except.map]
  | _ => cases hk

theorem run_notConnected {p : Protocol} (hz : z.holder = none) (ht : z.tasks[j]? = some (k, .start))
    (hk : k.protocol? z.ctl.platform = some p) (hc : z.ctl.signalingClient = none) :
    z.run [j, j, j, j] = { z with tasks := z.tasks.set j (k, .done (.error .notConnected)) } := by
  have hlt := (List.getElem?_eq_some_iff.1 ht).1
  have ha : advance z.ctl z.holder j k .start = some (z.ctl, none, .done (.error .notConnected), []) := by
    rw [advance_start_of_protocol hk, hz]; simp [acquire, hc]
  simp only [run_cons, step_of_advance ht ha]
  simp [step, List.getElem?_set_self hlt, advance, hz]

/-- **A task run alone from its start is its method**: four steps, as many
as any call takes, end it with the controller and the result of
`SwarmController.call`, and all the slot traffic is its own. -/
theorem run_alone (hz : z.holder = none) (ht : z.tasks[j]? = some (k, .start)) :
    ∃ out, (∀ t ∈ out, t.task = j) ∧ z.run [j, j, j, j] =
      { ctl := (z.ctl.call k).1, holder := none, tasks := z.tasks.set j (k, .done (z.ctl.call k).2),
        log := z.log ++ out } := by
  rcases himm : k.immediate? z.ctl.platform with _ | r
  · rcases hp : k.protocol? z.ctl.platform with _ | p
    · cases k with
      | disconnect => exact ⟨[.taken j], by simp [Traffic.task], by rw [run_disconnect hz ht]; rfl⟩
      | connect p a =>
        rcases hc : SignalingClient.connect p a with e | c
        · simp [ControllerCall.immediate?, dial, hc] at himm
        · have hd : dial p a = .store c := by simp [dial, hc]
          refine ⟨[.stored j], by simp [Traffic.task], ?_⟩
          rw [run_connect_stored hz ht hd]
          simp [SwarmController.call, SwarmController.connect, hc, Except.map]
      | buildOnionCircuit t lo hi sh u =>
        rcases hh : SwarmController.checkHops z.ctl.platform lo hi with _ | ⟨⟩
        · simp [ControllerCall.immediate?, hh] at himm
        · simp [ControllerCall.protocol?, hh] at hp
      | _ => cases hp
    · rw [SwarmController.call_of_protocol hp]
      rcases hc : z.ctl.signalingClient with _ | c
      · exact ⟨[], by simp, by rw [run_notConnected hz ht hp hc, hz]; simp⟩
      · exact run_protocol hz ht hp hc
  · obtain ⟨h₁, h₂, -⟩ := run_immediate ht himm
    exact ⟨[], by simp, by rw [h₁, h₂, hz]; simp⟩

end

/-! ## Serial runs -/

/-- The schedule that runs the tasks of `order` one after another, each to
its end. -/
def serial (order : List Nat) : List Nat :=
  order.flatMap fun i => [i, i, i, i]

@[simp] theorem serial_nil : serial [] = [] := rfl

theorem serial_cons (i : Nat) (order : List Nat) : serial (i :: order) = [i, i, i, i] ++ serial order := rfl

theorem serial_append (a b : List Nat) : serial (a ++ b) = serial a ++ serial b :=
  List.flatMap_append a b _

theorem result?_of_done {s : Swarm} {i : Nat} {k : ControllerCall} {r : Except SwarmControllerError CallResult}
    (h : s.tasks[i]? = some (k, .done r)) : s.result? i = some r := by
  simp [result?, h]

/-- A schedule that does not name task `i` leaves it where it is. -/
theorem run_other (s : Swarm) {i : Nat} (sched : List Nat) (h : i ∉ sched) :
    (s.run sched).tasks[i]? = s.tasks[i]? := by
  induction sched generalizing s with
  | nil => rfl
  | cons j sched ih =>
    rw [run_cons, ih _ (fun hm => h (List.mem_cons_of_mem j hm)),
      step_other s (fun hji => h (by rw [← hji]; exact List.mem_cons_self j sched))]

theorem mem_serial {i : Nat} {order : List Nat} : i ∈ serial order ↔ i ∈ order := by
  simp [serial]

/-- **A serial run is the calls one after another.** Running the tasks of
`order`, none of them started, one after another to their ends gives the
controller and the results of `SwarmController.calls` on their calls in
that order, leaves the other tasks where they were, and appends one block
of slot traffic per task, in that order. -/
theorem run_serial {z : Swarm} {order : List Nat} (call : Nat → ControllerCall) (hz : z.holder = none)
    (hnd : order.Nodup) (hstart : ∀ i ∈ order, z.tasks[i]? = some (call i, .start)) :
    (z.run (serial order)).ctl = (z.ctl.calls (order.map call)).1 ∧
      (z.run (serial order)).holder = none ∧
      order.map (z.run (serial order)).result? = (z.ctl.calls (order.map call)).2.map some ∧
      (∀ i ∉ order, (z.run (serial order)).tasks[i]? = z.tasks[i]?) ∧
      ∃ blocks, List.Forall₂ (fun i (b : List Traffic) => ∀ t ∈ b, t.task = i) order blocks ∧
        (z.run (serial order)).log = z.log ++ blocks.flatten := by
  induction order generalizing z with
  | nil => exact ⟨rfl, hz, rfl, fun _ _ => rfl, [], .nil, by simp⟩
  | cons j order ih =>
    obtain ⟨hj, hnd⟩ := List.nodup_cons.1 hnd
    have hsj := hstart j (List.mem_cons_self j order)
    have hlt := (List.getElem?_eq_some_iff.1 hsj).1
    obtain ⟨out, hout, h₁⟩ := run_alone hz hsj
    -- the rest of the order runs from where task `j` left the swarm
    obtain ⟨hc, hh, hr, ho, blocks, hb, hl⟩ := @ih (z.run [j, j, j, j]) (by rw [h₁]) hnd (fun i hi => by
      rw [h₁, List.getElem?_set_ne (fun hji => hj (by rw [hji]; exact hi))]
      exact hstart i (List.mem_cons_of_mem j hi))
    have hjr : ((z.run [j, j, j, j]).run (serial order)).result? j = some (z.ctl.call (call j)).2 :=
      result?_of_done (by rw [ho j hj, h₁, List.getElem?_set_self hlt])
    rw [serial_cons, run_append]
    refine ⟨by rw [hc, h₁]; rfl, hh, ?_, fun i hi => ?_, out :: blocks, .cons hout hb, by rw [hl, h₁]; simp⟩
    · rw [List.map_cons, hjr, hr, h₁, List.map_cons, SwarmController.calls_cons]; rfl
    · rw [ho i (fun hm => hi (List.mem_cons_of_mem j hm)), h₁,
        List.getElem?_set_ne (fun hji => hi (by rw [← hji]; exact List.mem_cons_self j order))]

/-! ## A concurrent run against a serial one -/

/-- How a task of a concurrent run stands against the same task of the
serial run it is compared with. -/
inductive PcRel (platform : Platform) : ControllerCall → TaskPc → TaskPc → Prop
  /-- Not started in either. -/
  | start {k : ControllerCall} : PcRel platform k .start .start
  /-- Holding the guard, at the same point in both. -/
  | held {k : ControllerCall} {pc : TaskPc} : pc.holdsGuard = true → PcRel platform k pc pc
  /-- Returned the same in both. -/
  | done {k : ControllerCall} (r : Except SwarmControllerError CallResult) : PcRel platform k (.done r) (.done r)
  /-- A `connect` that has dialled and not yet stored its client; the
  serial run has not started it. -/
  | dialed {p : String} {a : Except String WsStream} {c : SignalingClient} :
    dial p a = .store c → PcRel platform (.connect p a) (.store c) .start
  /-- A `connect` or `disconnect` with only its flag left to write; the
  serial run has ended it. -/
  | flagPending {k : ControllerCall} (b : Bool) : PcRel platform k (.writeFlag b) (.done (.ok .unit))
  /-- A call that returned without touching the slot; the serial run runs
  it last. -/
  | deferred {k : ControllerCall} {r : Except SwarmControllerError CallResult} :
    k.immediate? platform = some r → PcRel platform k (.done r) .start

section
variable {pl : Platform} {k : ControllerCall} {a b : TaskPc}

theorem PcRel.eq_start (h : PcRel pl k .start b) : b = .start := by
  cases h with
  | start => rfl
  | held h => simp [TaskPc.holdsGuard] at h

theorem PcRel.eq_of_holdsGuard (h : PcRel pl k a b) (ha : a.holdsGuard = true) : b = a := by
  cases h <;> first | rfl | simp [TaskPc.holdsGuard] at ha

theorem PcRel.of_store {c : SignalingClient} (h : PcRel pl k (.store c) b) :
    b = .start ∧ ∃ p a, k = .connect p a ∧ dial p a = .store c := by
  cases h with
  | held h => simp [TaskPc.holdsGuard] at h
  | dialed hd => exact ⟨rfl, _, _, rfl, hd⟩

theorem PcRel.of_writeFlag {v : Bool} (h : PcRel pl k (.writeFlag v) b) : b = .done (.ok .unit) := by
  cases h with
  | held h => simp [TaskPc.holdsGuard] at h
  | flagPending => rfl

theorem PcRel.of_done {r : Except SwarmControllerError CallResult} (h : PcRel pl k (.done r) b) :
    b = .done r ∨ (b = .start ∧ k.immediate? pl = some r) := by
  cases h with
  | held h => simp [TaskPc.holdsGuard] at h
  | done => exact .inl rfl
  | deferred h => exact .inr ⟨rfl, h⟩

/-- `connect`'s dial leaves it related to a serial run that has not
started it: waiting to store, or returned without touching the slot. -/
theorem pcRel_dial (p : String) (a : Except String WsStream) : PcRel pl (.connect p a) (dial p a) .start := by
  rcases hd : dial p a with _ | c | _ | _ | _ | _ | r
  all_goals first
    | exact .dialed hd
    | exact .deferred (by simp [ControllerCall.immediate?, hd])
    | (simp only [dial] at hd; split at hd <;> cases hd)

end

/-- Task `i` in the two runs: the same call, at related program counters. -/
def TaskRel (platform : Platform) : Option (ControllerCall × TaskPc) → Option (ControllerCall × TaskPc) → Prop
  | some (k, a), some (k', b) => k = k' ∧ PcRel platform k a b
  | none, none => True
  | _, _ => False

/-- A concurrent run `s` against a serial run `z`: the same slot, guard
holder and log, both on the calls' platform, and every task related. -/
structure Related (platform : Platform) (s z : Swarm) : Prop where
  slot : s.ctl.signalingClient = z.ctl.signalingClient
  platform_left : s.ctl.platform = platform
  platform_right : z.ctl.platform = platform
  holder : s.holder = z.holder
  log : s.log = z.log
  tasks : ∀ i : Nat, TaskRel platform s.tasks[i]? z.tasks[i]?

theorem set_self_of_getElem? {α : Type} {l : List α} {j : Nat} {x : α} (h : l[j]? = some x) : l.set j x = l := by
  apply List.ext_getElem?
  intro i
  rw [List.getElem?_set]
  split_ifs with h₁ h₂
  · rw [← h₁, h]
  · exact absurd (List.getElem?_eq_some_iff.1 h).1 h₂
  · rfl

namespace Related

variable {pl : Platform} {s z : Swarm}

theorem task (hr : Related pl s z) {j : Nat} {k : ControllerCall} {a : TaskPc} (hs : s.tasks[j]? = some (k, a)) :
    ∃ b, z.tasks[j]? = some (k, b) ∧ PcRel pl k a b := by
  have h := hr.tasks j
  rw [hs] at h
  rcases hz : z.tasks[j]? with _ | ⟨k', b⟩ <;> rw [hz] at h
  · exact h.elim
  · obtain ⟨rfl, h⟩ := h
    exact ⟨b, rfl, h⟩

/-- Two runs stay related when each moves task `j` to related program
counters and keeps slot, holder and log together. -/
theorem update (hr : Related pl s z) {s' z' : Swarm} {j : Nat} {k : ControllerCall} {a b a' b' : TaskPc}
    (hs : s.tasks[j]? = some (k, a)) (hz : z.tasks[j]? = some (k, b))
    (hslot : s'.ctl.signalingClient = z'.ctl.signalingClient) (hps : s'.ctl.platform = pl)
    (hpz : z'.ctl.platform = pl) (hholder : s'.holder = z'.holder) (hlog : s'.log = z'.log)
    (hs' : s'.tasks = s.tasks.set j (k, a')) (hz' : z'.tasks = z.tasks.set j (k, b')) (hrel : PcRel pl k a' b') :
    Related pl s' z' := by
  refine ⟨hslot, hps, hpz, hholder, hlog, fun i => ?_⟩
  rw [hs', hz']
  by_cases hji : j = i
  · subst hji
    rw [List.getElem?_set_self (List.getElem?_eq_some_iff.1 hs).1,
      List.getElem?_set_self (List.getElem?_eq_some_iff.1 hz).1]
    exact ⟨rfl, hrel⟩
  · rw [List.getElem?_set_ne hji, List.getElem?_set_ne hji]
    exact hr.tasks i

/-- A step of the concurrent run that leaves slot, holder and log alone
keeps it related to the same serial run. -/
theorem stay (hr : Related pl s z) {j : Nat} {k : ControllerCall} {a b a' : TaskPc}
    (hs : s.tasks[j]? = some (k, a)) (hz : z.tasks[j]? = some (k, b)) {ctl' : SwarmController}
    (hslot : ctl'.signalingClient = s.ctl.signalingClient) (hp : ctl'.platform = s.ctl.platform)
    (hrel : PcRel pl k a' b) :
    Related pl { ctl := ctl', holder := s.holder, tasks := s.tasks.set j (k, a'), log := s.log } z :=
  hr.update hs hz (hslot.trans hr.slot) (hp.trans hr.platform_left) hr.platform_right hr.holder hr.log rfl
    (set_self_of_getElem? hz).symm hrel

/-- **Lockstep**: a task at the same program counter in both runs takes the
same step in both, since a step reads of the controller only its slot and
platform. -/
theorem lockstep (hr : Related pl s z) {j : Nat} {k : ControllerCall} {a : TaskPc}
    (hs : s.tasks[j]? = some (k, a)) (hz : z.tasks[j]? = some (k, a)) {ctl' : SwarmController}
    {holder' : Option Nat} {a' : TaskPc} {out : List Traffic}
    (ha : advance s.ctl s.holder j k a = some (ctl', holder', a', out)) (hrel : PcRel pl k a' a') :
    Related pl (s.step j) (z.step j) := by
  have hc := advance_congr hr.slot (hr.platform_left.trans hr.platform_right.symm) s.holder j k a
  rw [ha] at hc
  rcases hb : advance z.ctl s.holder j k a with _ | ⟨ctlz, holderz, bz, outz⟩ <;> rw [hb] at hc
  · cases hc
  simp only [Option.map_some', Option.some.injEq, Prod.mk.injEq] at hc
  obtain ⟨hslot, rfl, rfl, rfl⟩ := hc
  rw [hr.holder] at hb
  rw [step_of_advance hs ha, step_of_advance hz hb]
  exact hr.update hs hz hslot ((moves_of_advance ha).platform.trans hr.platform_left)
    ((moves_of_advance hb).platform.trans hr.platform_right) rfl (by rw [hr.log]) rfl rfl hrel

end Related

theorem run_replicate_done {s : Swarm} {j : Nat} {k : ControllerCall} {r : Except SwarmControllerError CallResult}
    (h : s.tasks[j]? = some (k, .done r)) (n : Nat) : s.run (List.replicate n j) = s := by
  induction n with
  | zero => rfl
  | succ n ih => rw [List.replicate_succ, run_cons, step_done h, ih]

end Swarm

/-- The steps a task holding the guard has still to take, its release
included. -/
def TaskPc.guardSteps : TaskPc → Nat
  | .send _ => 3
  | .receive _ => 2
  | .release _ => 1
  | .start | .store _ | .writeFlag _ | .done _ => 0

/-- Whether a task is past its last operation on the slot. -/
def TaskPc.finished : TaskPc → Bool
  | .writeFlag _ | .done _ => true
  | .start | .store _ | .send _ | .receive _ | .release _ => false

namespace Swarm

theorem guardSteps_afterSend (p : Protocol) (r : Except SignalingError Unit) : (afterSend p r).guardSteps ≤ 2 := by
  unfold afterSend
  split
  · simp [TaskPc.guardSteps]
  · split <;> simp [TaskPc.guardSteps]

/-- The serial schedule a concurrent run is compared with: the tasks of
`order` one after another, then the first `m` steps of the guard's
holder. -/
def serialSchedule (order : List Nat) (holder : Option Nat) (m : Nat) : List Nat :=
  serial order ++ (holder.map fun h => List.replicate m h).getD []

/-- A concurrent run `s` of `calls` on `ctl` against the serial run of the
tasks of `order` followed by `m` steps of the guard's holder: the tasks of
`order` are past their last operation on the slot, and the holder has as
many steps left as the serial run has yet to take of its four. -/
structure SerialWitness (ctl : SwarmController) (calls : List ControllerCall) (s : Swarm) (order : List Nat)
    (m : Nat) : Prop where
  nodup : order.Nodup
  finished : ∀ i ∈ order, ∃ k pc, s.tasks[i]? = some (k, pc) ∧ pc.finished = true
  related : Related ctl.platform s ((init ctl calls).run (serialSchedule order s.holder m))
  budget : ∀ h, s.holder = some h → ∃ k pc, s.tasks[h]? = some (k, pc) ∧ m + pc.guardSteps ≤ 4

namespace SerialWitness

variable {ctl : SwarmController} {calls : List ControllerCall} {s s' : Swarm} {order : List Nat} {m : Nat}
  {j : Nat} {k : ControllerCall} {a a' : TaskPc}

theorem not_mem (hw : SerialWitness ctl calls s order m) (ht : s.tasks[j]? = some (k, a))
    (ha : a.finished = false) : j ∉ order := fun hj => by
  obtain ⟨k', a'', h, hf⟩ := hw.finished j hj
  rw [ht] at h
  cases h
  rw [ha] at hf
  cases hf

/-- A step of task `j` that leaves slot, holder and log alone keeps the
witness. -/
theorem stay (hw : SerialWitness ctl calls s order m) (ht : s.tasks[j]? = some (k, a))
    (htasks : s'.tasks = s.tasks.set j (k, a')) (hslot : s'.ctl.signalingClient = s.ctl.signalingClient)
    (hp : s'.ctl.platform = s.ctl.platform) (hh : s'.holder = s.holder) (hl : s'.log = s.log)
    (hhold : s.holder ≠ some j) (hfin : a.finished = true → a'.finished = true)
    (hrel : ∀ b, PcRel ctl.platform k a b → PcRel ctl.platform k a' b) :
    SerialWitness ctl calls s' order m := by
  have hlt := (List.getElem?_eq_some_iff.1 ht).1
  obtain ⟨b, hz, hab⟩ := hw.related.task ht
  refine ⟨hw.nodup, fun i hi => ?_, ?_, fun h hsh => ?_⟩
  · rw [htasks]
    by_cases hij : i = j
    · subst hij
      obtain ⟨k', a'', h, hf⟩ := hw.finished i hi
      rw [ht] at h
      cases h
      exact ⟨k, a', List.getElem?_set_self hlt, hfin hf⟩
    · rw [List.getElem?_set_ne (Ne.symm hij)]
      exact hw.finished i hi
  · rw [hh]
    exact hw.related.update ht hz (hslot.trans hw.related.slot) (hp.trans hw.related.platform_left)
      hw.related.platform_right (hh.trans hw.related.holder) (hl.trans hw.related.log) htasks
      (set_self_of_getElem? hz).symm (hrel b hab)
  · rw [hh] at hsh
    rw [htasks, List.getElem?_set_ne (fun hjh => hhold (by rw [hjh]; exact hsh))]
    exact hw.budget h hsh

/-- A step of task `j` after which the guard is free and `j` is past its
last operation on the slot appends `j` to the order, when the serial run
with `j` run to its end is related to it. -/
theorem linearize (hw : SerialWitness ctl calls s order m) (ht : s.tasks[j]? = some (k, a))
    (ha : a.finished = false) (hh : s'.holder = none) (hother : ∀ i ≠ j, s'.tasks[i]? = s.tasks[i]?)
    (hj : s'.tasks[j]? = some (k, a')) (ha' : a'.finished = true)
    (hr : Related ctl.platform s' ((init ctl calls).run (serial order ++ [j, j, j, j]))) :
    SerialWitness ctl calls s' (order ++ [j]) 0 := by
  have hnot := hw.not_mem ht ha
  refine ⟨List.nodup_append.2 ⟨hw.nodup, List.nodup_singleton j, fun i hi hi' => ?_⟩, fun i hi => ?_, ?_,
    fun h hsh => by rw [hh] at hsh; cases hsh⟩
  · rw [List.mem_singleton.1 hi'] at hi
    exact hnot hi
  · rcases List.mem_append.1 hi with hi | hi
    · rw [hother i (fun hij => hnot (hij ▸ hi))]
      exact hw.finished i hi
    · rw [List.mem_singleton.1 hi]
      exact ⟨k, a', hj, ha'⟩
  · rw [hh]
    simpa [serialSchedule, serial_append, serial] using hr

/-- A step of task `j` after which `j` holds the guard keeps the order,
with the serial run `m'` steps into `j`. -/
theorem hold (hw : SerialWitness ctl calls s order m) (ht : s.tasks[j]? = some (k, a))
    (ha : a.finished = false) {m' : Nat} (hh : s'.holder = some j) (hother : ∀ i ≠ j, s'.tasks[i]? = s.tasks[i]?)
    (hj : s'.tasks[j]? = some (k, a')) (hbudget : m' + a'.guardSteps ≤ 4)
    (hr : Related ctl.platform s' ((init ctl calls).run (serial order ++ List.replicate m' j))) :
    SerialWitness ctl calls s' order m' := by
  have hnot := hw.not_mem ht ha
  refine ⟨hw.nodup, fun i hi => ?_, by rw [hh]; exact hr, fun h hsh => ?_⟩
  · rw [hother i (fun hij => hnot (hij ▸ hi))]
    exact hw.finished i hi
  · rw [hh] at hsh
    cases hsh
    exact ⟨k, a', hj, hbudget⟩

end SerialWitness

/-- **Every step keeps a serial witness.** One case per `Moves`: a step
that leaves the slot alone keeps the serial run, a step that takes or
holds the guard is matched by the same step of the serial run, and a step
after which its task is done with the slot and the guard is free appends
the task to the order. -/
theorem step_serialWitness {ctl : SwarmController} {calls : List ControllerCall} {s : Swarm}
    {order : List Nat} {m : Nat} (hg : GuardHeld s) (hw : SerialWitness ctl calls s order m) (j : Nat) :
    ∃ order' m', SerialWitness ctl calls (s.step j) order' m' := by
  rcases ht : s.tasks[j]? with _ | ⟨k, a⟩
  · have hs : s.step j = s := by simp [step, ht]
    exact ⟨order, m, by rw [hs]; exact hw⟩
  rcases ha : advance s.ctl s.holder j k a with _ | ⟨ctl', holder', a', out⟩
  · exact ⟨order, m, by rw [step_of_none ht ha]; exact hw⟩
  have hs := step_of_advance ht ha
  have hj : (s.step j).tasks[j]? = some (k, a') := by
    rw [hs]; exact List.getElem?_set_self (List.getElem?_eq_some_iff.1 ht).1
  have hother : ∀ i ≠ j, (s.step j).tasks[i]? = s.tasks[i]? := fun i hi => by
    rw [hs]; exact List.getElem?_set_ne (Ne.symm hi)
  have hjg : s.holder = some j ↔ a.holdsGuard = true := by simpa [ht] using hg j
  have hr := hw.related
  have hpl : s.ctl.platform = ctl.platform := hr.platform_left
  obtain ⟨b, hz, hab⟩ := hr.task ht
  -- the serial run, when the guard is free
  have hfree (hh : s.holder = none) :
      (init ctl calls).run (serial order) = (init ctl calls).run (serialSchedule order s.holder m) := by
    rw [hh]; simp [serialSchedule]
  cases moves_of_advance ha with
  | connect p a₀ =>
    exact ⟨order, m, hw.stay ht (by rw [hs]) (by rw [hs]) (by rw [hs]) (by rw [hs]) (by simp [hs])
      (fun h => by simpa [TaskPc.holdsGuard] using hjg.1 h) (by simp [TaskPc.finished])
      (fun b hb => by rw [hb.eq_start]; exact pcRel_dial p a₀)⟩
  | badHops t lo hi sh u e hh₀ =>
    exact ⟨order, m, hw.stay ht (by rw [hs]) (by rw [hs]) (by rw [hs]) (by rw [hs]) (by simp [hs])
      (fun h => by simpa [TaskPc.holdsGuard] using hjg.1 h) (by simp [TaskPc.finished])
      (fun b hb => by rw [hb.eq_start]; exact .deferred (by simp [ControllerCall.immediate?, ← hpl, hh₀]))⟩
  | writeFlag v =>
    exact ⟨order, m, hw.stay ht (by rw [hs]) (by rw [hs]) (by rw [hs]) (by rw [hs]) (by simp [hs])
      (fun h => by simpa [TaskPc.holdsGuard] using hjg.1 h) (by intro; rfl)
      (fun b hb => by rw [hb.of_writeFlag]; exact .done _)⟩
  | disconnect hh₀ =>
    obtain rfl := hab.eq_start
    refine ⟨order ++ [j], 0, hw.linearize ht rfl (by rw [hs]) hother hj rfl ?_⟩
    rw [run_append, hfree hh₀, run_disconnect (hr.holder ▸ hh₀) hz, hs]
    exact hr.update ht hz rfl hpl hr.platform_right rfl (by rw [hr.log]) rfl rfl (.flagPending false)
  | notConnected hk hh₀ hc =>
    obtain rfl := hab.eq_start
    refine ⟨order ++ [j], 0, hw.linearize ht rfl (by rw [hs]) hother hj rfl ?_⟩
    rw [run_append, hfree hh₀, run_notConnected (hr.holder ▸ hh₀) hz
      (by rw [hr.platform_right, ← hpl]; exact hk) (hr.slot.symm.trans hc), hs]
    exact hr.update ht hz hr.slot hpl hr.platform_right (hr.holder ▸ hh₀ ▸ rfl) (by simp [hr.log]) rfl rfl (.done _)
  | store c hh₀ =>
    obtain ⟨rfl, p, a₀, rfl, hd⟩ := hab.of_store
    refine ⟨order ++ [j], 0, hw.linearize ht rfl (by rw [hs]) hother hj rfl ?_⟩
    rw [run_append, hfree hh₀, run_connect_stored (hr.holder ▸ hh₀) hz hd, hs]
    exact hr.update ht hz rfl hpl hr.platform_right rfl (by rw [hr.log]) rfl rfl (.flagPending true)
  | acquire hk hh₀ hc =>
    obtain rfl := hab.eq_start
    refine ⟨order, 1, hw.hold ht rfl (by rw [hs]) hother hj (by simp [TaskPc.guardSteps]) ?_⟩
    rw [List.replicate_one, run_append, hfree hh₀, run_cons, run_nil]
    exact hr.lockstep ht hz ha (.held rfl)
  | @send _ p c hc =>
    have hh := hjg.2 rfl
    obtain rfl := hab.eq_of_holdsGuard rfl
    obtain ⟨k', pc', hk', hbud⟩ := hw.budget j hh
    rw [ht] at hk'
    cases hk'
    refine ⟨order, m + 1, hw.hold ht rfl (by rw [hs, hh]) hother hj (by
      have := guardSteps_afterSend p (c.sendMessage (p.request c)).2
      simp only [TaskPc.guardSteps] at hbud
      omega) ?_⟩
    rw [List.replicate_succ', ← List.append_assoc, run_append, run_cons, run_nil]
    have : (init ctl calls).run (serial order ++ List.replicate m j) =
        (init ctl calls).run (serialSchedule order s.holder m) := by rw [hh]; rfl
    rw [this]
    exact hr.lockstep ht hz ha (.held (holdsGuard_afterSend _ _))
  | receive hc =>
    have hh := hjg.2 rfl
    obtain rfl := hab.eq_of_holdsGuard rfl
    obtain ⟨k', pc', hk', hbud⟩ := hw.budget j hh
    rw [ht] at hk'
    cases hk'
    refine ⟨order, m + 1, hw.hold ht rfl (by rw [hs, hh]) hother hj
      (by simp only [TaskPc.guardSteps] at hbud ⊢; omega) ?_⟩
    rw [List.replicate_succ', ← List.append_assoc, run_append, run_cons, run_nil]
    have : (init ctl calls).run (serial order ++ List.replicate m j) =
        (init ctl calls).run (serialSchedule order s.holder m) := by rw [hh]; rfl
    rw [this]
    exact hr.lockstep ht hz ha (.held rfl)
  | release r =>
    have hh := hjg.2 rfl
    obtain rfl := hab.eq_of_holdsGuard rfl
    obtain ⟨k', pc', hk', hbud⟩ := hw.budget j hh
    rw [ht] at hk'
    cases hk'
    simp only [TaskPc.guardSteps] at hbud
    refine ⟨order ++ [j], 0, hw.linearize ht rfl (by rw [hs]) hother hj rfl ?_⟩
    -- the serial run takes the release, then its last steps find the task done
    have h₄ : [j, j, j, j] = List.replicate m j ++ j :: List.replicate (3 - m) j := by
      rw [← List.replicate_succ, ← List.replicate_add, show m + (3 - m + 1) = 4 by omega]; rfl
    have hz' : (((init ctl calls).run (serialSchedule order s.holder m)).step j).tasks[j]? = some (k, .done r) := by
      rw [step_of_advance hz rfl]
      exact List.getElem?_set_self (List.getElem?_eq_some_iff.1 hz).1
    have : (init ctl calls).run (serial order ++ [j, j, j, j]) =
        ((init ctl calls).run (serialSchedule order s.holder m)).step j := by
      rw [h₄, ← List.append_assoc, run_append, run_cons, hh, run_replicate_done (hh ▸ hz') (3 - m)]
      rfl
    rw [this]
    exact hr.lockstep ht hz ha (.done r)

theorem serialWitness_init (ctl : SwarmController) (calls : List ControllerCall) :
    SerialWitness ctl calls (init ctl calls) [] 0 := by
  refine ⟨List.nodup_nil, fun _ h => (List.not_mem_nil _ h).elim, ⟨rfl, rfl, rfl, rfl, rfl, fun i => ?_⟩,
    fun h hh => by cases hh⟩
  show TaskRel ctl.platform (calls.map fun k => (k, TaskPc.start))[i]? (calls.map fun k => (k, TaskPc.start))[i]?
  rw [List.getElem?_map]
  cases calls[i]?
  · trivial
  · exact ⟨rfl, .start⟩

/-- Under every interleaving, the guard stays with its holder and the run
has a serial witness. -/
theorem run_serialWitness (ctl : SwarmController) (calls : List ControllerCall) (sched : List Nat) :
    GuardHeld ((init ctl calls).run sched) ∧
      ∃ order m, SerialWitness ctl calls ((init ctl calls).run sched) order m :=
  @run_of_step (fun s => GuardHeld s ∧ ∃ order m, SerialWitness ctl calls s order m)
    (fun s j ⟨hg, _, _, hw⟩ => ⟨step_guardHeld s j hg, step_serialWitness hg hw j⟩) _ sched
    ⟨guardHeld_init ctl calls, [], 0, serialWitness_init ctl calls⟩

theorem run_length (s : Swarm) (sched : List Nat) : (s.run sched).tasks.length = s.tasks.length := by
  induction sched generalizing s with
  | nil => rfl
  | cons j sched ih => rw [run_cons, ih, step_length]

theorem done_of_result? {s : Swarm} {i : Nat} (h : s.result? i ≠ none) :
    ∃ k r, s.tasks[i]? = some (k, .done r) := by
  unfold result? at h
  split at h
  · exact ⟨_, _, ‹_›⟩
  · exact absurd rfl h

/-- Once every call has returned, no task holds the guard. -/
theorem holder_none_of_returned {s : Swarm} (hg : GuardHeld s)
    (hdone : ∀ i < s.tasks.length, s.result? i ≠ none) : s.holder = none := by
  rcases hh : s.holder with _ | h
  · rfl
  have hk := (hg h).1 hh
  rcases ht : s.tasks[h]? with _ | ⟨k, pc⟩ <;> rw [ht] at hk
  · cases hk
  obtain ⟨k', r, ht'⟩ := done_of_result? (hdone h (List.getElem?_eq_some_iff.1 ht).1)
  rw [ht] at ht'
  cases ht'
  cases hk

theorem init_getElem? (ctl : SwarmController) {calls : List ControllerCall} {i : Nat} (hi : i < calls.length) :
    (init ctl calls).tasks[i]? = some (calls.getD i .disconnect, .start) := by
  simp [init, List.getElem?_map, List.getElem?_eq_getElem hi, List.getD_eq_getElem _ _ hi]

namespace Related

variable {pl : Platform} {s z : Swarm}

/-- Where both runs have returned, they returned the same. -/
theorem result?_eq (hr : Related pl s z) {i : Nat} (hs : s.result? i ≠ none) (hz : z.result? i ≠ none) :
    s.result? i = z.result? i := by
  obtain ⟨k, r, hsi⟩ := done_of_result? hs
  obtain ⟨b, hzi, hab⟩ := hr.task hsi
  rcases hab.of_done with rfl | ⟨rfl, -⟩
  · rw [result?_of_done hsi, result?_of_done hzi]
  · simp [result?, hzi] at hz

/-- The tasks that returned without touching the slot, run last in the
serial run, leave the runs related. -/
theorem run_deferred (hr : Related pl s z) (D : List Nat) (hD : D.Nodup)
    (hdef : ∀ i ∈ D, ∃ k r, s.tasks[i]? = some (k, .done r) ∧ z.tasks[i]? = some (k, .start)) :
    Related pl s (z.run (serial D)) := by
  induction D generalizing z with
  | nil => exact hr
  | cons i D ih =>
    obtain ⟨hi, hD⟩ := List.nodup_cons.1 hD
    obtain ⟨k, r, hsi, hzi⟩ := hdef i (List.mem_cons_self i D)
    obtain ⟨b, hzi', hab⟩ := hr.task hsi
    rw [hzi] at hzi'
    cases hzi'
    obtain ⟨-, himm⟩ := hab.of_done.resolve_left (by simp)
    obtain ⟨h₁, -, h₂⟩ := run_immediate hzi (hr.platform_right ▸ himm)
    rw [serial_cons, run_append]
    refine ih (hr.update hsi hzi (h₁ ▸ hr.slot.trans h₂.symm) hr.platform_left
      (h₁ ▸ (SwarmController.call_cells z.ctl k).1.trans hr.platform_right) (h₁ ▸ hr.holder) (h₁ ▸ hr.log)
      (set_self_of_getElem? hsi).symm (by rw [h₁]) (.done r)) hD (fun i' hi' => ?_)
    obtain ⟨k', r', hs', hz'⟩ := hdef i' (List.mem_cons_of_mem i hi')
    refine ⟨k', r', hs', ?_⟩
    rw [h₁]
    show (z.tasks.set i (k, .done r))[i']? = _
    rw [List.getElem?_set_ne (fun hii => hi (by rw [hii]; exact hi')), hz']

end Related

end Swarm

/-! ## Concurrent calls serialise -/

/-- Distinct indices below `n`, followed by the other indices below `n`,
are all of them. -/
theorem perm_range_append_rest {order : List Nat} {n : Nat} (hnd : order.Nodup) (hlt : ∀ i ∈ order, i < n) :
    (order ++ (List.range n).filter fun i => i ∉ order).Perm (List.range n) := by
  have hnd' : (order ++ (List.range n).filter fun i => i ∉ order).Nodup :=
    List.nodup_append.2 ⟨hnd, (List.nodup_range _).filter _, fun i hi hi' => by simp_all⟩
  refine (List.perm_ext_iff_of_nodup hnd' (List.nodup_range _)).2 fun i => ?_
  by_cases hi : i ∈ order <;> simp [hi, hlt]

end Zks.Wire
