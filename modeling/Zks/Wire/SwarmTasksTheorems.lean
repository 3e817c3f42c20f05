/-
Zks.Wire.SwarmTasksTheorems — what holds of the controller under every
interleaving of its calls.

## How the proofs go

`step_of_advance`, `step_of_none` and `step_other` say what one step does to
the tasks; `advance_congr` that a step reads of the controller only its
slot and platform, so two controllers that agree there take the same step.
-/
import Mathlib
import Zks.Wire.SwarmTasks
import Zks.Wire.SwarmControllerTheorems

namespace Zks.Wire

namespace Swarm

/-! ## Steps and runs -/

@[simp] theorem run_nil (s : Swarm) : s.run [] = s := rfl

@[simp] theorem run_cons (s : Swarm) (i : Nat) (is : List Nat) : s.run (i :: is) = (s.step i).run is :=
  rfl

theorem run_append (s : Swarm) (a b : List Nat) : s.run (a ++ b) = (s.run a).run b := by
  induction a generalizing s <;> simp [*]

theorem step_of_advance {s : Swarm} {i : Nat} {k : ControllerCall} {pc pc' : TaskPc}
    {ctl : SwarmController} {holder : Option Nat} {out : List Traffic}
    (ht : s.tasks[i]? = some (k, pc)) (ha : advance s.ctl s.holder i k pc = some (ctl, holder, pc', out)) :
    s.step i = { ctl, holder, tasks := s.tasks.set i (k, pc'), log := s.log ++ out } := by
  simp [step, ht, ha]

theorem step_of_none {s : Swarm} {i : Nat} {k : ControllerCall} {pc : TaskPc}
    (ht : s.tasks[i]? = some (k, pc)) (ha : advance s.ctl s.holder i k pc = none) : s.step i = s := by
  simp [step, ht, ha]

theorem step_done {s : Swarm} {i : Nat} {k : ControllerCall} {r : Except SwarmControllerError CallResult}
    (ht : s.tasks[i]? = some (k, .done r)) : s.step i = s :=
  step_of_none ht rfl

@[simp] theorem step_length (s : Swarm) (i : Nat) : (s.step i).tasks.length = s.tasks.length := by
  unfold step
  split
  · rfl
  · split <;> simp

/-- A step of task `i` leaves the other tasks where they are. -/
theorem step_other (s : Swarm) {i j : Nat} (hij : i ≠ j) : (s.step i).tasks[j]? = s.tasks[j]? := by
  unfold step
  split
  · rfl
  · split
    · rfl
    · simp [List.getElem?_set, hij]

/-- A step reads of the controller only its slot and its platform. -/
theorem advance_congr {c₁ c₂ : SwarmController} (hs : c₁.signalingClient = c₂.signalingClient)
    (hp : c₁.platform = c₂.platform) (holder : Option Nat) (i : Nat) (k : ControllerCall) (pc : TaskPc) :
    (advance c₁ holder i k pc).map (fun r => (r.1.signalingClient, r.2)) =
      (advance c₂ holder i k pc).map (fun r => (r.1.signalingClient, r.2)) := by
  cases pc with
  | start =>
    cases k with
    | connect p a => simp [advance, hs]
    | disconnect => cases holder <;> simp [advance]
    | buildOnionCircuit t lo hi sh u =>
      simp only [advance, hp]
      cases SwarmController.checkHops c₂.platform lo hi with
      | error e => simp [hs]
      | ok u => cases holder <;> simp [acquire, hs]; cases c₂.signalingClient <;> simp [hs]
    | _ => cases holder <;> simp [advance, acquire, hs]; cases c₂.signalingClient <;> simp [hs]
  | store c => cases holder <;> simp [advance]
  | writeFlag b => simp [advance, hs]
  | send p => simp only [advance, hs]; cases c₂.signalingClient <;> simp
  | receive f => simp only [advance, hs]; cases c₂.signalingClient <;> simp
  | release r => simp [advance, hs]
  | done r => rfl

end Swarm

/-! ## What a step can do -/

/-- The protocol a call runs under the guard, if it takes the guard: the
three delegating calls, and `build_onion_circuit` once its hop bounds
pass. -/
def ControllerCall.protocol? (platform : Platform) : ControllerCall → Option Protocol
  | .joinRoom r caps now => some (ControllerCall.joinProtocol r caps now)
  | .discoverPeers r => some (ControllerCall.discoverProtocol r fun ps => .ok (.peers ps))
  | .getSwarmEntropy r q => some (ControllerCall.entropyProtocol r q)
  | .buildOnionCircuit t lo hi sh u =>
    match SwarmController.checkHops platform lo hi with
    | .ok () => some (ControllerCall.buildProtocol platform t hi sh u)
    | .error _ => none
  | _ => none

/-- Whether a task holds the slot's write guard at this program counter. -/
def TaskPc.holdsGuard : TaskPc → Bool
  | .start | .store _ | .writeFlag _ | .done _ => false
  | .send _ | .receive _ | .release _ => true

namespace Swarm

/-- Everything one step of task `i` running call `k` can do, by the
program counter it starts from: the new controller, guard holder, program
counter and slot operations. -/
inductive Moves (ctl : SwarmController) (holder : Option Nat) (i : Nat) :
    ControllerCall → TaskPc → SwarmController × Option Nat × TaskPc × List Traffic → Prop
  | connect (p : String) (a : Except String WsStream) :
    Moves ctl holder i (.connect p a) .start ({ ctl with localPeerId := some p }, holder, dial p a, [])
  | disconnect : holder = none →
    Moves ctl holder i .disconnect .start ({ ctl with signalingClient := none }, none, .writeFlag false, [.taken i])
  | badHops (t : String) (lo hi : UInt8) (sh : List Nat) (u : String) (e : SwarmControllerError) :
    SwarmController.checkHops ctl.platform lo hi = .error e →
    Moves ctl holder i (.buildOnionCircuit t lo hi sh u) .start (ctl, holder, .done (.error e), [])
  | notConnected {k : ControllerCall} {p : Protocol} : k.protocol? ctl.platform = some p → holder = none →
    ctl.signalingClient = none → Moves ctl holder i k .start (ctl, none, .done (.error .notConnected), [])
  | acquire {k : ControllerCall} {p : Protocol} {c : SignalingClient} : k.protocol? ctl.platform = some p →
    holder = none → ctl.signalingClient = some c → Moves ctl holder i k .start (ctl, some i, .send p, [])
  | store {k : ControllerCall} (c : SignalingClient) : holder = none →
    Moves ctl holder i k (.store c) ({ ctl with signalingClient := some c }, none, .writeFlag true, [.stored i])
  | writeFlag {k : ControllerCall} (b : Bool) :
    Moves ctl holder i k (.writeFlag b) ({ ctl with isConnected := b }, holder, .done (.ok .unit), [])
  | send {k : ControllerCall} {p : Protocol} {c : SignalingClient} : ctl.signalingClient = some c →
    Moves ctl holder i k (.send p) ({ ctl with signalingClient := some (c.sendMessage (p.request c)).1 }, holder,
      afterSend p (c.sendMessage (p.request c)).2, [.sent i])
  | receive {k : ControllerCall} {f} {c : SignalingClient} : ctl.signalingClient = some c →
    Moves ctl holder i k (.receive f) ({ ctl with signalingClient := some c.receiveMessage.1 }, holder,
      .release (f c.receiveMessage.2), [.received i])
  | release {k : ControllerCall} (r : Except SwarmControllerError CallResult) :
    Moves ctl holder i k (.release r) (ctl, none, .done r, [])

section
variable {ctl : SwarmController} {holder : Option Nat} {i : Nat} {k : ControllerCall} {pc : TaskPc}
  {r : SwarmController × Option Nat × TaskPc × List Traffic}

theorem moves_of_acquire {p : Protocol} (hk : k.protocol? ctl.platform = some p)
    (h : acquire ctl holder i p = some r) : Moves ctl holder i k .start r := by
  rcases holder with _ | _
  · rcases hc : ctl.signalingClient with _ | c <;> simp only [acquire, hc] at h <;> cases h
    · exact .notConnected hk rfl hc
    · exact .acquire hk rfl hc
  · cases h

/-- The inversion of `advance`: a step that moves is one of `Moves`. -/
theorem moves_of_advance (h : advance ctl holder i k pc = some r) : Moves ctl holder i k pc r := by
  cases pc with
  | start =>
    cases k with
    | connect p a => cases h; exact .connect p a
    | disconnect => rcases holder with _ | _ <;> cases h; exact .disconnect rfl
    | buildOnionCircuit t lo hi sh u =>
      rcases hh : SwarmController.checkHops ctl.platform lo hi with e | ⟨⟩ <;> simp only [advance, hh] at h
      · cases h; exact .badHops t lo hi sh u e hh
      · exact moves_of_acquire (by simp [ControllerCall.protocol?, hh]) h
    | _ => exact moves_of_acquire rfl h
  | store c => rcases holder with _ | _ <;> cases h; exact .store c rfl
  | writeFlag b => cases h; exact .writeFlag b
  | send p => rcases hc : ctl.signalingClient with _ | c <;> simp only [advance, hc] at h <;> cases h; exact .send hc
  | receive f =>
    rcases hc : ctl.signalingClient with _ | c <;> simp only [advance, hc] at h <;> cases h; exact .receive hc
  | release res => cases h; exact .release res
  | done res => cases h

/-- No step changes the platform. -/
theorem Moves.platform (h : Moves ctl holder i k pc r) : r.1.platform = ctl.platform := by
  cases h <;> rfl

end

theorem getElem?_set_of_ne {α : Type} {l : List α} {j i : Nat} {x y : α}
    (h : (l.set j x)[i]? = some y) (hxy : x ≠ y) : l[i]? = some y := by
  rw [List.getElem?_set] at h
  split_ifs at h
  · cases h; exact absurd rfl hxy
  · exact h

/-- A step that moves, on the whole swarm. -/
theorem step_of_moves {s : Swarm} {j : Nat} {k : ControllerCall} {pc : TaskPc}
    (ht : s.tasks[j]? = some (k, pc)) :
    s.step j = s ∨ ∃ ctl holder pc' out, Moves s.ctl s.holder j k pc (ctl, holder, pc', out) ∧
      s.step j = { ctl, holder, tasks := s.tasks.set j (k, pc'), log := s.log ++ out } := by
  rcases ha : advance s.ctl s.holder j k pc with _ | ⟨ctl, holder, pc', out⟩
  · exact .inl (step_of_none ht ha)
  · exact .inr ⟨ctl, holder, pc', out, moves_of_advance ha, step_of_advance ht ha⟩

/-- A property kept by every step holds after every run. -/
theorem run_of_step {P : Swarm → Prop} (hstep : ∀ s j, P s → P (s.step j)) {s : Swarm} (sched : List Nat)
    (hs : P s) : P (s.run sched) := by
  induction sched generalizing s with
  | nil => exact hs
  | cons j sched ih => exact ih (hstep s j hs)

/-! ## The peer id comes before the client -/

/-- A client in the slot, or one a task is about to store, comes with a
peer id. -/
def PeerIdFirst (s : Swarm) : Prop :=
  (s.ctl.signalingClient.isSome = true → s.ctl.localPeerId.isSome = true) ∧
    ∀ (i : Nat) (k : ControllerCall) (c : SignalingClient), s.tasks[i]? = some (k, .store c) →
      s.ctl.localPeerId.isSome = true

/-- Every step keeps the peer id ahead of the client: `connect` writes the
peer id before it dials, and nothing clears it. -/
theorem step_peerIdFirst (s : Swarm) (j : Nat) (hs : PeerIdFirst s) : PeerIdFirst (s.step j) := by
  rcases ht : s.tasks[j]? with _ | ⟨k, pc⟩
  · simpa [step, ht] using hs
  obtain h | ⟨ctl, holder, pc', out, hm, h⟩ := step_of_moves ht
  · rwa [h]
  rw [h]
  obtain ⟨h₁, h₂⟩ := hs
  -- a task about to store after the step was so before it, unless it is `j`
  have hkeep (hpc : ∀ c, pc' ≠ .store c) : ∀ (i : Nat) (k' : ControllerCall) (c : SignalingClient),
      (s.tasks.set j (k, pc'))[i]? = some (k', .store c) →
      s.ctl.localPeerId.isSome = true :=
    fun i k' c hi => h₂ i k' c (getElem?_set_of_ne hi (by simp [hpc c]))
  cases hm with
  | connect p a => exact ⟨fun _ => rfl, fun _ _ _ _ => rfl⟩
  | store c => exact ⟨fun _ => h₂ j k c ht, fun _ _ _ _ => h₂ j k c ht⟩
  | send hc | receive hc =>
    have hp := h₁ (by simp [hc])
    exact ⟨fun _ => hp, fun _ _ _ _ => hp⟩
  | disconnect => exact ⟨by simp, hkeep (by simp)⟩
  | writeFlag | badHops | notConnected | acquire | release => exact ⟨h₁, hkeep (by simp)⟩

/-- **Under every interleaving, a client in the slot comes with a peer
id**, from any controller where it did. -/
theorem run_peerIdFirst (ctl : SwarmController) (calls : List ControllerCall) (sched : List Nat)
    (h : ctl.signalingClient.isSome = true → ctl.localPeerId.isSome = true) :
    PeerIdFirst ((init ctl calls).run sched) :=
  run_of_step step_peerIdFirst sched ⟨h, fun i k c hi => by simp [init, List.getElem?_map] at hi⟩

/-! ## The guard -/

/-- The guard is held by the task whose program counter says it holds it,
and by no other. -/
def GuardHeld (s : Swarm) : Prop :=
  ∀ i, s.holder = some i ↔ (s.tasks[i]?.any fun t => t.2.holdsGuard) = true

@[simp] theorem holdsGuard_dial (p : String) (a : Except String WsStream) :
    (dial p a).holdsGuard = false := by
  unfold dial; split <;> rfl

@[simp] theorem holdsGuard_afterSend (p : Protocol) (r : Except SignalingError Unit) :
    (afterSend p r).holdsGuard = true := by
  unfold afterSend; split
  · rfl
  · split <;> rfl

/-- Every step keeps the guard with the task that holds it. -/
theorem step_guardHeld (s : Swarm) (j : Nat) (hs : GuardHeld s) : GuardHeld (s.step j) := by
  rcases ht : s.tasks[j]? with _ | ⟨k, pc⟩
  · simpa [step, ht] using hs
  obtain h | ⟨ctl, holder, pc', out, hm, h⟩ := step_of_moves ht
  · rwa [h]
  rw [h]
  have hlt : j < s.tasks.length := (List.getElem?_eq_some_iff.1 ht).1
  have hj : s.holder = some j ↔ pc.holdsGuard = true := by simpa [ht] using hs j
  -- the new holder is `j` exactly when its new program counter holds the guard, and is no other task
  -- than before
  suffices key : (holder = some j ↔ pc'.holdsGuard = true) ∧ ∀ i ≠ j, (holder = some i ↔ s.holder = some i) by
    intro i
    by_cases hij : i = j
    · subst hij; simpa [List.getElem?_set_self hlt] using key.1
    · rw [key.2 i hij, hs i, List.getElem?_set_ne (Ne.symm hij)]
  cases hm with
  | connect => exact ⟨by rw [holdsGuard_dial]; exact hj, fun _ _ => Iff.rfl⟩
  | send _ => exact ⟨by rw [holdsGuard_afterSend]; exact hj, fun _ _ => Iff.rfl⟩
  | badHops | writeFlag | receive _ => exact ⟨hj, fun _ _ => Iff.rfl⟩
  | disconnect hh | notConnected _ hh _ | store _ hh =>
    exact ⟨by simp [TaskPc.holdsGuard], fun i _ => by simp [hh]⟩
  | acquire _ hh _ => exact ⟨by simp [TaskPc.holdsGuard], fun i hij => by simp [hh, Ne.symm hij]⟩
  | release r =>
    have hh : s.holder = some j := hj.2 rfl
    exact ⟨by simp [TaskPc.holdsGuard], fun i hij => by simp [hh, Ne.symm hij]⟩

theorem guardHeld_init (ctl : SwarmController) (calls : List ControllerCall) : GuardHeld (init ctl calls) := by
  intro i
  simp only [init, List.getElem?_map]
  cases calls[i]? <;> simp [TaskPc.holdsGuard]

end Swarm

/-! ## The cells of the controller -/

end Zks.Wire
