/-
Zks.Wire.SwarmControllerTheorems — the controller's three cells when its
calls do not overlap.

## How the proofs go

`delegate_fst` and `delegate_notConnected` say once what the shared body of
the delegating methods does to the cells and when it returns
`NotConnected`; `call_cells` gives, for every call, the cells after it.
`Coherent` (the flag says whether the slot holds a client, and a client
comes with a peer id) holds after `new` and every call keeps it
(`call_coherent`), so it holds after every sequence of calls
(`calls_coherent`). The peer id is the last `connect`'s
(`calls_localPeerId`), from the same step lemma.
-/
import Mathlib
import Zks.Wire.SwarmController

namespace Zks.Wire

/-- Whether a call goes through the client: the three delegating calls,
and `build_onion_circuit` once its hop bounds pass. -/
def ControllerCall.needsClient (platform : Platform) : ControllerCall → Bool
  | .joinRoom .. | .discoverPeers _ | .getSwarmEntropy .. => true
  | .buildOnionCircuit _ lo hi _ _ => (SwarmController.checkHops platform lo hi).toBool
  | _ => false

/-- The peer id a call stores: `connect`'s, whether or not its dial
succeeds. -/
def ControllerCall.connectsAs : ControllerCall → Option String
  | .connect p _ => some p
  | _ => none

namespace SwarmController

/-! ## The shared body of the delegating methods -/

theorem delegate_fst {α : Type} (ctl : SwarmController) (context : String)
    (op : SignalingClient → SignalingClient × Except SignalingError α) :
    (ctl.delegate context op).1 =
      { ctl with signalingClient := ctl.signalingClient.map fun c => (op c).1 } := by
  obtain ⟨_, _ | _, _, _⟩ := ctl <;> rfl

theorem delegate_notConnected {α : Type} (ctl : SwarmController) (context : String)
    (op : SignalingClient → SignalingClient × Except SignalingError α) :
    (ctl.delegate context op).2 = .error .notConnected ↔ ctl.signalingClient = none := by
  unfold delegate
  cases ctl.signalingClient with
  | none => simp
  | some c =>
    simp only [reduceCtorEq, iff_false]
    cases (op c).2 <;> simp

/-- The platform, the flag, the peer id and whether the slot holds a client
after a call. -/
theorem call_cells (ctl : SwarmController) (k : ControllerCall) :
    (ctl.call k).1.platform = ctl.platform ∧
    ((ctl.call k).1.isConnected, (ctl.call k).1.signalingClient.isSome, (ctl.call k).1.localPeerId) =
      match k with
      | .connect p a =>
        match SignalingClient.connect p a with
        | .ok _ => (true, true, some p)
        | .error _ => (ctl.isConnected, ctl.signalingClient.isSome, some p)
      | .disconnect => (false, false, ctl.localPeerId)
      | _ => (ctl.isConnected, ctl.signalingClient.isSome, ctl.localPeerId) := by
  cases k with
  | connect p a =>
    simp only [call, connect]
    cases SignalingClient.connect p a <;> simp
  | disconnect => simp [call, disconnect]
  | buildOnionCircuit t lo hi sh u =>
    simp only [call, buildOnionCircuit]
    cases checkHops ctl.platform lo hi with
    | error e => simp
    | ok u =>
      have hd := delegate_fst ctl "Failed to discover peers" fun c => c.discoverPeers "default"
      simp only [discoverPeers]
      rcases h : ctl.delegate "Failed to discover peers" (fun c => c.discoverPeers "default") with
        ⟨ctl', _ | _⟩ <;> rw [h] at hd <;> (simp only at hd; subst hd; simp)
  | _ => simp [call, joinRoom, discoverPeers, getSwarmEntropy, delegate_fst]

/-- A call stores the peer id it connects as, and keeps the one there
otherwise. -/
theorem call_localPeerId (ctl : SwarmController) (k : ControllerCall) :
    (ctl.call k).1.localPeerId = k.connectsAs.or ctl.localPeerId := by
  have h := congrArg (fun x => x.2.2) (call_cells ctl k).2
  cases k with
  | connect p a => cases hc : SignalingClient.connect p a <;> simp_all [ControllerCall.connectsAs]
  | _ => simpa [ControllerCall.connectsAs] using h

/-! ## Coherence -/

/-- The cells agree: the flag says whether the slot holds a client, and a
client comes with a peer id. -/
def Coherent (ctl : SwarmController) : Prop :=
  ctl.isConnected = ctl.signalingClient.isSome ∧
    (ctl.signalingClient.isSome = true → ctl.localPeerId.isSome = true)

theorem coherent_new (platform : Platform) : Coherent (new platform) := by
  simp [Coherent, new]

/-- Every call, run alone, keeps the cells coherent. -/
theorem call_coherent {ctl : SwarmController} (k : ControllerCall) (h : Coherent ctl) :
    Coherent (ctl.call k).1 := by
  obtain ⟨-, hc⟩ := call_cells ctl k
  unfold Coherent at *
  cases k with
  | connect p a => cases hr : SignalingClient.connect p a <;> simp only [hr] at hc <;> simp_all
  | disconnect => simp_all
  | _ => simp_all

/-! ## When a call returns `NotConnected` -/

theorem checkHops_error {platform : Platform} {lo hi : UInt8} {e : SwarmControllerError}
    (h : checkHops platform lo hi = .error e) : ∃ s, e = .invalidCircuitConfig s := by
  dsimp only [checkHops] at h
  split at h <;> cases h
  exact ⟨_, rfl⟩

theorem planCircuit_error {platform : Platform} {t : String} {hi : UInt8} {ps : List PeerInfo}
    {sh : List Nat} {u : String} {e : SwarmControllerError}
    (h : planCircuit platform t hi ps sh u = .error e) : ∃ s, e = .notEnoughPeers s := by
  dsimp only [planCircuit] at h
  split at h <;> cases h
  exact ⟨_, rfl⟩

theorem map_eq_error {ε α β : Type} (f : α → β) (x : Except ε α) (e : ε) :
    x.map f = .error e ↔ x = .error e := by
  cases x <;> simp [Except.map]

/-- A call returns `NotConnected` exactly when it goes through the client
and the slot is empty. -/
theorem call_notConnected (ctl : SwarmController) (k : ControllerCall) :
    (ctl.call k).2 = .error .notConnected ↔
      k.needsClient ctl.platform = true ∧ ctl.signalingClient = none := by
  cases k with
  | connect p a =>
    rcases hr : SignalingClient.connect p a <;> simp [call, connect, hr, ControllerCall.needsClient, map_eq_error]
  | disconnect => simp [call, disconnect, ControllerCall.needsClient, map_eq_error]
  | buildOnionCircuit t lo hi sh u =>
    simp only [call, buildOnionCircuit, ControllerCall.needsClient]
    rcases hh : checkHops ctl.platform lo hi with e | ⟨⟩
    · obtain ⟨s, rfl⟩ := checkHops_error hh
      simp only [map_eq_error, Except.toBool]
      simp
    · rcases hd : ctl.discoverPeers "default" with ⟨ctl', res⟩
      have hn := delegate_notConnected ctl "Failed to discover peers" fun c => c.discoverPeers "default"
      rw [← discoverPeers, hd] at hn
      cases res with
      | error e => simpa [Except.toBool, map_eq_error] using hn
      | ok ps =>
        simp only [Except.toBool, true_and, reduceCtorEq, iff_false] at hn ⊢
        rcases hp : planCircuit ctl'.platform t hi ps sh u with e | _
        · obtain ⟨s, rfl⟩ := planCircuit_error hp
          simpa [Except.map] using hn
        · simpa [Except.map] using hn
  | _ =>
    simp only [call, joinRoom, discoverPeers, getSwarmEntropy, ControllerCall.needsClient, true_and,
      map_eq_error]
    exact delegate_notConnected _ _ _

@[simp] theorem calls_nil (ctl : SwarmController) : ctl.calls [] = (ctl, []) := rfl

theorem calls_cons (ctl : SwarmController) (k : ControllerCall) (ks : List ControllerCall) :
    ctl.calls (k :: ks) = (((ctl.call k).1.calls ks).1, (ctl.call k).2 :: ((ctl.call k).1.calls ks).2) :=
  rfl

theorem calls_coherent {ctl : SwarmController} (ks : List ControllerCall) (h : Coherent ctl) :
    Coherent (ctl.calls ks).1 := by
  induction ks generalizing ctl with
  | nil => exact h
  | cons k ks ih => exact ih (call_coherent k h)

/-- After calls made one at a time, the peer id is the last `connect`'s,
whether or not its dial succeeded. -/
theorem calls_localPeerId (ctl : SwarmController) (ks : List ControllerCall) :
    (ctl.calls ks).1.localPeerId = (ks.reverse.findSome? ControllerCall.connectsAs).or ctl.localPeerId := by
  induction ks generalizing ctl with
  | nil => simp
  | cons k ks ih =>
    rw [calls_cons, ih, call_localPeerId, List.reverse_cons, List.findSome?_append, Option.or_assoc]
    cases k <;> rfl

theorem calls_platform (ctl : SwarmController) (ks : List ControllerCall) :
    (ctl.calls ks).1.platform = ctl.platform := by
  induction ks generalizing ctl with
  | nil => rfl
  | cons k ks ih => exact (ih _).trans (call_cells ctl k).1

/-- Run one at a time, a call that goes through the client fails with
`NotConnected` exactly when the flag is down. -/
theorem call_notConnected_of_coherent {ctl : SwarmController} (h : Coherent ctl) (k : ControllerCall) :
    (ctl.call k).2 = .error .notConnected ↔
      k.needsClient ctl.platform = true ∧ ctl.isConnected = false := by
  rw [call_notConnected, h.1, Option.not_isSome_iff_eq_none.symm, Bool.not_eq_true]

end SwarmController

end Zks.Wire
