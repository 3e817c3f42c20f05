/-
Zks.Wire.CircuitPlanning — the hop check of `build_onion_circuit` and the
path it plans, for every platform, hop pair, discovered peer list and
shuffle.

`build_onion_circuit` compares `min_hops` with the platform's minimum and
`max_hops` with its maximum, discovers the peers of room `"default"`, and
plans the path from them (`planCircuit`).

* `invalid_circuit_config_iff` — it fails with `InvalidCircuitConfig`
  exactly when `min_hops` is below the platform's minimum or `max_hops`
  above its maximum, and then touches nothing. The two arguments are never
  compared with each other.
* `plan_circuit_outcome` — for `max_hops ≥ 1` and every shuffle that
  permutes the discovered list, the plan fails with `NotEnoughPeers`
  exactly when fewer than `max_hops - 1` peers were discovered, and is
  otherwise `max_hops - 1` discovered peers, at distinct positions of the
  list, followed by the target.
* `inverted_hop_bounds_pass` and `target_chosen_as_relay` — what the
  check lets through: `(2, 1)` on a native target plans the target alone,
  `(2, 0)` reaches `max_hops - 1` at zero, and a discovered list holding
  the target can put it on the path as a relay.

## How the proofs go

The shuffled list is a permutation of the discovered one
(`selectedPeers_perm`, from `List.Perm.filterMap` and the identity
shuffle), so each of its prefixes is a sub-multiset of the discovered
list. For `max_hops ≥ 1` the wrapped count `max_hops as usize - 1` is the
plain difference on both platforms (`needed_of_pos`). The call itself is
the check, then discovery, then the plan (`buildOnionCircuit_of_discovered`);
discovery fails only with `NotConnected` or `SignalingError`
(`discoverPeers_error`), and the plan only with `NotEnoughPeers`.
-/
import Mathlib
import Zks.Wire.SwarmControllerTheorems
import Zks.Wire.FrameCodecs

namespace Zks.Wire.SwarmController

/-- The `target_peer_info` that `build_onion_circuit` appends as the last
hop. -/
def targetPeerInfo (targetPeer : String) : PeerInfo :=
  { peerId := targetPeer, publicKey := [], capabilities := .default, lastSeen := 0, addresses := [] }

/-! ## The hop check -/

theorem checkHops_ok_iff (platform : Platform) (minHops maxHops : UInt8) :
    checkHops platform minHops maxHops = .ok () ↔
      ¬(minHops < platform.transportCapabilities.minHops ∨
        platform.transportCapabilities.maxHops < maxHops) := by
  simp only [checkHops]
  split <;> simp_all

/-- Discovery fails only for want of a client or with the client's error. -/
theorem discoverPeers_error {ctl ctl' : SwarmController} {roomId : String} {e : SwarmControllerError}
    (h : ctl.discoverPeers roomId = (ctl', .error e)) : e = .notConnected ∨ ∃ s, e = .signalingError s := by
  unfold discoverPeers delegate at h
  split at h
  · cases h; exact .inl rfl
  · rename_i c _
    revert h
    cases hr : (c.discoverPeers roomId).2 <;> simp [hr]
    rintro - rfl
    exact .inr ⟨_, rfl⟩

/-- `build_onion_circuit` once its hop bounds pass and discovery returned
`peers`. -/
theorem buildOnionCircuit_of_discovered {ctl ctl' : SwarmController} {minHops maxHops : UInt8}
    {peers : List PeerInfo} (hc : checkHops ctl.platform minHops maxHops = .ok ())
    (hd : ctl.discoverPeers "default" = (ctl', .ok peers)) (targetPeer : String) (shuffle : List Nat)
    (uuid : String) :
    ctl.buildOnionCircuit targetPeer minHops maxHops shuffle uuid =
      (ctl', (planCircuit ctl.platform targetPeer maxHops peers shuffle uuid).map (·.2)) := by
  have hp : ctl'.platform = ctl.platform := by
    have := delegate_fst ctl "Failed to discover peers" fun c => c.discoverPeers "default"
    rw [← discoverPeers, hd] at this
    simp only at this
    rw [this]
  simp only [buildOnionCircuit, hc, hd, hp]

/-- **`InvalidCircuitConfig` exactly for bounds outside the platform's**:
`min_hops` below its minimum or `max_hops` above its maximum. The
controller is then left as it was. -/
theorem invalid_circuit_config_iff (ctl : SwarmController) (targetPeer : String) (minHops maxHops : UInt8)
    (shuffle : List Nat) (uuid : String) :
    ((∃ s, (ctl.buildOnionCircuit targetPeer minHops maxHops shuffle uuid).2 = .error (.invalidCircuitConfig s)) ↔
      minHops < ctl.platform.transportCapabilities.minHops ∨
        ctl.platform.transportCapabilities.maxHops < maxHops) ∧
    (minHops < ctl.platform.transportCapabilities.minHops ∨
        ctl.platform.transportCapabilities.maxHops < maxHops →
      (ctl.buildOnionCircuit targetPeer minHops maxHops shuffle uuid).1 = ctl) := by
  rcases hc : checkHops ctl.platform minHops maxHops with e | ⟨⟩
  · have hb := not_not.1 (mt (checkHops_ok_iff ctl.platform minHops maxHops).2 (by simp [hc]))
    obtain ⟨s, rfl⟩ := checkHops_error hc
    simp [buildOnionCircuit, hc, hb]
  · have hb := (checkHops_ok_iff ctl.platform minHops maxHops).1 hc
    simp only [hb, iff_false, false_implies, and_true, not_exists]
    intro s
    rcases hd : ctl.discoverPeers "default" with ⟨ctl', e | peers⟩
    · rcases discoverPeers_error hd with rfl | ⟨_, rfl⟩ <;>
        simp [buildOnionCircuit, hc, hd]
    · rw [buildOnionCircuit_of_discovered hc hd]
      rcases hpl : planCircuit ctl.platform targetPeer maxHops peers shuffle uuid with e | r
      · obtain ⟨_, rfl⟩ := planCircuit_error hpl
        simp [Except.map]
      · simp [Except.map]

/-! ## The plan -/

theorem filterMap_range_getElem? {α : Type} (l : List α) :
    (List.range l.length).filterMap (fun i => l[i]?) = l := by
  rw [← List.map_coe_finRange, List.filterMap_map]
  conv_rhs => rw [← List.finRange_map_get l]
  rw [← List.filterMap_eq_map]
  exact List.filterMap_congr fun i _ => by simp

/-- A shuffle that permutes the indices permutes the peers. -/
theorem selectedPeers_perm {peers : List PeerInfo} {shuffle : List Nat}
    (h : shuffle.Perm (List.range peers.length)) :
    (shuffle.filterMap fun i => peers[i]?).Perm peers := by
  simpa only [filterMap_range_getElem?] using h.filterMap fun i => peers[i]?

/-- For `max_hops ≥ 1`, `max_hops as usize - 1` does not wrap. -/
theorem needed_of_pos (platform : Platform) {maxHops : UInt8} (h : 1 ≤ maxHops.toNat) :
    (maxHops.toNat + 2 ^ platform.usizeBits - 1) % 2 ^ platform.usizeBits = maxHops.toNat - 1 := by
  have : maxHops.toNat < 2 ^ 8 := maxHops.toNat_lt_size
  cases platform <;> simp only [Platform.usizeBits] <;> omega

/-- **The plan, for `max_hops ≥ 1`.** For every shuffle that permutes the
discovered peers: fewer than `max_hops - 1` of them give `NotEnoughPeers`;
otherwise the path is `max_hops - 1` discovered peers, at distinct
positions of the list, followed by the target, and the circuit id is
`circuit_<uuid>`. -/
theorem plan_circuit_outcome (platform : Platform) (targetPeer : String) {maxHops : UInt8}
    (hpos : 1 ≤ maxHops) (peers : List PeerInfo) {shuffle : List Nat}
    (hsh : shuffle.Perm (List.range peers.length)) (uuid : String) :
    (peers.length < maxHops.toNat - 1 ∧
      ∃ s, planCircuit platform targetPeer maxHops peers shuffle uuid = .error (.notEnoughPeers s)) ∨
    (maxHops.toNat - 1 ≤ peers.length ∧
      ∃ relays, planCircuit platform targetPeer maxHops peers shuffle uuid =
          .ok (relays ++ [targetPeerInfo targetPeer], "circuit_" ++ uuid) ∧
        relays.length = maxHops.toNat - 1 ∧ relays.Subperm peers) := by
  have hsub : (maxHops - 1).toNat = maxHops.toNat - 1 := UInt8.toNat_sub_of_le _ _ hpos
  have hperm := selectedPeers_perm hsh
  unfold planCircuit
  rw [needed_of_pos platform hpos, hsub]
  by_cases hlt : peers.length < maxHops.toNat - 1
  · exact .inl ⟨hlt, _, if_pos hlt⟩
  · refine .inr ⟨by omega, _, if_neg hlt, ?_, (List.take_sublist _ _).subperm.trans hperm.subperm⟩
    rw [List.length_take, hperm.length_eq]
    omega

theorem plan_circuit_outcome_three_hops :
    (1 : UInt8) ≤ 3 ∧ [1, 0].Perm (List.range [targetPeerInfo "a", targetPeerInfo "b"].length) ∧
      (([targetPeerInfo "a", targetPeerInfo "b"].length < (3 : UInt8).toNat - 1 ∧
          ∃ s, planCircuit .webAssembly "t" 3 [targetPeerInfo "a", targetPeerInfo "b"] [1, 0] "u" =
            .error (.notEnoughPeers s)) ∨
        ((3 : UInt8).toNat - 1 ≤ [targetPeerInfo "a", targetPeerInfo "b"].length ∧
          ∃ relays, planCircuit .webAssembly "t" 3 [targetPeerInfo "a", targetPeerInfo "b"] [1, 0] "u" =
              .ok (relays ++ [targetPeerInfo "t"], "circuit_" ++ "u") ∧
            relays.length = (3 : UInt8).toNat - 1 ∧ relays.Subperm [targetPeerInfo "a", targetPeerInfo "b"])) :=
  ⟨by decide, by decide, @plan_circuit_outcome .webAssembly "t" 3 (by decide) _ [1, 0] (by decide) "u"⟩

/-! ## What the check lets through -/

/-- A native controller whose signaling stream answers its next request
with `Peers(peers)`. -/
def answeringController (peers : List PeerInfo) : SwarmController where
  platform := .native
  signalingClient := some
    { wsStream := { incoming := [.frame (.text (SignalingMessage.peers peers).toText)], sink := [], sent := [] },
      peerId := "local", isConnected := true }
  isConnected := true
  localPeerId := some "local"

@[simp] theorem platform_answeringController (peers : List PeerInfo) :
    (answeringController peers).platform = .native := rfl

theorem discoverPeers_answeringController (peers : List PeerInfo) :
    (answeringController peers).discoverPeers "default" =
      (((answeringController peers).discoverPeers "default").1, .ok peers) := by
  simp [answeringController, discoverPeers, delegate, SignalingClient.discoverPeers,
    SignalingClient.sendMessage, WsStream.send, SignalingClient.receiveMessage, receiveLoop,
    Received.result, SignalingMessage.fromText_toText, SignalingClient.peersReply]

/-- On a native target the hop check lets `(min 2, max 1)` through, and
`build_onion_circuit` returns `Ok` for the path of the target alone, one
hop below the platform's minimum, whatever was discovered. It lets
`(min 2, max 0)` through too, so `max_hops as usize - 1` and `max_hops - 1`
are computed at zero: a release build wraps both, and the error asks for
255 peers. -/
theorem inverted_hop_bounds_pass (peers : List PeerInfo) (targetPeer : String) (shuffle : List Nat)
    (uuid : String) :
    ((answeringController peers).buildOnionCircuit targetPeer 2 1 shuffle uuid).2 = .ok ("circuit_" ++ uuid) ∧
    planCircuit .native targetPeer 1 peers shuffle uuid = .ok ([targetPeerInfo targetPeer], "circuit_" ++ uuid) ∧
    ((answeringController []).buildOnionCircuit targetPeer 2 0 shuffle uuid).2 =
      .error (.notEnoughPeers "Need at least 255 peers for 0-hop circuit, found 0") := by
  have hplan : planCircuit .native targetPeer 1 peers shuffle uuid =
      .ok ([targetPeerInfo targetPeer], "circuit_" ++ uuid) := by
    simp [planCircuit, targetPeerInfo, Platform.usizeBits]
  refine ⟨?_, hplan, ?_⟩
  · rw [buildOnionCircuit_of_discovered (by rfl) (discoverPeers_answeringController peers),
      platform_answeringController, hplan]
    rfl
  · rw [buildOnionCircuit_of_discovered (by rfl) (discoverPeers_answeringController [])]
    rfl

/-- A discovered list that holds the target: on a native target with
`(min 2, max 2)`, one discovered peer whose id is the target's passes the
count check, and the path routes through the target itself, that peer
first and the target last. -/
theorem target_chosen_as_relay (p : PeerInfo) (uuid : String) :
    ((answeringController [p]).buildOnionCircuit p.peerId 2 2 [0] uuid).2 = .ok ("circuit_" ++ uuid) ∧
    planCircuit .native p.peerId 2 [p] [0] uuid = .ok ([p, targetPeerInfo p.peerId], "circuit_" ++ uuid) := by
  have hplan : planCircuit .native p.peerId 2 [p] [0] uuid =
      .ok ([p, targetPeerInfo p.peerId], "circuit_" ++ uuid) := by
    simp [planCircuit, targetPeerInfo, Platform.usizeBits, UInt8.size]
  refine ⟨?_, hplan⟩
  rw [buildOnionCircuit_of_discovered (by rfl) (discoverPeers_answeringController [p]),
    platform_answeringController, hplan]
  rfl

end Zks.Wire.SwarmController
