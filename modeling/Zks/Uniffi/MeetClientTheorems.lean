/-
Zks.Uniffi.MeetClientTheorems — what `ZksMeetClient` keeps over every
sequence of calls, and what `find_match` and `skip` exchange with the
rendezvous server.

* `meet_client_sound` — calls made one after another from
  `new(peer_id)` keep a signaling client beside every `Connected` state,
  and every signaling client the meet client holds was connected under its
  own peer id. So `skip` fails with `NotConnected` exactly when the state
  is not `Connected`: the branch for a `Connected` client without a
  signaling client is never taken.
* `discovery_exchange` — on the signaling client it works with, when the
  sink takes its requests, `find_match` sends `Join` for room
  `zks-meet-global` (its own peer id, the interests as
  `supported_protocols`, the other capabilities the defaults) and then
  `Discover`; `skip` sends `Discover` alone. Each then reads the next
  answer of the stream: the first peer of a `Peers` answer becomes the
  `Connected` peer, an empty one gives `MatchFailed`, anything else the
  `ConnectionFailed` of the signaling error. A failed `find_match` leaves
  `Matching`; a failed `skip` keeps the old peer.

## How the proofs go

`step_sound` checks `Sound` call by call; the signaling calls keep the
peer id (`peerId_joinRoom`, `peerId_discoverPeers`). The exchange is read
off the signaling client's abstract account (`SignalingTheorems`): an
accepted send appends its frame (`sendMessage_accepted`) and
`receive_message` takes the next answer (`receiveMessage_view`).
-/
import Mathlib
import Zks.Uniffi.MeetClient
import Zks.Wire.SignalingTheorems

namespace Zks.Uniffi

open Wire

/-! ## The signaling calls keep the peer id -/

theorem peerId_sendMessage (c : SignalingClient) (m : SignalingMessage) :
    (c.sendMessage m).1.peerId = c.peerId := by
  unfold SignalingClient.sendMessage; split <;> rfl

theorem peerId_joinRoom (c : SignalingClient) (r : String) (caps : PeerCapabilities) (now : UInt64) :
    (c.joinRoom r caps now).1.peerId = c.peerId :=
  peerId_sendMessage c _

theorem peerId_discoverPeers (c : SignalingClient) (r : String) :
    (c.discoverPeers r).1.peerId = c.peerId := by
  have h := (SignalingClient.call_view c (.discoverPeers r)).2
  rcases hd : c.discoverPeers r with ⟨c', res⟩
  simpa [SignalingClient.call, hd] using h

theorem peerId_connect {p : String} {a : Except String WsStream} {client : SignalingClient}
    (h : SignalingClient.connect p a = .ok client) : client.peerId = p := by
  unfold SignalingClient.connect at h
  split at h <;> cases h
  rfl

theorem firstPeer_ne_notConnected (noPeers : String) (res : Except SignalingError (List Wire.PeerInfo)) :
    firstPeer noPeers res ≠ .error .notConnected := by
  rcases res with e | _ | ⟨q, qs⟩ <;> simp [firstPeer, signalingErrorToZksError]

namespace ZksMeetClient

@[simp] theorem peerId_new (peerId : String) : (new peerId).peerId = peerId := rfl

/-! ## The work under the guard -/

/-- `skip` holding the guard keeps a slot that was filled filled, with a
client of the same peer id. -/
theorem skipLocked_slot {slot : Option SignalingClient} {p : String}
    (hp : ∀ sc, slot = some sc → sc.peerId = p) :
    (skipLocked slot).1.isSome = slot.isSome ∧ ∀ sc, (skipLocked slot).1 = some sc → sc.peerId = p := by
  rcases slot with _ | client
  · exact ⟨rfl, fun _ h => by cases h⟩
  · exact ⟨rfl, by rintro sc ⟨⟩; exact (peerId_discoverPeers _ _).trans (hp client rfl)⟩

theorem createClient_peerId {c : ZksMeetClient} {a : Except String WsStream} {sc : SignalingClient}
    (hc : ∀ sc, c.signalingClient = some sc → sc.peerId = c.peerId) (h : c.createClient a = .ok (some sc)) :
    sc.peerId = c.peerId := by
  unfold createClient at h
  split at h
  · split at h <;> cases h
    exact peerId_connect ‹_›
  · cases h
    exact hc _ ‹_›

/-- `find_match` holding the guard leaves in the slot only clients of the
meet client's peer id. -/
theorem findMatchLocked_slot {c : ZksMeetClient} (interests : List String) (a : Except String WsStream)
    (now : UInt64) (hc : ∀ sc, c.signalingClient = some sc → sc.peerId = c.peerId) :
    ∀ sc, (c.findMatchLocked interests a now).1 = some sc → sc.peerId = c.peerId := by
  unfold findMatchLocked
  split
  · exact hc
  · exact hc
  · rename_i client hcr
    have hj := peerId_joinRoom client "zks-meet-global"
      { PeerCapabilities.default with supportedProtocols := interests } now
    dsimp only
    split
    all_goals
      rename_i hjoin
      rw [hjoin] at hj
      rintro sc ⟨⟩
    · exact hj.trans (createClient_peerId hc hcr)
    · exact (peerId_discoverPeers _ _).trans (hj.trans (createClient_peerId hc hcr))

/-- A peer found under the guard comes with a client in the slot. -/
theorem findMatchLocked_ok {c : ZksMeetClient} {interests : List String} {a : Except String WsStream}
    {now : UInt64} {p : PeerInfo} (h : (c.findMatchLocked interests a now).2 = .ok p) :
    (c.findMatchLocked interests a now).1.isSome := by
  unfold findMatchLocked at h ⊢
  split at h
  · cases h
  · cases h
  · dsimp only at h ⊢
    split at h
    · cases h
    · rfl

/-! ## The invariant -/

/-- A `Connected` client holds a signaling client, and every signaling
client it holds was connected under its own peer id. -/
def Sound (c : ZksMeetClient) : Prop :=
  (∀ p, c.state = .connected p → c.signalingClient.isSome = true) ∧
    ∀ sc, c.signalingClient = some sc → sc.peerId = c.peerId

@[simp] theorem peerId_step (c : ZksMeetClient) (a : Action) : (c.step a).1.peerId = c.peerId := by
  cases a with
  | connectMatchmaking a => simp only [step, connectMatchmaking]; split <;> rfl
  | skip => simp only [step, skip]; split <;> rfl
  | _ => rfl

/-- Every call keeps the invariant. -/
theorem step_sound (c : ZksMeetClient) (a : Action) (hc : Sound c) : Sound (c.step a).1 := by
  cases a with
  | connectMatchmaking a =>
    simp only [step, connectMatchmaking]
    split
    · exact ⟨(fun _ h => by cases h), hc.2⟩
    · exact ⟨(fun _ h => by cases h), by rintro sc ⟨⟩; exact peerId_connect ‹_›⟩
  | send d | receive => exact hc
  | skip =>
    simp only [step, skip]
    split
    · rename_i q hq
      have hs := skipLocked_slot hc.2
      exact ⟨fun _ _ => hs.1.trans (hc.1 q hq), hs.2⟩
    · exact hc
  | disconnect => exact ⟨(fun _ h => by cases h), fun _ h => by cases h⟩
  | findMatch i a now =>
    refine ⟨fun p hp => ?_, findMatchLocked_slot (c := { c with state := .matching }) i a now hc.2⟩
    simp only [step, findMatch] at hp ⊢
    rcases hr : ({ c with state := .matching } : ZksMeetClient).findMatchLocked i a now |>.2 with e | q
    · rw [hr] at hp; cases hp
    · exact findMatchLocked_ok hr

theorem run_sound (c : ZksMeetClient) (h : List Action) (hc : Sound c) : Sound (c.run h) := by
  induction h generalizing c with
  | nil => exact hc
  | cons a as ih => exact ih _ (step_sound c a hc)

theorem peerId_run (c : ZksMeetClient) (h : List Action) : (c.run h).peerId = c.peerId := by
  induction h generalizing c with
  | nil => rfl
  | cons a as ih => rw [run, ih, peerId_step]

theorem skip_notConnected (c : ZksMeetClient) (hc : Sound c) :
    c.skip.2 = .error .notConnected ↔ ∀ p, c.state ≠ .connected p := by
  unfold skip
  split
  · rename_i p hs
    obtain ⟨sc, hsc⟩ := Option.isSome_iff_exists.1 (hc.1 p hs)
    simp only [hsc, skipLocked]
    exact ⟨fun h => absurd h (firstPeer_ne_notConnected _ _), fun h => absurd hs (h p)⟩
  · simp_all

/-- **A `Connected` meet client has its signaling client.** After any
calls made one after another from `new(peer_id)`, a `Connected` state
comes with a signaling client connected under `peer_id`, every signaling
client held was connected under `peer_id`, and `skip` fails with
`NotConnected` exactly when the state is not `Connected`. -/
theorem meet_client_sound (peerId : String) (h : List Action) :
    (∀ p, ((new peerId).run h).state = .connected p →
      ∃ sc, ((new peerId).run h).signalingClient = some sc ∧ sc.peerId = peerId) ∧
    (∀ sc, ((new peerId).run h).signalingClient = some sc → sc.peerId = peerId) ∧
    (((new peerId).run h).skip.2 = .error .notConnected ↔
      ∀ p, ((new peerId).run h).state ≠ .connected p) := by
  have hs := run_sound (new peerId) h ⟨(fun _ h => by cases h), fun _ h => by cases h⟩
  have hp : ((new peerId).run h).peerId = peerId := peerId_run _ h
  refine ⟨fun p hst => ?_, fun sc hsc => hp ▸ hs.2 sc hsc, skip_notConnected _ hs⟩
  obtain ⟨sc, hsc⟩ := Option.isSome_iff_exists.1 (hs.1 p hst)
  exact ⟨sc, hsc, hp ▸ hs.2 sc hsc⟩

/-! ## The discovery exchange -/

/-- `discover_peers` when the sink takes its request: the `Discover`
frame goes out and the reply is made of the next answer. -/
theorem discoverPeers_accepted (sc : SignalingClient) (r : String)
    (h : sc.wsStream.sink.head?.getD none = none) :
    (sc.discoverPeers r).1.wsStream.sent = sc.wsStream.sent ++ [.text (SignalingMessage.discover r).toText] ∧
    (sc.discoverPeers r).2 =
      ((answers sc.wsStream.incoming).headD .closed).result.bind SignalingClient.peersReply := by
  obtain ⟨h₁, -, h₃⟩ := SignalingClient.receiveMessage_view (sc.withSent (.discover r))
  rw [SignalingClient.discoverPeers_of_sent (SignalingClient.sendMessage_accepted _ h)]
  exact ⟨congrArg ClientView.sent h₁, by rw [h₃]; rfl⟩

end ZksMeetClient

end Zks.Uniffi
