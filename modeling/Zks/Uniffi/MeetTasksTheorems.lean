/-
Zks.Uniffi.MeetTasksTheorems — an interleaving of the meet client's calls
that reaches a state no sequence of calls reaches.

* `disconnect_during_find_match` — whenever `find_match` would find a
  peer, a `disconnect` that writes `Disconnected` while `find_match` holds
  the guard is overwritten by `find_match`'s `Connected`, and then empties
  the slot: both calls return `Ok`, the client says `Connected` with no
  signaling client, and `skip` fails with `NotConnected`. No sequence of
  calls made one after another reaches that client.

## How the proofs go

`findMatch_new_ok` reads off a `find_match` that found a peer what each
of its awaits gave; the interleaved run is then computed step by step, and
`run_sound` of `Zks.Uniffi.MeetClientTheorems` says no sequence of calls
leaves a `Connected` client without a signaling client.
-/
import Mathlib
import Zks.Uniffi.MeetTasks
import Zks.Uniffi.MeetClientTheorems
import Zks.Wire.FrameCodecs

namespace Zks.Uniffi

open Wire ZksMeetClient

namespace MeetTasks

@[simp] theorem run_nil (m : MeetTasks) : m.run [] = m := rfl

@[simp] theorem run_cons (m : MeetTasks) (i : Nat) (is : List Nat) : m.run (i :: is) = (m.step i).run is := rfl

/-- What each await of a `find_match` on `new(peer_id)` that found `p`
gave: the dial a client, the join `Ok`, and the discovery a list whose
first peer is `p`. -/
theorem findMatch_new_ok {peerId : String} {interests : List String} {attempt : Except String WsStream}
    {now : UInt64} {p : PeerInfo} (hp : ((new peerId).findMatch interests attempt now).2 = .ok p) :
    ∃ client₀ client₁ client₂ r, SignalingClient.connect peerId attempt = .ok client₀ ∧
      client₀.joinRoom "zks-meet-global" { PeerCapabilities.default with supportedProtocols := interests } now =
        (client₁, .ok ()) ∧
      client₁.discoverPeers "zks-meet-global" = (client₂, r) ∧ firstPeer "No matching peers found" r = .ok p := by
  simp only [findMatch, findMatchLocked, createClient, new] at hp
  rcases h₀ : SignalingClient.connect peerId attempt with e | client₀ <;> simp only [h₀] at hp
  · cases hp
  rcases h₁ : client₀.joinRoom "zks-meet-global" { PeerCapabilities.default with supportedProtocols := interests } now
    with ⟨client₁, _ | ⟨⟩⟩ <;> simp only [h₁] at hp
  · cases hp
  exact ⟨client₀, client₁, _, _, rfl, h₁, rfl, hp⟩

/-! ## A disconnect during a match -/

/-- **A `disconnect` during `find_match` leaves `Connected` without a
signaling client.** Whenever `find_match` on `new(peer_id)` would find
peer `p`, the interleaving in which `disconnect` writes `Disconnected`
while `find_match` holds the slot's guard (`find_match` starts, takes the
guard, dials, joins and discovers; `disconnect` writes the state and waits
for the guard; `find_match` writes `Connected` and returns; `disconnect`
empties the slot) returns `Ok` to both callers and leaves the client
`Connected` to `p` with no signaling client, so that `skip` fails with
`NotConnected`. No sequence of calls made one after another from
`new(peer_id)` reaches that client. -/
theorem disconnect_during_find_match (peerId : String) (interests : List String)
    (attempt : Except String WsStream) (now : UInt64) (p : PeerInfo)
    (hp : ((new peerId).findMatch interests attempt now).2 = .ok p) :
    let m := (init (new peerId) [.findMatch interests attempt now, .disconnect]).run [0, 0, 0, 0, 0, 1, 0, 1]
    m.result? 0 = some (.ok (.peer p)) ∧ m.result? 1 = some (.ok .unit) ∧
      m.client.state = .connected p ∧ m.client.signalingClient = none ∧
      m.client.skip.2 = .error .notConnected ∧
      ∀ calls : List Action, (new peerId).run calls ≠ m.client := by
  obtain ⟨client₀, client₁, client₂, r, h₀, h₁, h₂, h₃⟩ := findMatch_new_ok hp
  have hm : (init (new peerId) [.findMatch interests attempt now, .disconnect]).run [0, 0, 0, 0, 0, 1, 0, 1] =
      { client := { peerId, state := .connected p, signalingClient := none }, holder := none,
        tasks := [(.findMatch interests attempt now, .done (.ok (.peer p))), (.disconnect, .done (.ok .unit))] } := by
    simp [init, step, advance, new, h₀, h₁, h₂, h₃, noPeers]
  rw [hm]
  refine ⟨rfl, rfl, rfl, rfl, rfl, fun calls heq => ?_⟩
  have hs := (run_sound (new peerId) calls ⟨(fun _ h => by cases h), fun _ h => by cases h⟩).1 p
  rw [heq] at hs
  exact absurd (hs rfl) Bool.false_ne_true

/-- A rendezvous server that answers `Discover` with one peer `q`. -/
def answeringStream (q : Wire.PeerInfo) : WsStream :=
  { incoming := [.frame (.text (SignalingMessage.peers [q]).toText)], sink := [], sent := [] }

theorem findMatch_answeringStream (peerId : String) (interests : List String) (now : UInt64)
    (q : Wire.PeerInfo) :
    ((new peerId).findMatch interests (.ok (answeringStream q)) now).2 = .ok (wirePeerToUniffiPeer q) := by
  simp [findMatch, findMatchLocked, createClient, new, answeringStream, SignalingClient.connect,
    SignalingClient.joinRoom, SignalingClient.discoverPeers, SignalingClient.sendMessage, WsStream.send,
    SignalingClient.receiveMessage, receiveLoop, Received.result, SignalingMessage.fromText_toText,
    SignalingClient.peersReply, firstPeer]

theorem disconnect_during_find_match_one_peer :
    let q : Wire.PeerInfo :=
      { peerId := "b", publicKey := [], capabilities := PeerCapabilities.default, lastSeen := 0, addresses := [] }
    ((new "a").findMatch [] (.ok (answeringStream q)) 0).2 = .ok (wirePeerToUniffiPeer q) ∧
      let m := (init (new "a") [.findMatch [] (.ok (answeringStream q)) 0, .disconnect]).run
        [0, 0, 0, 0, 0, 1, 0, 1]
      m.result? 0 = some (.ok (.peer (wirePeerToUniffiPeer q))) ∧ m.result? 1 = some (.ok .unit) ∧
        m.client.state = .connected (wirePeerToUniffiPeer q) ∧ m.client.signalingClient = none ∧
        m.client.skip.2 = .error .notConnected ∧
        ∀ calls : List Action, (new "a").run calls ≠ m.client :=
  ⟨findMatch_answeringStream "a" [] 0 _,
    disconnect_during_find_match "a" [] _ 0 _ (findMatch_answeringStream "a" [] 0 _)⟩

end MeetTasks

end Zks.Uniffi
